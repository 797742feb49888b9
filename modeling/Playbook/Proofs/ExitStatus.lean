import Playbook.Proofs.Course
import Playbook.Proofs.PolitePages

/-! # How the program ends

On a page that behaves the program ends with a status and prints its summary unless a path is not given
or holds a null character, something cannot be encoded, or the report has to be written at the very end
and cannot be. A report that the disk refuses after the playbook was played is handled like any other
fault; when the page or the playbook could not be opened, the report is written where nothing handles
its fault. -/

namespace Playbook

variable {τ : Type}

/-- A run on a page that is open and from which only foreseen faults come. -/
def RunState.Ready (state : RunState τ) : Prop := state.stage.Ready Fault.Foreseen

/-- What the playing of a playbook ends in on a page that behaves. -/
theorem Production.invariant_ready [TimeScale τ] (production : Production) :
    production.Invariant (RunState.Ready : RunState τ → Prop) Fault.Foreseen Fault.Foreseen where
  steady _ _ := Stage.ready_steady
  cause _ h := h
  playbook _ hfamily := Fault.foreseen_of_family (by simp [hfamily])
  malformed := Fault.foreseen_malformed
  outcome _ _ _ _ _ h := h
  reported _ h := h
  noPath := .inr (.inl rfl)

/-- Two states of a run differ at most in the stage, and not in its disk. -/
structure RunState.Same (before after : RunState τ) : Prop where
  suite : after.suite = before.suite
  reported : after.reported = before.reported
  disk : after.stage.disk = before.stage.disk

namespace RunState.Same

theorem refl (state : RunState τ) : state.Same state := ⟨rfl, rfl, rfl⟩

theorem symm {before after : RunState τ} (h : before.Same after) : after.Same before :=
  ⟨h.suite.symm, h.reported.symm, h.disk.symm⟩

theorem trans {before middle after : RunState τ} (h : before.Same middle) (h' : middle.Same after) :
    before.Same after :=
  ⟨h'.suite.trans h.suite, h'.reported.trans h.reported, h'.disk.trans h.disk⟩

/-- A play that writes no file changes nothing else. -/
theorem onStage {α : Type} {play : Play τ α}
    (h : ∀ disk, Keeps (fun stage => stage.disk = disk) (fun _ => True) play) (state : RunState τ) :
    state.Same (upshot (Running.onStage play) state).2 :=
  ⟨rfl, rfl, (h state.stage.disk state.stage rfl).1⟩

end RunState.Same

/-- A play on the stage that writes no file. -/
theorem undisturbed_disk (disk : Disk) :
    Undisturbed (fun stage : Stage τ => stage.disk = disk) fun _ => True :=
  .of_disk fun _ _ hsame hdisk => hsame.trans hdisk

/-- Calling the browser does not touch the disk. -/
theorem Play.disk_call [TimeScale τ] (limit : Option τ) (request : Call τ) (stage : Stage τ) :
    (upshot (call limit request) stage).2.disk = stage.disk :=
  ((undisturbed_disk stage.disk).call limit request (fun _ => id) stage rfl).1

/-- The page is open once it was opened without a fault. -/
theorem Play.opened_of_enter [TimeScale τ] {stage after : Stage τ}
    (h : upshot Play.enter stage = (.ok (), after)) : after.browser.opened = true := by
  rw [Play.enter] at h
  obtain ⟨_, _, -, h⟩ := upshot_bind_eq_ok.mp h
  obtain ⟨_, _, -, h⟩ := upshot_bind_eq_ok.mp h
  obtain ⟨_, _, -, h⟩ := upshot_bind_eq_ok.mp h
  obtain ⟨_, _, -, h⟩ := upshot_bind_eq_ok.mp h
  obtain ⟨_, _, -, h⟩ := upshot_bind_eq_ok.mp h
  obtain ⟨_, _, -, h⟩ := upshot_bind_eq_ok.mp h
  obtain ⟨_, _, -, h⟩ := upshot_bind_eq_ok.mp h
  obtain ⟨_, middle, hopened, h⟩ := upshot_bind_eq_ok.mp h
  obtain ⟨-, rfl⟩ := Prod.mk.inj hopened
  obtain ⟨-, rfl⟩ := Prod.mk.inj h
  rfl

/-- Opening the page writes no file. -/
theorem RunState.Same.enter [TimeScale τ] (state : RunState τ) :
    state.Same (upshot (Running.onStage Play.enter) state).2 :=
  .onStage (fun disk => (undisturbed_disk disk).enter (fun _ _ h => h) (fun _ _ h => h)) state

/-- The clock when the pause is over. -/
def Program.resume [TimeScale τ] (clock : τ) : τ :=
  if TimeScale.before TimeScale.none (Program.pause : τ) then clock + Program.pause else clock

/-- The line that tells of the pause. -/
def Program.pauseLine (τ : Type) [TimeScale τ] : Event τ :=
  .err ("[cli] Pausing " ++ TimeScale.fixed 0 (Program.pause : τ) ++ "s before exit" ++ "\n")

/-- A run after the pause. -/
def RunState.paused [TimeScale τ] (state : RunState τ) : RunState τ where
  stage := { state.stage.noting (Program.pauseLine τ) with clock := Program.resume state.stage.clock }
  suite := state.suite
  reported := state.reported

namespace Program

open Running (onStage attempt endingWith)

/-- The playbook is opened or refused; nothing changes. -/
theorem openPlaybook_cases (settings : Settings) (input : StandardInput) (state : RunState τ) :
    (∃ reader, upshot (openPlaybook settings input) state = (.ok (.read reader), state)) ∨
      ∃ fault, upshot (openPlaybook settings input) state = (.error (.disk fault), state) := by
  rw [openPlaybook]
  split
  · exact .inl ⟨_, rfl⟩
  · rw [upshot_bind_of_ok (upshot_get state)]
    split
    · exact .inl ⟨_, rfl⟩
    · exact .inr ⟨_, rfl⟩

variable [TimeScale τ] {settings : Settings} {input : StandardInput} {state : RunState τ}

/-- Open the page and then the playbook. -/
def opening (settings : Settings) (input : StandardInput) : Running τ Source := do
  onStage Play.enter
  openPlaybook settings input

/-- A pause prints a line and takes time. -/
theorem keeps_pause {I : Stage τ → Prop} {F : Fault → Prop} (h : Undisturbed I F) (line : Text) :
    Keeps I F (Play.printErr line >>= fun _ => Play.pass none pause) :=
  (h.printErr line).bind fun _ => h.pass none _

/-- What holds throughout the runs of the production holds when it has been played on the open page. -/
theorem keeps_playWatched {J : RunState τ → Prop} {C F : Fault → Prop}
    (h : (production settings).Invariant J C F) (input : StandardInput) :
    Keeps J F (playWatched settings input) := by
  have hopen : Keeps J F (playOpen settings input) := by
    intro state hstate
    rw [playOpen, upshot_bind]
    rcases openPlaybook_cases settings input state with ⟨reader, hopened⟩ | ⟨fault, hrefused⟩
    · rw [hopened]
      exact h.run reader state hstate
    · rw [hrefused]
      have hdisk := h.cause _ ((h.steady state.suite state.reported).refused fault)
      exact ⟨hstate, by rintro _ ⟨⟩; exact hdisk⟩
  refine hopen.tryCatch fun fault hfault => ?_
  dsimp only
  split
  · have hpause : Keeps J C pauseBeforeExit := Running.keeps_onStage fun suite reported =>
      keeps_pause (h.steady suite reported).toUndisturbed _
    exact (hpause.mono h.cause).bind fun _ => keeps_throw hfault
  · exact keeps_throw hfault

/-- What also stays when anything is noted or made of the browser holds when the page has been closed. -/
theorem keeps_playOnPage {J : RunState τ → Prop} {C F : Fault → Prop}
    (h : (production settings).Invariant J C F)
    (hevent : ∀ state event, J state → J { state with stage := state.stage.noting event })
    (hbrowser : ∀ state browser, J state →
      J { state with stage := { state.stage with browser := browser } }) (input : StandardInput) :
    Keeps J F (playOnPage settings input) := by
  have henter : Keeps J C (onStage (Play.enter : Play τ Unit)) :=
    Running.keeps_onStage fun suite reported => (h.steady suite reported).toUndisturbed.enter
      (fun stage => hevent ⟨stage, suite, reported⟩) fun stage => hbrowser ⟨stage, suite, reported⟩
  have hleave : Keeps J C (onStage (Play.leave : Play τ Unit)) :=
    Running.keeps_onStage fun suite reported => (h.steady suite reported).toUndisturbed.leave
      fun stage => hevent ⟨stage, suite, reported⟩
  exact (henter.mono h.cause).bind fun _ =>
    Running.keeps_endingWith (keeps_playWatched h input) (hleave.mono h.cause)

/-- On a page that behaves the playing ends in foreseen faults. -/
theorem foreseen_of_playOnPage (hstart : state.stage.Polite) {fault : Fault}
    (h : (upshot (playOnPage settings input) state).1 = .error fault) : fault.Foreseen := by
  have hundisturbed : Undisturbed (Stage.Tells Fault.Foreseen : Stage τ → Prop) Fault.Foreseen :=
    Stage.tells_undisturbed (fun _ h => h) (.inl rfl)
  have henter := hundisturbed.enter (fun _ _ h => h) (fun _ _ h => h) state.stage hstart.tells
  rw [playOnPage, upshot_bind, Running.upshot_onStage] at h
  cases hupshot : upshot Play.enter state.stage with
  | mk result opened =>
      rw [hupshot] at h henter
      cases result with
      | error other => exact henter.2 fault h
      | ok =>
          have hready : RunState.Ready { state with stage := opened } :=
            ⟨henter.1, Play.opened_of_enter hupshot⟩
          have hleave : Keeps RunState.Ready Fault.Foreseen (onStage (Play.leave : Play τ Unit)) :=
            Running.keeps_onStage fun _ _ =>
              Stage.ready_steady.leave fun _ _ h => ⟨h.told, h.opened⟩
          have hends := Running.keeps_endingWith
            (keeps_playWatched (production settings).invariant_ready input) hleave
          exact (hends _ hready).2 fault h

theorem upshot_pauseBeforeExit (state : RunState τ) :
    upshot pauseBeforeExit state = (.ok (), state.paused) := by
  have hpass (stage : Stage τ) : upshot (Play.pass none pause) stage =
      (.ok (), { stage with clock := resume stage.clock }) := by
    rw [Play.pass, resume]
    split <;> rfl
  rw [pauseBeforeExit, Running.upshot_onStage, upshot_bind_of_ok (Play.upshot_printErr ..), hpass]
  rfl

/-- A playbook is watched by pausing after some faults, when debugging. -/
theorem upshot_playWatched (settings : Settings) (input : StandardInput) (state : RunState τ) :
    upshot (playWatched settings input) state =
      match upshot (playOpen settings input) state with
      | (.ok (), left) => (.ok (), left)
      | (.error fault, left) =>
          (.error fault, if pausesOn fault && settings.debug then left.paused else left) := by
  rw [playWatched, upshot_tryCatch]
  cases upshot (playOpen settings input) state with
  | mk result left =>
      cases result with
      | ok => rfl
      | error fault =>
          dsimp only
          split
          · rw [upshot_bind_of_ok (upshot_pauseBeforeExit left), upshot_throw]
          · rfl

/-- A pause changes nothing about how the playing ends. -/
theorem playWatched_result (settings : Settings) (input : StandardInput) (state : RunState τ) :
    (upshot (playWatched settings input) state).1 = (upshot (playOpen settings input) state).1 := by
  rw [upshot_playWatched]
  cases upshot (playOpen settings input) state with
  | mk result left => cases result <;> rfl

/-- All that may follow the playing on the open page is a pause. -/
theorem playWatched_cases (settings : Settings) (input : StandardInput) (state : RunState τ) :
    (upshot (playWatched settings input) state).2 = (upshot (playOpen settings input) state).2 ∨
      (upshot (playWatched settings input) state).2 =
        (upshot (playOpen settings input) state).2.paused := by
  rw [upshot_playWatched]
  cases upshot (playOpen settings input) state with
  | mk result left =>
      cases result with
      | ok => exact .inl rfl
      | error fault =>
          dsimp only
          split
          · exact .inr rfl
          · exact .inl rfl

/-- Neither a pause nor the closing of the page writes a file. -/
theorem same_of_playOpen (settings : Settings) (input : StandardInput) (opened : RunState τ) :
    (upshot (playOpen settings input) opened).2.Same
      (upshot (endingWith (playWatched settings input) (onStage Play.leave)) opened).2 := by
  have hwatched : (upshot (playOpen settings input) opened).2.Same
      (upshot (playWatched settings input) opened).2 := by
    rcases playWatched_cases settings input opened with hleft | hpaused
    · rw [hleft]
      exact .refl _
    · rw [hpaused]
      exact ⟨rfl, rfl, rfl⟩
  rw [Running.endingWith_state]
  exact hwatched.trans (.onStage (fun disk => (undisturbed_disk disk).leave fun _ _ h => h) _)

/-- If the page and the playbook can be opened, all that still happens after the run of the playbook is
on the stage, and no file is written. Otherwise that is all that happens. -/
theorem playOnPage_cases (settings : Settings) (input : StandardInput) (state : RunState τ) :
    (∃ source opened, upshot (opening settings input) state = (.ok source, opened) ∧
        state.Same opened ∧ (upshot ((production settings).run source) opened).2.Same
          (upshot (playOnPage settings input) state).2) ∨
      ∃ fault, (upshot (opening settings input) state).1 = .error fault ∧
        state.Same (upshot (playOnPage settings input) state).2 := by
  have henter := RunState.Same.enter state
  rw [opening, playOnPage, upshot_bind, upshot_bind]
  cases hupshot : upshot (onStage Play.enter) state with
  | mk result opened =>
      rw [hupshot] at henter
      cases result with
      | error fault => exact .inr ⟨fault, rfl, henter⟩
      | ok =>
          dsimp only
          have hsame := same_of_playOpen settings input opened
          rcases openPlaybook_cases settings input opened with ⟨reader, hread⟩ | ⟨fault, hrefused⟩
          · rw [playOpen, upshot_bind_of_ok hread] at hsame
            exact .inl ⟨.read reader, opened, hread, henter, hsame⟩
          · rw [playOpen, upshot_bind_of_error hrefused] at hsame
            exact .inr ⟨.disk fault, by rw [hrefused], henter.trans hsame⟩

/-- The status is zero or one unless the playing ends in a defect. -/
theorem status_iff : ((upshot (status settings input) state).1 = .ok 0 ∨
      (upshot (status settings input) state).1 = .ok 1) ↔
    ∀ fault, (upshot (playOnPage settings input) state).1 = .error fault →
      fault.isExpected = true := by
  rw [status, upshot_bind_of_ok (Running.upshot_attempt ..)]
  cases (upshot (playOnPage settings input) state).1 with
  | ok => simp
  | error fault =>
      dsimp only
      split
      · rename_i hexpected
        exact iff_of_true (.inr rfl) (by simpa using hexpected)
      · rename_i hdefect
        simpa using hdefect

theorem same_of_status (settings : Settings) (input : StandardInput) (state : RunState τ) :
    (upshot (playOnPage settings input) state).2.Same (upshot (status settings input) state).2 := by
  rw [status, upshot_bind_of_ok (Running.upshot_attempt ..)]
  cases (upshot (playOnPage settings input) state).1 with
  | ok => exact .refl _
  | error fault =>
      dsimp only
      split
      · exact .onStage (fun disk => (undisturbed_disk disk).printErr _) _
      · exact .refl _

/-- The report of the suite can be encoded and written. -/
def CanReport (settings : Settings) (state : RunState τ) : Prop :=
  ∃ path octets after, settings.reportPath = .value path ∧ state.suite.xml.encode .strict = .ok octets ∧
    state.stage.disk.write (Path.ofText path).text octets = .ok after

theorem canReport_iff_of_same {before after : RunState τ} (h : before.Same after) :
    CanReport settings after ↔ CanReport settings before := by
  rw [CanReport, CanReport, h.suite, h.disk]

/-- A report that has not been tried yet succeeds if it can be written. -/
theorem report_iff {state : RunState τ} (h : state.reported = false) :
    (upshot (production settings).report state).1 = .ok () ↔ CanReport settings state := by
  rw [Production.report_result, Production.refusal?, if_neg (by simp [h]), CanReport,
    Text.encodingFault?, Text.octets]
  dsimp only [production]
  cases settings.reportPath with
  | nothing => simp
  | value path =>
      dsimp only
      cases state.suite.xml.encode .strict with
      | error fault =>
          cases hwrite : state.stage.disk.write (Path.ofText path).text [] <;>
            simp [Except.toOption, hwrite]
      | ok octets =>
          cases hwrite : state.stage.disk.write (Path.ofText path).text octets <;>
            simp [Except.toOption, hwrite]

/-- The lines of a summary as they are printed. -/
def printed (suite : Suite τ) : List (Event τ) :=
  (Summary.lines suite).map fun line => .err (line ++ "\n")

theorem upshot_printSummary (state : RunState τ) :
    ∃ stage : Stage τ,
      upshot Production.printSummary state = (.ok (), { state with stage := stage }) ∧
      stage.trace = state.stage.trace ++ printed state.suite := by
  have hlines (lines : List Text) (stage : Stage τ) :
      ∃ after : Stage τ, upshot (lines.forM Play.printErr) stage = (.ok (), after) ∧
        after.trace = stage.trace ++ lines.map fun line => .err (line ++ "\n") := by
    induction lines generalizing stage with
    | nil => exact ⟨stage, rfl, by simp⟩
    | cons line lines ih =>
        obtain ⟨after, hafter, htrace⟩ := ih (stage.noting (.err (line ++ "\n")))
        exact ⟨after, hafter, by simp [htrace, Stage.noting]⟩
  obtain ⟨stage, hstage, htrace⟩ := hlines (Summary.lines state.suite) state.stage
  refine ⟨stage, ?_, htrace⟩
  rw [Production.printSummary, upshot_bind_of_ok (upshot_get state), Running.upshot_onStage, hstage]

/-- What holds when the page has been closed holds to the end: all that is still done is to report and
to print. -/
theorem invariant_of_playOnPage {J : RunState τ → Prop} {C F : Fault → Prop}
    (h : (production settings).Invariant J C F)
    (hplayed : J (upshot (playOnPage settings input) state).2) :
    J (upshot (run settings input) state).2 := by
  have hstatus : J (upshot (status settings input) state).2 := by
    rw [status, upshot_bind_of_ok (Running.upshot_attempt ..)]
    cases (upshot (playOnPage settings input) state).1 with
    | ok => exact hplayed
    | error fault =>
        dsimp only
        split
        · have htold : Keeps J C (onStage (Play.printErr ("[cli] " ++ fault.message))) :=
            Running.keeps_onStage fun suite reported => (h.steady suite reported).printErr _
          exact ((htold.bind fun _ => keeps_pure 1) _ hplayed).1
        · exact hplayed
  have hsummary : Keeps J C (Production.printSummary : Running τ Unit) :=
    keeps_get_bind fun state _ => Running.keeps_onStage fun suite reported =>
      (h.steady suite reported).printAll _
  rw [run, Running.endingWith_state]
  exact ((h.report.bind fun _ => hsummary.mono h.cause) _ hstatus).1

/-- The program ends as it should: with a status of zero or one, and last of all it prints the
summary. -/
structure Concludes (result : Except Fault Nat) (after : RunState τ) : Prop where
  status : result = .ok 0 ∨ result = .ok 1
  summary : ∃ events, after.stage.trace = events ++ printed after.suite

/-- The program ends as it should if there is a status and the report succeeds after that. -/
theorem concludes_iff : Concludes (upshot (run settings input) state).1
      (upshot (run settings input) state).2 ↔
    ((upshot (status settings input) state).1 = .ok 0 ∨
      (upshot (status settings input) state).1 = .ok 1) ∧
    (upshot (production settings).report (upshot (status settings input) state).2).1 = .ok () := by
  rw [run, Running.upshot_endingWith, conclude, upshot_bind]
  cases upshot (production settings).report (upshot (status settings input) state).2 with
  | mk result reported =>
      cases result with
      | error fault =>
          refine iff_of_false ?_ (by simp)
          rintro ⟨hstatus, -⟩
          simp at hstatus
      | ok =>
          obtain ⟨stage, hprinted, htrace⟩ := upshot_printSummary reported
          dsimp only
          rw [hprinted]
          constructor
          · intro h
            exact ⟨h.status, rfl⟩
          · rintro ⟨hstatus, -⟩
            exact ⟨hstatus, reported.stage.trace, htrace⟩

/-- What it takes for the program to end as it should: no path is missing or holds a null character and
nothing is met that cannot be encoded while the playbook is played, and the page and the playbook can
be opened or else the report can be written. -/
structure GoesWell (settings : Settings) (input : StandardInput) (state : RunState τ) : Prop where
  paths : ∀ fault, (upshot (playOnPage settings input) state).1 = .error fault → ¬ fault.Escapes
  report : (∃ source, (upshot (opening settings input) state).1 = .ok source) ∨
    CanReport settings state

/-- On a page that behaves that is just what it takes. -/
theorem concludes_iff_goesWell (hpolite : state.stage.Polite) (hreported : state.reported = false) :
    Concludes (upshot (run settings input) state).1 (upshot (run settings input) state).2 ↔
      GoesWell settings input state := by
  have hstatus := same_of_status settings input state
  have hpaths : (∀ fault, (upshot (playOnPage settings input) state).1 = .error fault →
        fault.isExpected = true) ↔
      ∀ fault, (upshot (playOnPage settings input) state).1 = .error fault → ¬ fault.Escapes := by
    refine forall_congr' fun fault => imp_congr_right fun hfault => ?_
    constructor
    · intro hexpected hescapes
      exact Bool.noConfusion (hexpected.symm.trans (Fault.not_expected_of_escapes hescapes))
    · intro hescapes
      exact (foreseen_of_playOnPage hpolite hfault).resolve_right hescapes
  have hreport : (upshot (production settings).report
        (upshot (status settings input) state).2).1 = .ok () ↔
      (∃ source, (upshot (opening settings input) state).1 = .ok source) ∨
        CanReport settings state := by
    rcases playOnPage_cases settings input state with
      ⟨source, opened, hsource, -, hplayed⟩ | ⟨fault, hfault, hsame⟩
    · have hreported := (hplayed.trans hstatus).reported.trans
        ((production settings).reported_of_run source opened)
      refine iff_of_true ?_ (.inl ⟨source, by rw [hsource]⟩)
      rw [(production settings).upshot_report_of_reported hreported]
    · have hstart := hsame.trans hstatus
      rw [report_iff (hstart.reported.trans hreported), canReport_iff_of_same hstart]
      simp [hfault]
  rw [concludes_iff, status_iff, hpaths, hreport]
  exact ⟨fun h => ⟨h.1, h.2⟩, fun h => ⟨h.paths, h.report⟩⟩

open CommandLine in
/-- The settings lack something only where a flag is given nothing. -/
theorem exists_settings_iff {dashes : DashRule} {words : List Text} {environment : Environment}
    {flags : Flags} {base : Settings} (hwords : parse dashes words = .ok flags)
    (hbase : Settings.ofEnvironment environment = .ok base) :
    (∃ settings, Program.settings dashes words environment = .ok settings) ↔
      flags.dialect ≠ some .nothing ∧ flags.playbook ≠ some .nothing := by
  simp only [Program.settings, hwords, hbase, Flags.apply]
  rcases hdialect : flags.dialect with _ | _ | _ <;>
    rcases hplaybook : flags.playbook with _ | _ | _ <;> simp [override]

/-- On a page that behaves the program ends with a status and its summary just if no path is missing
or holds a null character and nothing is met that cannot be encoded while the playbook is played, and
the report can be written where the page or the playbook could not be opened. Before that, only flags
that are given nothing are in the way. -/
theorem run_concludes_iff {dashes : CommandLine.DashRule} {words : List Text}
    {environment : Environment} {flags : CommandLine.Flags} {base : Settings}
    (hwords : CommandLine.parse dashes words = .ok flags)
    (hbase : Settings.ofEnvironment environment = .ok base) {rules : List (Rule τ)}
    (hrules : ∀ rule ∈ rules, rule.Polite) (texts : List (Text × Option Text))
    (text : Option Text) (disk : Disk) (console : Text.ErrorHandler) (input : StandardInput) :
    ((∃ settings, Program.settings dashes words environment = .ok settings) ↔
      flags.dialect ≠ some .nothing ∧ flags.playbook ≠ some .nothing) ∧
    ∀ settings, Program.settings dashes words environment = .ok settings →
      (Concludes (upshot (run settings input) (start settings rules texts text disk console)).1
          (upshot (run settings input) (start settings rules texts text disk console)).2 ↔
        GoesWell settings input (start settings rules texts text disk console)) := by
  constructor
  · exact exists_settings_iff hwords hbase
  · intro settings _
    exact concludes_iff_goesWell hrules rfl

/-- The settings of a run that names its playbook and its report. -/
def settingsOf (playbook report : Text) : Settings :=
  { Settings.default with playbook, reportPath := .value report }

/-- A standard input that holds nothing. -/
def noInput : StandardInput := ⟨[], .file⟩

/-- How the program ends on a page without rules and a disk without files. -/
def bareRun (settings : Settings) : Except Fault Nat × RunState Float :=
  upshot (run settings noInput) (start settings [] [] none .empty .strict)

/-- A rule of a page whose browser refuses the calls of a kind. -/
def refusing (call : CallKind) (message : Text) : Rule Float where
  call := call
  argument := none
  times := none
  dialog := none
  delay := none
  cancels := false
  fault := some (.reported .browser message)
  text := none
  picture := none

/-- A missing playbook is told of, and the program ends with a status. -/
theorem concludes_without_playbook :
    CommandLine.parse .keep ["--in", "missing.txt"] =
        .ok { CommandLine.Flags.none with playbook := some (.value "missing.txt") } ∧
      Settings.ofEnvironment [] = .ok Settings.default ∧
      (∀ rule ∈ ([] : List (Rule Float)), rule.Polite) ∧
      (∃ settings, Program.settings .keep ["--in", "missing.txt"] [] = .ok settings) ∧
      Program.settings .keep ["--in", "missing.txt"] [] = .ok (settingsOf "missing.txt" "report.xml") ∧
      Concludes (bareRun (settingsOf "missing.txt" "report.xml")).1
        (bareRun (settingsOf "missing.txt" "report.xml")).2 := by
  have hwords : CommandLine.parse .keep ["--in", "missing.txt"] =
      .ok { CommandLine.Flags.none with playbook := some (.value "missing.txt") } := rfl
  have hbase : Settings.ofEnvironment [] = .ok Settings.default := rfl
  have hrules : ∀ rule ∈ ([] : List (Rule Float)), rule.Polite := by simp
  obtain ⟨hsettings, hconcludes⟩ := run_concludes_iff hwords hbase hrules [] none .empty .strict noInput
  have hended : (upshot (playOnPage (settingsOf "missing.txt" "report.xml") noInput)
      (start (τ := Float) (settingsOf "missing.txt" "report.xml") [] [] none .empty .strict)).1 =
        .error (.disk ⟨.missing, "missing.txt"⟩) := rfl
  have hwell : GoesWell (settingsOf "missing.txt" "report.xml") noInput
      (start (τ := Float) (settingsOf "missing.txt" "report.xml") [] [] none .empty .strict) := by
    constructor
    case paths =>
      intro fault hfault
      obtain rfl := Except.error.inj (hended.symm.trans hfault)
      rintro (h | ⟨path, h⟩ | h) <;> cases h
    case report =>
      obtain ⟨octets, hoctets⟩ := Text.exists_encode_strict_iff.mpr
        (show (Suite.new "missing.txt" : Suite Float).xml.isScalar = true by decide +kernel)
      exact .inr ⟨"report.xml", octets, _, rfl, hoctets, rfl⟩
  exact ⟨hwords, hbase, hrules, hsettings.mpr (by simp [CommandLine.Flags.none]), rfl,
    (hconcludes _ rfl).mpr hwell⟩

/-- If the report of such a run cannot be written either, its fault is not handled, and there is
neither a status nor a summary. -/
theorem late_report_is_not_handled :
    CommandLine.parse .keep ["--in", "missing.txt", "--report", "nodir/r.xml"] =
        .ok { CommandLine.Flags.none with
          playbook := some (.value "missing.txt"), reportPath := some (.value "nodir/r.xml") } ∧
      Settings.ofEnvironment [] = .ok Settings.default ∧
      Program.settings .keep ["--in", "missing.txt", "--report", "nodir/r.xml"] [] =
        .ok (settingsOf "missing.txt" "nodir/r.xml") ∧
      (bareRun (settingsOf "missing.txt" "nodir/r.xml")).1 =
        .error (.disk ⟨.missing, "nodir/r.xml"⟩) ∧
      ¬ Concludes (bareRun (settingsOf "missing.txt" "nodir/r.xml")).1
        (bareRun (settingsOf "missing.txt" "nodir/r.xml")).2 := by
  have hended : (bareRun (settingsOf "missing.txt" "nodir/r.xml")).1 =
      .error (.disk ⟨.missing, "nodir/r.xml"⟩) := by decide +kernel
  refine ⟨rfl, rfl, rfl, hended, ?_⟩
  rintro ⟨hstatus, -⟩
  simp [hended] at hstatus

end Program

end Playbook
