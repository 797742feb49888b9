import Playbook.Proofs.FinalReport
import Playbook.Proofs.FirstFault
import Playbook.Proofs.ReadThrough

/-! # What status zero means

The program ends with status zero just if everything went well: the page and the playbook were opened,
the playbook was read to its end, each of its records made a step that was done, nothing but blank text
was left over, the report was written and the page was closed. Then the suite holds a success for each
record. With any other status, which is one, the program has told why. -/

namespace Playbook

variable {τ : Type} [TimeScale τ]

omit [TimeScale τ] in
/-- A run is cancelled only if it can be. -/
theorem undisturbed_going :
    Undisturbed (fun stage : Stage τ => stage.cancelled = none) fun _ => True where
  event _ _ _ h := h
  clock _ _ h := h
  cancelled _ h := Option.map_eq_none_iff.mpr h
  rules _ _ _ _ _ _ h _ := h
  told _ _ _ _ _ _ _ _ := trivial
  timedOut := trivial

namespace Program

open Running (onStage endingWith)

variable {settings : Settings} {input : StandardInput} {before after : RunState τ}

/-- The reader of the playbook: that of the standard input, or that of the file which the path of the
playbook names. -/
inductive Finds (settings : Settings) (input : StandardInput) (disk : Disk) : Reader → Prop
  | input (h : settings.playbook = "-") : Finds settings input disk input.reader
  | file {location} (h : settings.playbook ≠ "-")
      (hplace : disk.placeOf settings.playbook = .ok location) :
      Finds settings input disk (.new (.file location) .file)

/-- What is found is at the beginning of its medium. -/
theorem Finds.upshot_follow_eq_ok {reader : Reader} {disk : Disk}
    (h : Finds settings input disk reader) (hgoing : before.stage.cancelled = none) :
    upshot ((production settings).follow (.read reader)) before = (.ok (), after) ↔
      ∃ schedule, reader.Hands before.stage.disk schedule ∧
        ∃ records left, (production settings).Takes "" before schedule records left after ∧
          Text.isBlankText left = true := by
  cases h with
  | input | file => exact Production.upshot_follow_eq_ok hgoing

omit [TimeScale τ] in
theorem upshot_openPlaybook_eq_ok {source : Source} :
    upshot (openPlaybook settings input) before = (.ok source, after) ↔
      after = before ∧
        ∃ reader, Finds settings input before.stage.disk reader ∧ source = .read reader := by
  rw [openPlaybook]
  constructor
  · intro h
    split at h
    · rename_i hdash
      obtain ⟨hsource, rfl⟩ := Prod.mk.inj h
      exact ⟨rfl, _, .input hdash, (Except.ok.inj hsource).symm⟩
    · rename_i hfile
      rw [upshot_bind_of_ok (upshot_get before)] at h
      split at h
      · rename_i location hplace
        obtain ⟨hsource, rfl⟩ := Prod.mk.inj h
        exact ⟨rfl, _, .file hfile hplace, (Except.ok.inj hsource).symm⟩
      · cases (Prod.mk.inj h).1
  · rintro ⟨rfl, reader, hfound, rfl⟩
    cases hfound with
    | input hdash =>
        rw [if_pos hdash]
        rfl
    | file hfile hplace =>
        rw [if_neg hfile, upshot_bind_of_ok (upshot_get _), hplace]
        rfl

/-- The playing goes well on the open page just if the playbook is found and its run goes well. -/
theorem upshot_playWatched_eq_ok :
    upshot (playWatched settings input) before = (.ok (), after) ↔
      ∃ reader, Finds settings input before.stage.disk reader ∧
        upshot ((production settings).run (.read reader)) before = (.ok (), after) := by
  have hopen : upshot (playOpen settings input) before = (.ok (), after) ↔
      ∃ reader, Finds settings input before.stage.disk reader ∧
        upshot ((production settings).run (.read reader)) before = (.ok (), after) := by
    rw [playOpen, upshot_bind_eq_ok]
    constructor
    · rintro ⟨source, opened, hopened, hrun⟩
      obtain ⟨rfl, reader, hfound, rfl⟩ := upshot_openPlaybook_eq_ok.mp hopened
      exact ⟨reader, hfound, hrun⟩
    · rintro ⟨reader, hfound, hrun⟩
      exact ⟨_, before, upshot_openPlaybook_eq_ok.mpr ⟨rfl, reader, hfound, rfl⟩, hrun⟩
  rw [← hopen]
  rw [upshot_playWatched]
  cases upshot (playOpen settings input) before with
  | mk result played =>
      cases result with
      | ok => rfl
      | error fault => exact iff_of_false (by simp) (by simp)

/-- A page that has been opened leaves the run as it was. -/
theorem going_of_enter {opened : RunState τ} (hgoing : before.stage.cancelled = none)
    (h : upshot (onStage Play.enter) before = (.ok (), opened)) :
    opened.stage.cancelled = none ∧ before.Same opened := by
  have hkept := undisturbed_going.enter (fun _ _ h => h) (fun _ _ h => h) before.stage hgoing
  have hsame := RunState.Same.enter before
  rw [h] at hsame
  rw [Running.upshot_onStage] at h
  obtain ⟨-, rfl⟩ := Prod.mk.inj h
  exact ⟨hkept.1, hsame⟩

/-- A run of the program in which everything goes well: the page is opened, the playbook is found, its
reader hands out lines to the end which are played without a fault, nothing but blank text is left over,
the report can be written, and after it the page can be closed. -/
structure Flawless (settings : Settings) (input : StandardInput) (before : RunState τ)
    (reader : Reader) (opened : RunState τ) (schedule : List (Text × Disk))
    (records : List Record) (left : Text) (played : RunState τ) : Prop where
  entered : upshot (onStage Play.enter) before = (.ok (), opened)
  found : Finds settings input opened.stage.disk reader
  handed : reader.Hands opened.stage.disk schedule
  taken : (production settings).Takes "" opened schedule records left played
  blank : Text.isBlankText left = true
  reported : CanReport settings played
  closed : (upshot Play.leave (upshot (production settings).report played).2.stage).1 = .ok ()

/-- The playing goes well just if everything in it goes well. -/
theorem playOnPage_eq_ok_iff (hgoing : before.stage.cancelled = none)
    (hreported : before.reported = false) :
    (upshot (playOnPage settings input) before).1 = .ok () ↔
      ∃ reader opened schedule records left played,
        Flawless settings input before reader opened schedule records left played := by
  have hpending {source : Source} {opened played : RunState τ}
      (h : upshot ((production settings).follow source) opened = (.ok (), played)) :
      played.reported = opened.reported := by
    rw [← (production settings).reported_follow source opened, h]
  rw [upshot_fst_eq_ok, playOnPage]
  constructor
  · rintro ⟨after, h⟩
    obtain ⟨⟨⟩, opened, hentered, h⟩ := upshot_bind_eq_ok.mp h
    obtain ⟨hgoing, hsame⟩ := going_of_enter hgoing hentered
    obtain ⟨written, hwatched, hclosed⟩ := Running.upshot_endingWith_eq_ok.mp h
    obtain ⟨reader, hfound, hrun⟩ := upshot_playWatched_eq_ok.mp hwatched
    obtain ⟨played, hfollowed, hreport⟩ := Running.upshot_endingWith_eq_ok.mp hrun
    obtain ⟨schedule, hands, records, left, htakes, hblank⟩ :=
      (hfound.upshot_follow_eq_ok hgoing).mp hfollowed
    refine ⟨reader, opened, schedule, records, left, played, hentered, hfound, hands, htakes, hblank,
      ?_, ?_⟩
    · exact (report_iff (((hpending hfollowed).trans hsame.reported).trans hreported)).mp (by rw [hreport])
    · rw [hreport]
      exact (Prod.mk.inj hclosed).1
  · rintro ⟨reader, opened, schedule, records, left, played, h⟩
    obtain ⟨hgoing, hsame⟩ := going_of_enter hgoing h.entered
    have hfollowed := (h.found.upshot_follow_eq_ok hgoing).mpr
      ⟨schedule, h.handed, records, left, h.taken, h.blank⟩
    obtain ⟨written, hreport⟩ := upshot_fst_eq_ok.mp
      ((report_iff (((hpending hfollowed).trans hsame.reported).trans hreported)).mpr h.reported)
    have hrun := Running.upshot_endingWith_eq_ok.mpr ⟨played, hfollowed, hreport⟩
    have hwatched := upshot_playWatched_eq_ok.mpr ⟨reader, h.found, hrun⟩
    have hclosed := h.closed
    rw [hreport] at hclosed
    have hleft : (upshot (onStage Play.leave) written).1 = .ok () := hclosed
    obtain ⟨after, hleft⟩ := upshot_fst_eq_ok.mp hleft
    exact ⟨after, upshot_bind_eq_ok.mpr ⟨(), opened, h.entered,
      Running.upshot_endingWith_eq_ok.mpr ⟨written, hwatched, hleft⟩⟩⟩

/-- The suite at the end is the one that the playing of the playbook left. -/
theorem suite_run (settings : Settings) (input : StandardInput) (before : RunState τ) :
    (upshot (run settings input) before).2.suite = (played settings input before).suite := by
  have hconclude (state : RunState τ) : (upshot (conclude settings) state).2.suite = state.suite := by
    obtain ⟨_, _, hreport, -⟩ := (production settings).report_cases state
    rw [(same_conclude settings state).suite, hreport]
  rw [run, Running.endingWith_state, hconclude, (same_of_status settings input before).suite]
  rcases playOnPage_cases settings input before with
    ⟨source, opened, hopened, -, hran⟩ | ⟨fault, hfault, hsame⟩
  · obtain ⟨_, _, ended, _, hfollowed, -, hrun, -⟩ := (production settings).run_cases source opened
    rw [hran.suite, hrun, played_of_opened hopened, hfollowed]
  · rw [hsame.suite, played_of_refused hfault, (same_of_opening settings input before).suite]

/-- What has been printed stays printed to the end. -/
theorem trace_conclude (settings : Settings) (state : RunState τ) :
    ∃ events, (upshot (conclude settings) state).2.stage.trace = state.stage.trace ++ events := by
  obtain ⟨result, stage, hreport, events, htrace, -⟩ := (production settings).report_cases state
  rw [conclude, upshot_bind, hreport]
  cases result with
  | error fault => exact ⟨events, htrace⟩
  | ok =>
      obtain ⟨after, hprinted, hsummary⟩ :=
        upshot_printSummary { state with stage := stage, reported := true }
      dsimp only
      rw [hprinted]
      exact ⟨events ++ printed state.suite, by rw [hsummary, htrace, List.append_assoc]⟩

namespace Flawless

variable {reader : Reader} {opened ended : RunState τ} {schedule : List (Text × Disk)}
  {records : List Record} {left : Text}

/-- The playing of the playbook ends where the last line has been played. -/
theorem played_eq (h : Flawless settings input before reader opened schedule records left ended)
    (hgoing : before.stage.cancelled = none) : played settings input before = ended := by
  obtain ⟨hgoing, -⟩ := going_of_enter hgoing h.entered
  have hfound := upshot_openPlaybook_eq_ok.mpr ⟨rfl, reader, h.found, rfl⟩
  have hfollowed := (h.found.upshot_follow_eq_ok hgoing).mpr
    ⟨schedule, h.handed, records, left, h.taken, h.blank⟩
  have hopened : upshot (opening settings input) before = (.ok (.read reader), opened) := by
    rw [opening, upshot_bind_of_ok h.entered, hfound]
  rw [played_of_opened hopened, hfollowed]

/-- The program has added a success for each record to its suite when it ends. -/
theorem suite_run (h : Flawless settings input before reader opened schedule records left ended)
    (hgoing : before.stage.cancelled = none) :
    ∃ outcomes : List (Outcome τ),
      (upshot (run settings input) before).2.suite = outcomes.foldl Suite.add before.suite ∧
      outcomes.map (·.className) = records.map (·.kind) ∧
      ∀ outcome ∈ outcomes, outcome.success = true := by
  obtain ⟨-, hsame⟩ := going_of_enter hgoing h.entered
  obtain ⟨outcomes, hsuite, hkinds, hsuccess⟩ := h.taken.suite
  refine ⟨outcomes, ?_, hkinds, hsuccess⟩
  rw [Program.suite_run, h.played_eq hgoing, hsuite, hsame.suite]

end Flawless

/-- If the program ends with a status, the playing of the playbook decides which one: zero if it went
well, and otherwise one, and its fault has been told. -/
theorem run_eq_ok_cases {n : Nat} (h : (upshot (run settings input) before).1 = .ok n) :
    ((upshot (playOnPage settings input) before).1 = .ok () ∧ n = 0) ∨
      ∃ fault, (upshot (playOnPage settings input) before).1 = .error fault ∧ n = 1 ∧
        .err ("[cli] " ++ fault.message ++ "\n") ∈
          (upshot (run settings input) before).2.stage.trace := by
  obtain ⟨after, h⟩ := upshot_fst_eq_ok.mp h
  obtain ⟨ended, hstatus, hconclude⟩ := Running.upshot_endingWith_eq_ok.mp h
  obtain ⟨events, htrace⟩ := trace_conclude settings ended
  rw [hconclude] at htrace
  rw [h]
  cases hplayed : (upshot (playOnPage settings input) before).1 with
  | ok =>
      rw [status, upshot_bind_of_ok (Running.upshot_attempt ..), hplayed] at hstatus
      exact .inl ⟨rfl, (Except.ok.inj (Prod.mk.inj hstatus).1).symm⟩
  | error fault =>
      have hexpected : fault.isExpected = true := by
        rw [status, upshot_bind_of_ok (Running.upshot_attempt ..), hplayed] at hstatus
        by_contra hdefect
        dsimp only at hstatus
        rw [if_neg hdefect] at hstatus
        cases (Prod.mk.inj hstatus).1
      obtain ⟨hone, lines, htold⟩ := status_tells hplayed hexpected
      rw [hstatus] at hone htold
      refine .inr ⟨fault, rfl, Except.ok.inj hone, ?_⟩
      dsimp only at htrace htold ⊢
      rw [htrace, htold]
      simp

/-- Whenever the program ends with a status, that is zero just if everything went well: the page and
the playbook were opened, the playbook was read to its end, each record was read in the dialect of the
settings and made a step that has a proper bound and was done, nothing but blank text was left over, the
report was written and the page was closed. The suite then holds a success for each record, in order and
of the kind that was written, and no failure. Any other status is one, and the fault has been told.
While its medium stays the same, a playbook is read to its end just if its octets are decoded to a text
in the format in which it is read, and the lines are those of the text. A file is decoded strictly. -/
theorem status_zero_iff {rules : List (Rule τ)} {texts : List (Text × Option Text)}
    {text : Option Text} {disk : Disk} {console : Text.ErrorHandler} {n : Nat}
    (h : (upshot (run settings input) (start settings rules texts text disk console)).1 = .ok n) :
    let before := start settings rules texts text disk console
    (n = 0 ↔ ∃ reader opened schedule records left ended,
      Flawless settings input before reader opened schedule records left ended) ∧
    (∀ reader opened schedule records left ended,
      Flawless settings input before reader opened schedule records left ended →
      let suite := (finalState settings input rules texts text disk console).suite
      suite.cases.map (·.className) = records.map (·.kind) ∧
        (∀ outcome ∈ suite.cases, outcome.success = true) ∧
        suite.tests = records.length ∧ suite.failures = 0) ∧
    (n ≠ 0 → n = 1 ∧ ∃ fault,
      (upshot (playOnPage settings input) before).1 = .error fault ∧
        .err ("[cli] " ++ fault.message ++ "\n") ∈
          (finalState settings input rules texts text disk console).stage.trace) ∧
    ∀ (medium : Medium) (format : LineFormat) (disk : Disk) (schedule : List (Text × Disk))
      (content : List UInt8),
      medium.content disk = content → (∀ entry ∈ schedule, medium.content entry.2 = content) →
      ((Reader.new medium format).Hands disk schedule ↔
        ∃ playbook : Text, Text.Decodes format.handler content playbook.toList ∧
          schedule.map Prod.fst = Text.lines format.ends playbook) := by
  have hcases := run_eq_ok_cases h
  refine ⟨?zero, ?suite, ?other, fun _ _ _ _ _ => Reader.hands_new_iff⟩
  case zero =>
    rw [← playOnPage_eq_ok_iff rfl rfl]
    rcases hcases with ⟨hplayed, hn⟩ | ⟨fault, hplayed, hn, -⟩
    · exact iff_of_true hn hplayed
    · refine iff_of_false (by omega) fun hok => ?_
      cases hplayed.symm.trans hok
  case suite =>
    intro reader opened schedule records left ended hflawless suite
    obtain ⟨outcomes, hsuite, hkinds, hsuccess⟩ := hflawless.suite_run rfl
    have htotals := (Suite.totals_new (τ := τ) settings.suiteName).foldl_add outcomes
    have hfinal : suite = outcomes.foldl Suite.add (Suite.new settings.suiteName) := hsuite
    have houtcomes : suite.cases = outcomes := by
      rw [hfinal, Suite.cases_foldl_add]
      rfl
    rw [← hfinal] at htotals
    rw [htotals.tests, htotals.failures, houtcomes, List.countP_eq_zero]
    refine ⟨hkinds, hsuccess, ?_, fun outcome houtcome => by simp [hsuccess outcome houtcome]⟩
    simpa using congrArg List.length hkinds
  case other =>
    intro hn
    rcases hcases with ⟨-, hzero⟩ | ⟨fault, hplayed, hone, htold⟩
    · exact absurd hzero hn
    · exact ⟨hone, fault, hplayed, htold⟩

/-- What the program comes to with a playbook on its standard input, on a page that does as it is
told. -/
def runOfInput (playbook : Text) (ends : LineEnds) : Except Fault Nat × RunState Float :=
  upshot (run (settingsOf "-" "report.xml") ⟨playbook.octets, ⟨ends, .strict⟩⟩)
    (start (settingsOf "-" "report.xml") [] [] none .empty .strict)

/-- A playbook with two records, the second of which ends without a line feed. -/
def shortPlaybook : Text := "noop\x7b\x7d\n\nclick\x7bselector:\r\n \"#go\"\x7d"

/-- That playbook is played without a fault, and the suite holds two successes. -/
theorem status_zero_of_short_playbook :
    (runOfInput shortPlaybook .lineFeed).1 = .ok 0 ∧
      (∃ reader opened schedule records left ended,
        Flawless (settingsOf "-" "report.xml") ⟨shortPlaybook.octets, ⟨.lineFeed, .strict⟩⟩
          (start (settingsOf "-" "report.xml") [] [] none .empty .strict : RunState Float)
          reader opened schedule records left ended ∧
        records.map (·.kind) = (["noop", "click"] : List Text)) ∧
      (runOfInput shortPlaybook .lineFeed).2.suite.cases.map (·.className) =
        (["noop", "click"] : List Text) ∧
      (runOfInput shortPlaybook .lineFeed).2.suite.failures = 0 := by
  have hended : (runOfInput shortPlaybook .lineFeed).1 = .ok 0 := by decide +kernel
  have hkinds : (runOfInput shortPlaybook .lineFeed).2.suite.cases.map (·.className) =
      (["noop", "click"] : List Text) := by decide +kernel
  obtain ⟨hzero, hsuite, -⟩ := status_zero_iff hended
  obtain ⟨reader, opened, schedule, records, left, ended, hflawless⟩ := hzero.mp rfl
  obtain ⟨hnames, -, -, hfailures⟩ := hsuite _ _ _ _ _ _ hflawless
  refine ⟨hended, ⟨reader, opened, schedule, records, left, ended, hflawless, ?_⟩, hkinds, hfailures⟩
  exact hnames.symm.trans hkinds

/-- Two records on one line are no playbook. -/
example : (runOfInput "noop\x7b\x7d\rnoop\x7b\x7d\n" .universal).1 = .ok 0 ∧
    (runOfInput "noop\x7b\x7d\rnoop\x7b\x7d\n" .lineFeed).1 = .ok 1 := by
  decide +kernel

end Program

end Playbook
