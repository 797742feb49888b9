import Playbook.Proofs.Reports

/-! # The report is final

Where a file can be written under the path of the report when the program begins, it still can be when
the last step has been performed, because no file is ever written over a directory. The report is tried
then, in the run or, if there was none, at the very end. It is written if its document can be encoded,
and its file is left empty otherwise. Nothing that happens afterwards writes a file or adds an outcome,
so what the report says is what the summary says. -/

namespace Playbook

variable {τ : Type} [TimeScale τ]

/-- Pictures do not stand in the way of a file. -/
theorem Stage.lasting_canWrite (path : Text) (location : Location) :
    Lasting (fun stage : Stage τ => stage.disk.CanWrite path location) fun _ => True :=
  .of_disk fun _ _ _ _ _ hcan hwrite => Disk.CanWrite.after_write hcan hwrite

theorem Production.sustained_canWrite (production : Production) (path : Text)
    (location : Location) :
    production.Sustained (fun state : RunState τ => state.stage.disk.CanWrite path location)
      (fun _ => True) fun _ => True where
  lasting _ _ := Stage.lasting_canWrite path location
  cause _ _ := trivial
  playbook _ _ := trivial
  malformed _ := trivial
  outcome _ _ _ _ _ h := h

/-- A report that has not been tried yet leaves its octets where it can be written, and it is refused only
if its document cannot be encoded. -/
theorem Production.upshot_report_of_canWrite {production : Production} {path : Text}
    {location : Location} {state : RunState τ} (hpath : production.reportPath = some (.value path))
    (hreported : state.reported = false)
    (hwrite : state.stage.disk.CanWrite (Path.ofText path).text location) :
    (upshot production.report state).2.suite = state.suite ∧
      (upshot production.report state).2.stage.disk =
        state.stage.disk.put location (.file state.suite.xml.octets) ∧
      (state.suite.xml.isScalar = true → (upshot production.report state).1 = .ok ()) := by
  rw [upshot_report_of_path hpath hreported, hwrite.write_eq]
  cases hfault : state.suite.xml.encodingFault? with
  | none => exact ⟨rfl, rfl, fun _ => rfl⟩
  | some fault =>
      refine ⟨rfl, rfl, fun hscalar => ?_⟩
      rw [Text.encodingFault?_eq_none_iff.mpr hscalar] at hfault
      cases hfault

namespace Program

variable {settings : Settings} {input : StandardInput} {state : RunState τ}

/-- The state when the last step has been performed, or when the page or the playbook could not be
opened. -/
def played (settings : Settings) (input : StandardInput) (state : RunState τ) : RunState τ :=
  match upshot (opening settings input) state with
  | (.ok source, opened) => (upshot ((production settings).follow source) opened).2
  | (.error _, refused) => refused

theorem played_of_opened {source : Source} {opened : RunState τ}
    (h : upshot (opening settings input) state = (.ok source, opened)) :
    played settings input state = (upshot ((production settings).follow source) opened).2 := by
  rw [played, h]

theorem played_of_refused {fault : Fault}
    (h : (upshot (opening settings input) state).1 = .error fault) :
    played settings input state = (upshot (opening settings input) state).2 := by
  rw [played]
  cases hupshot : upshot (opening settings input) state with
  | mk result refused =>
      rw [hupshot] at h
      cases result with
      | ok source => cases h
      | error fault => rfl

/-- Opening the page and the playbook writes no file. -/
theorem same_of_opening (settings : Settings) (input : StandardInput) (state : RunState τ) :
    state.Same (upshot (opening settings input) state).2 := by
  have henter := RunState.Same.enter state
  rw [opening, upshot_bind]
  cases hupshot : upshot (Running.onStage Play.enter) state with
  | mk result opened =>
      rw [hupshot] at henter
      cases result with
      | error fault => exact henter
      | ok =>
          dsimp only
          rcases openPlaybook_cases settings input opened with ⟨reader, hread⟩ | ⟨fault, hrefused⟩
          · rw [hread]
            exact henter
          · rw [hrefused]
            exact henter

/-- Either a reader was played or nothing was. -/
theorem played_cases (settings : Settings) (input : StandardInput) (state : RunState τ) :
    (∃ reader opened, upshot (opening settings input) state = (.ok (.read reader), opened) ∧
        played settings input state =
          (upshot ((production settings).follow (.read reader)) opened).2) ∨
      ∃ fault refused, upshot (opening settings input) state = (.error fault, refused) ∧
        played settings input state = refused := by
  rw [played, opening, upshot_bind]
  cases hupshot : upshot (Running.onStage Play.enter) state with
  | mk result opened =>
      cases result with
      | error fault => exact .inr ⟨fault, opened, rfl, rfl⟩
      | ok =>
          dsimp only
          rcases openPlaybook_cases settings input opened with ⟨reader, hread⟩ | ⟨fault, hrefused⟩
          · rw [hread]
            exact .inl ⟨reader, opened, rfl, rfl⟩
          · rw [hrefused]
            exact .inr ⟨.disk fault, opened, rfl, rfl⟩

/-- The report has not been tried while steps are performed. -/
theorem reported_played (settings : Settings) (input : StandardInput) (state : RunState τ) :
    (played settings input state).reported = state.reported := by
  have hopening := same_of_opening settings input state
  rcases played_cases settings input state with
    ⟨reader, opened, hopened, hplayed⟩ | ⟨fault, refused, hrefused, hplayed⟩
  · rw [hopened] at hopening
    rw [hplayed, (production settings).reported_follow, hopening.reported]
  · rw [hrefused] at hopening
    rw [hplayed, hopening.reported]

/-- What can be written at the beginning can be written when the last step has been performed. -/
theorem canWrite_played {path : Text} {location : Location}
    (h : state.stage.disk.CanWrite path location) (settings : Settings) (input : StandardInput) :
    (played settings input state).stage.disk.CanWrite path location := by
  have hopening := same_of_opening settings input state
  rcases played_cases settings input state with
    ⟨reader, opened, hopened, hplayed⟩ | ⟨fault, refused, hrefused, hplayed⟩
  · rw [hopened] at hopening
    rw [hplayed]
    rw [← hopening.disk] at h
    exact (((production settings).sustained_canWrite path location).follow reader opened h).1
  · rw [hrefused] at hopening
    rw [hplayed, hopening.disk]
    exact h

/-- The report is tried just once, when the last step has been performed. Its file then holds the octets
of the document of the suite at the end, and stays as it is. -/
structure EndsInAttempt (settings : Settings) (location : Location) (played after : RunState τ) : Prop
    where
  pending : played.reported = false
  /-- Before and after the report no file is written. -/
  once : ∃ attempt, played.Same attempt ∧
    (upshot (production settings).report attempt).2.Same after
  suite : after.suite = played.suite
  disk : after.stage.disk =
    played.stage.disk.put location (.file after.suite.xml.octets)
  content : after.stage.disk.content? location = some after.suite.xml.octets

/-- What is written is all of the document, and the summary tells the suite that it was written of. -/
structure EndsInReport (settings : Settings) (location : Location) (played after : RunState τ) : Prop
    extends EndsInAttempt settings location played after where
  document : after.suite.xml.encode .strict = .ok after.suite.xml.octets
  summary : ∃ events, after.stage.trace = events ++ printed after.suite

/-- Once the report has succeeded, the summary tells the suite that it was written of. -/
theorem conclude_of_report {attempt written : RunState τ}
    (h : upshot (production settings).report attempt = (.ok (), written)) :
    written.Same (upshot (conclude settings) attempt).2 ∧
      ∃ events, (upshot (conclude settings) attempt).2.stage.trace =
        events ++ printed (upshot (conclude settings) attempt).2.suite := by
  have hsame := same_conclude settings attempt
  rw [h] at hsame
  obtain ⟨stage, hprinted, htrace⟩ := upshot_printSummary written
  refine ⟨hsame, written.stage.trace, ?_⟩
  rw [conclude, upshot_bind_of_ok h, hprinted]
  exact htrace

/-- However the run of the program ends, the state in which its report is first tried is the one that the
last step has left, and what is left to do after that is to print the summary. -/
theorem exists_attempt (settings : Settings) (input : StandardInput) (state : RunState τ) :
    ∃ attempt, (played settings input state).Same attempt ∧
      (upshot (production settings).report attempt).2.Same (upshot (run settings input) state).2 ∧
      ((upshot (production settings).report attempt).1 = .ok () →
        ∃ events, (upshot (run settings input) state).2.stage.trace =
          events ++ printed (upshot (run settings input) state).2.suite) := by
  have hstatus := same_of_status settings input state
  rw [run, Running.endingWith_state]
  rcases playOnPage_cases settings input state with
    ⟨source, opened, hopened, -, hran⟩ | ⟨fault, hfault, hsame⟩
  · -- The run of the playbook has reported already, and the report at the end does nothing.
    have hended := hran.trans hstatus
    have hreported := (production settings).reported_of_run source opened
    have hnothing : upshot (production settings).report (upshot (status settings input) state).2 =
        (.ok (), (upshot (status settings input) state).2) :=
      (production settings).upshot_report_of_reported (hended.reported.trans hreported)
    obtain ⟨hconclude, hsummary⟩ := conclude_of_report hnothing
    rw [Production.run, Running.endingWith_state, ← played_of_opened hopened] at hended
    exact ⟨_, .refl _, hended.trans hconclude, fun _ => hsummary⟩
  · -- Nothing was run, and the report at the end is the first one.
    have hopening := same_of_opening settings input state
    refine ⟨(upshot (status settings input) state).2, ?_, same_conclude settings _, ?_⟩
    · rw [played_of_refused hfault]
      exact hopening.symm.trans (hsame.trans hstatus)
    · intro hreport
      exact (conclude_of_report (Prod.ext hreport rfl)).2

/-- Wherever the run of the program fails, it ends in the attempt to report, and the report is there if
its document can be encoded. -/
theorem endsInReport_of_run {path : Text} {location : Location}
    (hpath : settings.reportPath = .value path) (hreported : state.reported = false)
    (hwrite : state.stage.disk.CanWrite (Path.ofText path).text location) (input : StandardInput) :
    let after := (upshot (run settings input) state).2
    EndsInAttempt settings location (played settings input state) after ∧
      (EndsInReport settings location (played settings input state) after ↔
        after.suite.xml.isScalar = true) := by
  have hpending := (reported_played settings input state).trans hreported
  have hcan := canWrite_played hwrite settings input
  have hpath' : (production settings).reportPath = some (.value path) := congrArg some hpath
  obtain ⟨attempt, hattempt, hafter, hsummary⟩ := exists_attempt settings input state
  obtain ⟨hreportSuite, hreportDisk, hencodes⟩ := Production.upshot_report_of_canWrite hpath'
    (hattempt.reported.trans hpending) (hattempt.disk ▸ hcan)
  intro after
  have hunchanged : after.suite = attempt.suite := hafter.suite.trans hreportSuite
  have hsuite : after.suite = (played settings input state).suite :=
    hunchanged.trans hattempt.suite
  have hput : after.stage.disk =
      (played settings input state).stage.disk.put location (.file after.suite.xml.octets) := by
    rw [hafter.disk, hreportDisk, hattempt.disk, hunchanged]
  have hends : EndsInAttempt settings location (played settings input state) after :=
    { pending := hpending
      once := ⟨attempt, hattempt, hafter⟩
      suite := hsuite
      disk := hput
      content := by rw [hput, hcan.content?_put] }
  refine ⟨hends, fun hreport => ?_, fun hscalar => ?_⟩
  · exact Text.exists_encode_strict_iff.mp ⟨_, hreport.document⟩
  · rw [hunchanged] at hscalar
    exact
      { hends with
        document := Text.encode_eq_octets (hunchanged ▸ hscalar)
        summary := hsummary (hencodes hscalar) }

/-- If a file can be written under the path of the report when the program begins, then, however it
ends, the report is tried, once and last of all files. What it leaves there is the document of the suite
with all outcomes, which is what the summary tells at the end, if and only if no surrogate stands in the
name of the suite, in a description or in the error of a failure. It leaves an empty file otherwise. -/
theorem run_ends_in_report {path : Text} {location : Location} {disk : Disk}
    (hpath : settings.reportPath = .value path)
    (hwrite : disk.CanWrite (Path.ofText path).text location) (input : StandardInput)
    (rules : List (Rule Float)) (texts : List (Text × Option Text)) (text : Option Text)
    (console : Text.ErrorHandler) :
    let last := played settings input (start settings rules texts text disk console)
    let after := finalState settings input rules texts text disk console
    EndsInAttempt settings location last after ∧
      (EndsInReport settings location last after ↔
        settings.suiteName.isScalar = true ∧ ∀ outcome ∈ after.suite.cases,
          outcome.name.isScalar = true ∧
            (outcome.success = false → outcome.error.isScalar = true)) ∧
      (¬ EndsInReport settings location last after →
        after.stage.disk.content? location = some []) := by
  intro last after
  have hsourced : after.suite.Sourced settings.suiteName fun fault =>
      ∃ rule ∈ rules, fault ∈ rule.fault :=
    (sourced_finalState settings input rules texts text disk console).1
  obtain ⟨hattempt, hreport⟩ : EndsInAttempt settings location last after ∧
      (EndsInReport settings location last after ↔ after.suite.xml.isScalar = true) :=
    endsInReport_of_run hpath rfl hwrite input
  refine ⟨hattempt, hreport.trans hsourced.isScalar_iff, fun hrefused => ?_⟩
  rw [hattempt.content, Text.octets_of_not_isScalar]
  simpa [hreport] using hrefused

/-- A run whose picture of the failure is saved where the report is due. -/
def sharedSettings : Settings :=
  { settingsOf "p.txt" "report.xml" with diagnostic := "report.xml" }

/-- The state that its last step leaves. -/
def sharedPlayed : RunState Float :=
  played sharedSettings noInput (start sharedSettings [refusing .click "no"] [] none clickDisk .strict)

/-- The state that it ends in. -/
def sharedAfter : RunState Float :=
  finalState sharedSettings noInput [refusing .click "no"] [] none clickDisk .strict

/-- A report whose file is also the picture of the failure: the picture is written over. -/
theorem run_ends_in_report_over_picture :
    sharedSettings.reportPath = .value "report.xml" ∧
      clickDisk.CanWrite (Path.ofText "report.xml").text clickReport ∧
      sharedPlayed.stage.disk.content? clickReport = some Play.plainPicture ∧
      EndsInReport sharedSettings clickReport sharedPlayed sharedAfter := by
  have hwrite : clickDisk.CanWrite (Path.ofText "report.xml").text clickReport :=
    ⟨by decide +kernel, by decide +kernel⟩
  obtain ⟨-, hreport, -⟩ := run_ends_in_report (rfl : sharedSettings.reportPath = _) hwrite noInput
    [refusing .click "no"] [] none .strict
  exact ⟨rfl, hwrite, by decide +kernel, hreport.mpr (by decide +kernel)⟩

/-- The name of a playbook that holds the octet 255, as the command line tells it. -/
def oddName : Text := "x" ++ Text.singleton (Text.Utf8.escapeOctet 0xFF) ++ ".txt"

/-- The report of that playbook can be written, but its document cannot be encoded, and nothing is
written. -/
theorem report_of_odd_name_is_empty :
    Program.settings .keep ["--in", oddName] [] = .ok (settingsOf oddName "report.xml") ∧
      Disk.empty.CanWrite (Path.ofText "report.xml").text clickReport ∧
      (bareRun (settingsOf oddName "report.xml")).1 = .error (.encoding ⟨0x4FF, 57, 1⟩) ∧
      (bareRun (settingsOf oddName "report.xml")).2.stage.disk.content? clickReport = some [] ∧
      ¬ ∃ octets,
        (bareRun (settingsOf oddName "report.xml")).2.suite.xml.encode .strict = .ok octets := by
  refine ⟨by decide +kernel, ⟨by decide +kernel, by decide +kernel⟩, by decide +kernel,
    by decide +kernel, ?_⟩
  rw [Text.exists_encode_strict_iff]
  decide +kernel

end Program

end Playbook
