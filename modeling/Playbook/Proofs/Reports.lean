import Playbook.Proofs.DiskFiles
import Playbook.Proofs.ExitStatus
import Playbook.Proofs.StepTexts
import Playbook.Proofs.SuiteReading

/-! # The report of a run

When the program has ended, the file of the report holds the document of the suite, if there is such a
file, or nothing if the document cannot be encoded. That document is well-formed unless the name of the
suite, a description or an error holds a code point that may not stand in a document. Descriptions hold
such code points only if they are not characters at all; of the errors, only those that the page reports
in words of its own may hold control characters. -/

namespace Playbook

open Xml (OnlyChars WellFormed)

variable {τ : Type}

/-- What is found where the report is due are the octets of the document of the suite. -/
def RunState.Reports [TimeScale τ] (path : Text) (state : RunState τ) : Prop :=
  ∀ location, state.stage.disk.placeOf (Path.ofText path).text = .ok location →
    state.stage.disk.content? location = some state.suite.xml.octets

theorem RunState.Reports.of_same [TimeScale τ] {path : Text} {before after : RunState τ}
    (h : before.Reports path) (hsame : before.Same after) : after.Reports path := by
  rw [Reports, hsame.suite, hsame.disk]
  exact h

namespace Production

variable [TimeScale τ] {production : Production} {path : Text} {state : RunState τ}
  (hpath : production.reportPath = some (.value path))

include hpath

/-- A report that has not been tried yet is written, or else there is no file where it is due. -/
theorem reports_of_report (h : state.reported = false) :
    (upshot production.report state).2.Reports path := by
  rw [upshot_report_of_path hpath h, RunState.Reports]
  intro location
  cases hwrite : state.stage.disk.write (Path.ofText path).text state.suite.xml.octets with
  | error fault => exact fun hplace => absurd hplace (Disk.placeOf_of_write_error hwrite)
  | ok disk =>
      obtain ⟨place, hfound, hcontent⟩ := Disk.placeOf_of_write hwrite
      cases state.suite.xml.encodingFault? <;>
      · intro hplace
        obtain rfl := Except.ok.inj (hfound.symm.trans hplace)
        exact hcontent

theorem reports_of_run (source : Source) (h : state.reported = false) :
    (upshot (production.run source) state).2.Reports path := by
  rw [run, Running.endingWith_state]
  exact reports_of_report hpath ((production.reported_follow source state).trans h)

end Production

namespace Program

section Report

variable [TimeScale τ] {settings : Settings} {state : RunState τ}

/-- Once the report was tried, no file is written any more. -/
theorem same_conclude (settings : Settings) (state : RunState τ) :
    (upshot (production settings).report state).2.Same (upshot (conclude settings) state).2 := by
  rw [conclude, upshot_bind]
  cases upshot (production settings).report state with
  | mk result reported =>
      cases result with
      | error fault => exact .refl reported
      | ok =>
          dsimp only
          rw [Production.printSummary, upshot_bind_of_ok (upshot_get reported)]
          exact .onStage (fun disk => (undisturbed_disk disk).printAll _) reported

/-- However the program ends, the report is there unless there is no file in its place. -/
theorem run_reports {path : Text} (hpath : settings.reportPath = .value path) (input : StandardInput)
    (h : state.reported = false) : (upshot (run settings input) state).2.Reports path := by
  have hpath : (production settings).reportPath = some (.value path) := congrArg some hpath
  have hstatus := same_of_status settings input state
  rw [run, Running.endingWith_state]
  refine RunState.Reports.of_same ?_ (same_conclude settings _)
  rcases playOnPage_cases settings input state with
    ⟨source, opened, -, hopened, hplayed⟩ | ⟨fault, -, hsame⟩
  · -- The run has reported already, so that the report at the end does nothing.
    have hended := hplayed.trans hstatus
    have hreported := hended.reported.trans ((production settings).reported_of_run source opened)
    have hreports := (Production.reports_of_run hpath source (hopened.reported.trans h)).of_same hended
    rwa [Production.report, upshot_bind_of_ok (upshot_get _), if_pos hreported]
  · -- Nothing was run, so that the report at the end is the first one.
    exact Production.reports_of_report hpath ((hsame.trans hstatus).reported.trans h)

end Report

end Program

/-- A fault that a page tells in words of its own, or one whose message has few controls. -/
def Fault.Told (G : Fault → Prop) (fault : Fault) : Prop := FewControls fault.message ∨ G fault

/-- The texts of an outcome come from the program, except that its error may be what a page told. -/
structure Outcome.Sourced (G : Fault → Prop) (outcome : Outcome τ) : Prop where
  className : OnlyChars outcome.className
  name : FewControls outcome.name
  errorType : OnlyChars outcome.errorType
  error : FewControls outcome.error ∨ ∃ fault, G fault ∧ outcome.error = fault.message

/-- A suite of such outcomes with a given name. -/
structure Suite.Sourced (name : Text) (G : Fault → Prop) (suite : Suite τ) : Prop where
  name : suite.name = name
  cases : ∀ outcome ∈ suite.cases, outcome.Sourced G

/-- What plays end in on a page is told by it or has few controls in its message. -/
theorem Stage.tells_steady (G : Fault → Prop) :
    Steady (Stage.Tells G : Stage τ → Prop) (Fault.Told G) where
  toUndisturbed := Stage.tells_undisturbed (fun _ h => .inr h) (.inl (.of_onlyChars (by decide)))
  request _ _ _ h := h
  closed _ _ _ :=
    .inl (.of_onlyChars (by decide : OnlyChars "Browser not started, use async with"))
  disk _ _ h := h
  refused fault := .inl (.of_onlyChars fault.onlyChars_message)
  mismatch selector text value := .inl (Fault.fewControls_mismatch selector text value)
  encoding fault := .inl (.of_onlyChars fault.onlyChars_message)
  duration fault := .inl (.of_onlyChars fault.onlyChars_message)

/-- The error of a failure is the message of its cause, unless that is empty. -/
theorem Production.reason_of_told [TimeScale τ] {G : Fault → Prop} {step : Step} {seconds : τ}
    {cause : Fault} (hbound : step.action.bound = .ok seconds) (h : cause.Told G) :
    FewControls (reason step cause) ∨ ∃ fault, G fault ∧ reason step cause = fault.message := by
  rw [reason]
  split
  · -- The bound is told instead, and it has been read as a duration.
    rw [Action.bound] at hbound
    split at hbound
    · rename_i hparse
      have hwords : FewControls "timed out after " := .of_onlyChars (by decide)
      exact .inl (hwords.append (.of_onlyChars (Duration.onlyChars_of_parse hparse)))
    · cases hbound
  · exact h.imp_right fun htold => ⟨cause, htold, rfl⟩

/-- The outcomes that a step of a playbook leaves are of this sort. -/
theorem Outcome.sourced_of_leaves [TimeScale τ] {production : Production} {G : Fault → Prop}
    {step : Step} {outcome : Outcome τ} (hstep : production.Reads step)
    (h : Production.Leaves (Fault.Told G) step outcome) : outcome.Sourced G := by
  obtain ⟨text, htext⟩ := hstep
  have hname := Text.onlyChars_of_isIdentifier (Step.isIdentifier_of_parse htext)
  have hempty : OnlyChars "" := by decide
  cases h with
  | success time hbound =>
      exact ⟨hname, Action.fewControls_describe hbound, hempty, .inl (.of_onlyChars hempty)⟩
  | @failure cause seconds time hbound hcause =>
      exact ⟨hname, Action.fewControls_describe hbound, cause.onlyChars_className,
        Production.reason_of_told hbound hcause⟩

namespace Suite.Sourced

variable {name : Text} {G : Fault → Prop}

theorem new [TimeScale τ] : (Suite.new name : Suite τ).Sourced name G := ⟨rfl, by simp [Suite.new]⟩

theorem add [TimeScale τ] {suite : Suite τ} {outcome : Outcome τ} (h : suite.Sourced name G)
    (houtcome : outcome.Sourced G) : (suite.add outcome).Sourced name G where
  name := h.name
  cases other hother := by
    rcases List.mem_append.mp hother with hother | hother
    · exact h.cases other hother
    · obtain rfl := List.mem_singleton.mp hother
      exact houtcome

/-- Kinds, times and the types of errors never are in the way. -/
theorem wellFormed_iff {suite : Suite Float} (h : suite.Sourced name G) :
    WellFormed suite.xml ↔
      OnlyChars name ∧ ∀ outcome ∈ suite.cases, (∀ c ∈ outcome.name.toList, ¬ IsNonCharacter c) ∧
        (outcome.success = false → OnlyChars outcome.error) := by
  rw [suite.wellFormed_xml_iff, h.name]
  refine and_congr_right fun _ => forall₂_congr fun outcome houtcome => ?_
  have hsourced := h.cases outcome houtcome
  rw [hsourced.name.onlyChars_iff]
  simp [hsourced.className, hsourced.errorType]

/-- Nor are they in the way of an encoding. -/
theorem isScalar_iff {suite : Suite Float} (h : suite.Sourced name G) :
    suite.xml.isScalar = true ↔
      name.isScalar = true ∧ ∀ outcome ∈ suite.cases, outcome.name.isScalar = true ∧
        (outcome.success = false → outcome.error.isScalar = true) := by
  rw [suite.isScalar_xml_iff, h.name]
  refine and_congr_right fun _ => forall₂_congr fun outcome houtcome => ?_
  have hsourced := h.cases outcome houtcome
  simp [Xml.isScalar_of_onlyChars hsourced.className, Xml.isScalar_of_onlyChars hsourced.errorType]

end Suite.Sourced

/-- The suite of a run and its page. -/
def RunState.Sourced (name : Text) (G : Fault → Prop) (state : RunState τ) : Prop :=
  state.suite.Sourced name G ∧ state.stage.Tells G

theorem Production.invariant_sourced [TimeScale τ] (production : Production) (name : Text)
    (G : Fault → Prop) :
    production.Invariant (RunState.Sourced name G : RunState τ → Prop) (Fault.Told G) fun _ => True
    where
  steady suite _ := (Stage.tells_steady G).given (suite.Sourced name G)
  cause _ _ := trivial
  playbook _ _ := trivial
  malformed _ := trivial
  outcome _ _ _ hstep hleaves h := ⟨h.1.add (Outcome.sourced_of_leaves hstep hleaves), h.2⟩
  reported _ h := h
  noPath := trivial

namespace Program

/-- The state that the program leaves when it runs on a page with a script. -/
def finalState [TimeScale τ] (settings : Settings) (input : StandardInput) (rules : List (Rule τ))
    (texts : List (Text × Option Text)) (text : Option Text) (disk : Disk)
    (console : Text.ErrorHandler) : RunState τ :=
  (upshot (run settings input) (start settings rules texts text disk console)).2

/-- All that a run leaves in its suite comes from its own playbook and its own page. -/
theorem sourced_finalState [TimeScale τ] (settings : Settings) (input : StandardInput)
    (rules : List (Rule τ)) (texts : List (Text × Option Text)) (text : Option Text)
    (disk : Disk) (console : Text.ErrorHandler) :
    (finalState settings input rules texts text disk console).Sourced settings.suiteName
      fun fault => ∃ rule ∈ rules, fault ∈ rule.fault := by
  have hinvariant := (production settings).invariant_sourced (τ := τ) settings.suiteName
    fun fault => ∃ rule ∈ rules, fault ∈ rule.fault
  have hplayed := keeps_playOnPage hinvariant (fun _ _ h => h) (fun _ _ h => h) input
  refine invariant_of_playOnPage hinvariant (hplayed _ ⟨.new, ?_⟩).1
  exact fun rule hrule fault hfault => ⟨rule, hrule, hfault⟩

/-- What is found in the place of the report when the program has ended are the octets of the document
of its suite. The document is well-formed if and only if the name of the suite and the errors of the
failures hold no code points but those that may stand in a document, and no description holds one that
is no character. An error with other controls is what a rule of the page told. -/
theorem report_wellFormed_iff {settings : Settings} {path : Text}
    (hpath : settings.reportPath = .value path) (input : StandardInput) (rules : List (Rule Float))
    (texts : List (Text × Option Text)) (text : Option Text) (disk : Disk)
    (console : Text.ErrorHandler) :
    let after := finalState settings input rules texts text disk console
    after.Reports path ∧
      (WellFormed after.suite.xml ↔
        OnlyChars settings.suiteName ∧
        ∀ outcome ∈ after.suite.cases, (∀ c ∈ outcome.name.toList, ¬ IsNonCharacter c) ∧
          (outcome.success = false → OnlyChars outcome.error)) ∧
      ∀ outcome ∈ after.suite.cases, FewControls outcome.error ∨
        ∃ rule ∈ rules, ∃ fault ∈ rule.fault, outcome.error = fault.message := by
  intro after
  have hsourced := (sourced_finalState settings input rules texts text disk console).1
  refine ⟨run_reports hpath input rfl, hsourced.wellFormed_iff, fun outcome houtcome => ?_⟩
  refine (hsourced.cases outcome houtcome).error.imp_right ?_
  rintro ⟨fault, ⟨rule, hrule, hfault⟩, herror⟩
  exact ⟨rule, hrule, fault, hfault, herror⟩

/-- A disk with a playbook of one click. -/
def clickDisk : Disk :=
  Disk.empty.addFile (.ofPath "p.txt") ("click\x7bselector:\"#go\"\x7d\n" : Text).octets

/-- What that playbook leaves on a page on which nothing can be clicked. -/
def afterClick (message : Text) : RunState Float :=
  finalState (settingsOf "p.txt" "report.xml") noInput [refusing .click message] [] none clickDisk .strict

/-- Where its report is. -/
def clickReport : Location := .ofPath "report.xml"

/-- A plain message of the page leaves a well-formed report. -/
theorem report_of_plain_message :
    (settingsOf "p.txt" "report.xml").reportPath = .value "report.xml" ∧
      (afterClick "waiting for #go").stage.disk.content? clickReport =
        some (afterClick "waiting for #go").suite.xml.octets ∧
      WellFormed (afterClick "waiting for #go").suite.xml := by
  have hpath : (settingsOf "p.txt" "report.xml").reportPath = .value "report.xml" := rfl
  obtain ⟨hreports, hwellFormed, -⟩ := report_wellFormed_iff hpath noInput
    [refusing .click "waiting for #go"] [] none clickDisk .strict
  have hplace : (afterClick "waiting for #go").stage.disk.placeOf (Path.ofText "report.xml").text =
      .ok clickReport := by decide +kernel
  have hcases : ∀ outcome ∈ (afterClick "waiting for #go").suite.cases,
      outcome.name = "click:on:\"#go\"" ∧ outcome.error = "waiting for #go" := by decide +kernel
  refine ⟨hpath, hreports _ hplace, hwellFormed.mpr ⟨by decide, fun outcome houtcome => ?_⟩⟩
  obtain ⟨hname, herror⟩ := hcases outcome houtcome
  rw [hname, herror]
  have hchars : OnlyChars "click:on:\"#go\"" := by decide
  exact ⟨(FewControls.of_onlyChars hchars).onlyChars_iff.mp hchars, fun _ => by decide⟩

/-- The marks of a coloured message are written into the report as they are, which is then no document
of any kind. -/
theorem report_of_coloured_message :
    CommandLine.parse .keep ["--in", "p.txt"] =
        .ok { CommandLine.Flags.none with playbook := some (.value "p.txt") } ∧
      Program.settings .keep ["--in", "p.txt"] [] = .ok (settingsOf "p.txt" "report.xml") ∧
      (afterClick "waiting for \x1b[2m#go\x1b[22m").stage.disk.content? clickReport =
        some (afterClick "waiting for \x1b[2m#go\x1b[22m").suite.xml.octets ∧
      ¬ WellFormed (afterClick "waiting for \x1b[2m#go\x1b[22m").suite.xml := by
  have hplace : (afterClick "waiting for \x1b[2m#go\x1b[22m").stage.disk.placeOf
      (Path.ofText "report.xml").text = .ok clickReport := by decide +kernel
  have hcase : ∃ outcome ∈ (afterClick "waiting for \x1b[2m#go\x1b[22m").suite.cases,
      outcome.success = false ∧ ¬ OnlyChars outcome.error := by decide +kernel
  refine ⟨rfl, rfl, run_reports rfl noInput rfl _ hplace, fun hwellFormed => ?_⟩
  obtain ⟨outcome, houtcome, hfailure, herror⟩ := hcase
  have hchars := ((Suite.wellFormed_xml_iff _).mp hwellFormed).2 outcome houtcome
  exact herror (hchars.2.2 hfailure).1

end Program

end Playbook
