import Playbook.Proofs.DiskFiles
import Playbook.Proofs.ExitStatus

/-! # The fault that a run ends with

A run that stops with a fault still tries a picture of the page and still writes the report. The
picture never hides what went wrong: whatever comes of it, the fault of a failed step names that step.
The report does: when it is refused, its own fault takes the place of the first one. Otherwise the
first fault is what the run ends with, and what the program tells if the page can be closed. -/

namespace Playbook

variable {τ : Type} [TimeScale τ]

/-- A page that is open and reports only faults that a step may end in. -/
def Stage.Fair (stage : Stage τ) : Prop := stage.Ready fun fault => fault.isExpected = true

omit [TimeScale τ] in
theorem Stage.fair_engaged :
    Engaged (Stage.Fair : Stage τ → Prop) fun fault => fault.isExpected = true :=
  Stage.ready_engaged (fun _ h => h) rfl

omit [TimeScale τ] in
theorem Stage.fair_steady : Steady (Stage.Fair : Stage τ → Prop) fun _ => True where
  toEngaged := Stage.ready_engaged (fun _ _ => trivial) trivial
  disk _ _ h := ⟨h.told, h.opened⟩
  refused _ := trivial
  mismatch _ _ _ := trivial
  encoding _ := trivial
  duration _ := trivial

/-- On such a page saving a picture under a proper name ends in a fault that a step may end in. -/
theorem Stage.keeps_savePicture {name : Text} (hname : Disk.Names name) (limit : Option τ) (timeout : τ) :
    Keeps Stage.Fair (fun fault => fault.isExpected = true) (Play.savePicture limit name timeout) := by
  refine (Stage.fair_engaged.picture limit timeout).bind fun data => keeps_get_bind fun stage _ => ?_
  split
  · exact keeps_modify fun _ h => ⟨h.told, h.opened⟩
  · rename_i fault hrefused
    exact keeps_throw (Disk.expected_of_write hname.normal hrefused)

namespace Production

variable {production : Production}

/-- The line that tells how the attempt at a picture went. -/
def pictureLine (production : Production) : Except Fault Unit → Text
  | .ok () => "[runner] Diagnostic screenshot saved to " ++ production.diagnostic
  | .error fault => "[runner] Diagnostic screenshot failed: " ++ fault.message

/-- What the attempt at a picture leaves of a stage. Without a name for the picture there is none. -/
def pictured (production : Production) (stage : Stage τ) : Stage τ :=
  if production.diagnostic = "" then stage
  else
    let tried := upshot production.diagnosticAction.play stage
    tried.2.noting (.err (production.pictureLine tried.1 ++ "\n"))

/-- An attempt at a picture is harmless if it ends in no fault but those that a step may end in. -/
def Harmless (production : Production) (stage : Stage τ) : Prop :=
  production.diagnostic ≠ "" → ∀ fault,
    (upshot production.diagnosticAction.play stage).1 = .error fault → fault.isExpected = true

/-- On a fair page it is, if the name of the picture can name a file. -/
theorem harmless_of_fair (hname : Disk.Names production.diagnostic) {stage : Stage τ}
    (h : stage.Fair) : production.Harmless stage := by
  intro hgiven fault hfault
  have hpicture : Deed.pictureName production.diagnostic = production.diagnostic := by
    rw [Deed.pictureName, if_neg hgiven]
  rw [Action.play_of_screenshot rfl, Action.upshot_playBounded (bound_diagnosticAction production),
    diagnosticAction, Deed.act, hpicture] at hfault
  split at hfault
  · exact (Stage.keeps_savePicture hname _ _ stage h).2 fault hfault
  · obtain rfl := Except.error.inj hfault
    rfl

/-- A harmless attempt at a picture changes the stage only. -/
theorem upshot_capture {state : RunState τ} (h : production.Harmless state.stage) :
    upshot production.capture state =
      (.ok (), { state with stage := production.pictured state.stage }) := by
  rw [capture, pictured]
  split
  · rfl
  · rename_i hgiven
    rw [upshot_bind_of_ok (Running.upshot_attempt ..), Running.upshot_onStage]
    cases hplay : upshot production.diagnosticAction.play state.stage with
    | mk result tried =>
        cases result with
        | ok => rfl
        | error fault =>
            have hexpected : fault.isExpected = true := h hgiven fault (by rw [hplay])
            dsimp only
            rw [if_pos hexpected]
            rfl

/-- How the outcomes of a run and its fault belong together: all new outcomes are successes, or the last
one is a failure and the fault names its step, with the reason and the cause of the failure. -/
inductive Blames {α : Type} (before : RunState τ) : Except Fault α → RunState τ → Prop
  | spotless {result after outcomes} (hcases : after.suite.cases = before.suite.cases ++ outcomes)
      (hsuccess : ∀ outcome ∈ outcomes, outcome.success = true) : Blames before result after
  | blamed {after outcomes step time cause}
      (hcases : after.suite.cases = before.suite.cases ++ (outcomes ++ [failure step time cause]))
      (hsuccess : ∀ outcome ∈ outcomes, outcome.success = true) :
      Blames before (.error (.failed step (reason step cause) cause)) after

omit [TimeScale τ] in
/-- Successes may come first. -/
theorem Blames.prepend {α : Type} {before middle after : RunState τ} {result : Except Fault α}
    {outcomes : List (Outcome τ)} (h : Blames middle result after)
    (hcases : middle.suite.cases = before.suite.cases ++ outcomes)
    (hsuccess : ∀ outcome ∈ outcomes, outcome.success = true) : Blames before result after := by
  have hall {more : List (Outcome τ)} (hmore : ∀ outcome ∈ more, outcome.success = true) :
      ∀ outcome ∈ outcomes ++ more, outcome.success = true := by
    intro outcome houtcome
    exact (List.mem_append.mp houtcome).elim (hsuccess outcome) (hmore outcome)
  cases h with
  | spotless hafter hmore => exact .spotless (by rw [hafter, hcases, List.append_assoc]) (hall hmore)
  | blamed hafter hmore =>
      exact .blamed (by rw [hafter, hcases, List.append_assoc, ← List.append_assoc outcomes])
        (hall hmore)

theorem blames_perform (hname : Disk.Names production.diagnostic) (step : Step)
    {before : RunState τ} (h : before.stage.Fair) :
    Blames before (upshot (production.perform step) before).1
      (upshot (production.perform step) before).2 := by
  have hended := (Stage.fair_steady.lasting.play step.action before.stage h).1
  rw [upshot_perform]
  cases (step.action.bound : Except Fault τ) with
  | error fault => exact .spotless (List.append_nil _).symm (by simp)
  | ok seconds =>
      cases hplay : upshot step.action.play before.stage with
      | mk result ended =>
          rw [hplay] at hended
          cases result with
          | ok =>
              dsimp only
              rw [upshot_succeed]
              exact .spotless rfl (by simp [success])
          | error cause =>
              dsimp only
              split
              · let told := faulted step (ended.clock - before.stage.clock) cause
                  { before with stage := ended }
                have htold : told.stage.Fair := ⟨hended.told, hended.opened⟩
                have hcases : told.suite.cases = before.suite.cases ++
                    ([] ++ [failure step (ended.clock - before.stage.clock) cause]) := rfl
                rw [upshot_fail, upshot_bind_of_ok (upshot_capture (harmless_of_fair hname htold)),
                  upshot_throw]
                exact .blamed hcases (by simp)
              · exact .spotless (List.append_nil _).symm (by simp)

/-- What is added along a course is blamed on its last step. -/
theorem Course.blames {α : Type} (hname : Disk.Names production.diagnostic)
    {before after : RunState τ} {result : Except Fault α}
    (hcourse : Course production before result after) (h : before.stage.Fair) :
    Blames before result after := by
  induction hcourse with
  | stopped => exact .spotless (List.append_nil _).symm (by simp)
  | @done before middle after step outcome result hstep _ ih =>
      have hperformed := production.performed step before
      have hperform : Keeps (fun state => state.stage.Fair) (fun _ => True)
          (production.perform step : Running τ (Outcome τ)) :=
        keeps_perform production (fun _ _ => Stage.fair_steady.lasting) (fun _ _ => trivial)
          (fun _ h => h) (fun _ _ => trivial) fun _ _ _ h => h
      have hfair := hperform before h
      rw [hstep] at hperformed hfair
      cases hperformed with
      | done _ hsuite _ _ =>
          exact (ih hfair.1).prepend (by rw [hsuite]; rfl) (by simp [success])
  | @ended before after step fault hstep =>
      have hblames := blames_perform hname step h
      rw [hstep] at hblames
      cases hblames with
      | spotless hcases hsuccess => exact .spotless hcases hsuccess
      | blamed hcases hsuccess => exact .blamed hcases hsuccess

end Production

theorem Fault.message_failed (step : Step) (reason : Text) (cause : Fault) :
    (failed step reason cause).message = step.action.describe ++ " failed: " ++ reason := rfl

namespace Program

open Running (onStage)

variable {settings : Settings} {input : StandardInput}

/-- When the page has been opened and the playbook found, the fault of the playing is the last one of
those that the playbook, the report and the closing of the page end in. -/
theorem playOnPage_result {source : Source} {before opened : RunState τ}
    (h : upshot (opening settings input) before = (.ok source, opened)) :
    (upshot (playOnPage settings input) before).1 =
      match (upshot Play.leave (upshot (playWatched settings input) opened).2.stage).1 with
      | .ok () => (upshot ((production settings).run source) opened).1
      | .error fault => .error fault := by
  obtain ⟨⟨⟩, entered, henter, hsource⟩ := upshot_bind_eq_ok.mp h
  have hplayed : (upshot (playOpen settings input) entered).1 =
      (upshot ((production settings).run source) opened).1 := by
    rw [playOpen, upshot_bind_of_ok hsource]
  have hsame : entered = opened := by
    rcases openPlaybook_cases settings input entered with ⟨reader, hread⟩ | ⟨fault, hrefused⟩
    · exact (Prod.mk.inj (hread.symm.trans hsource)).2
    · cases hrefused.symm.trans hsource
  subst hsame
  rw [playOnPage, upshot_bind_of_ok henter, Running.upshot_endingWith, Running.upshot_onStage,
    playWatched_result, hplayed]
  cases (upshot Play.leave (upshot (playWatched settings input) entered).2.stage).1 <;> rfl

/-- The fault that the playing ends in is what is told last, and the status is one. -/
theorem status_tells {state : RunState τ} {fault : Fault}
    (h : (upshot (playOnPage settings input) state).1 = .error fault)
    (hexpected : fault.isExpected = true) :
    (upshot (status settings input) state).1 = .ok 1 ∧
      ∃ events, (upshot (status settings input) state).2.stage.trace =
        events ++ [.err ("[cli] " ++ fault.message ++ "\n")] := by
  rw [status, upshot_bind_of_ok (Running.upshot_attempt ..), h]
  dsimp only
  rw [if_pos hexpected, upshot_bind_of_ok (Running.upshot_onStage ..)]
  exact ⟨rfl, _, rfl⟩

/-- The fault that a playbook ends in is what the run ends in, if and only if the report is not refused
or is refused with the same fault. It names the step of the failure that was noted last, if there is
one. A program whose report is not refused and whose page can be closed tells of that step. -/
theorem first_fault_stays_iff {production : Production}
    (hname : Disk.Names production.diagnostic) (source : Source) {opened : RunState τ}
    (h : opened.stage.Fair) :
    Production.Blames opened (upshot (production.follow source) opened).1
      (upshot (production.follow source) opened).2 ∧
    (∀ fault, (upshot (production.follow source) opened).1 = .error fault →
      ((upshot (production.run source) opened).1 = .error fault ↔
        ∀ other ∈ production.refusal? (upshot (production.follow source) opened).2,
          other = fault)) ∧
    ∀ settings input before step reason cause, Program.production settings = production →
      upshot (opening settings input) before = (.ok source, opened) →
      (upshot (production.follow source) opened).1 = .error (.failed step reason cause) →
      production.refusal? (upshot (production.follow source) opened).2 = none →
      (upshot Play.leave (upshot (playWatched settings input) opened).2.stage).1 = .ok () →
      (upshot (status settings input) before).1 = .ok 1 ∧
        ∃ events, (upshot (status settings input) before).2.stage.trace = events ++
          [.err ("[cli] " ++ (step.action.describe ++ " failed: " ++ reason) ++ "\n")] := by
  refine ⟨?blames, ?run, ?program⟩
  case blames => exact (production.takesCourse_follow source opened).blames hname h
  case run =>
    intro fault hfault
    rw [Production.run_result, hfault]
    cases production.refusal? (upshot (production.follow source) opened).2 with
    | none => simp
    | some other => simp
  case program =>
    rintro settings input before step reason cause rfl hopened hfault hreport hclosed
    have hends := playOnPage_result hopened
    rw [hclosed, Production.run_result, hreport, hfault] at hends
    dsimp only at hends
    have htold := status_tells hends rfl
    rwa [Fault.message_failed] at htold

/-- A step whose bound is exceeded at once. -/
def hastyClick : Step := ⟨"click", ⟨.click "#go", "0"⟩⟩

/-- The line of this step. -/
def hastyLine : Text := "click\x7bselector:\"#go\",timeout:\"0\"\x7d"

/-- A standard input with this line. -/
def hastyInput : StandardInput := ⟨(hastyLine ++ "\n").octets, .file⟩

/-- The settings of a run that takes no pictures. -/
def plainSettings : Settings := { Settings.default with diagnostic := "" }

/-- The start of such a run on a page without rules. -/
def plainStart : RunState Float := start plainSettings [] [] none .empty .strict

/-- The state of such a run when the page has been opened. -/
def plainOpened : RunState Float := (upshot (onStage Play.enter) plainStart).2

/-- A step whose bound is exceeded is told of by its name. -/
theorem hasty_click_is_told :
    plainOpened.stage.Fair ∧
    (upshot ((production plainSettings).run (.read hastyInput.reader)) plainOpened).1 =
      .error (.failed hastyClick "timed out after 0" .timedOut) ∧
    (upshot (status plainSettings hastyInput) plainStart).1 = .ok 1 ∧
    ∃ events, (upshot (status plainSettings hastyInput) plainStart).2.stage.trace = events ++
      [.err "[cli] click:on:\"#go\" failed: timed out after 0\n"] := by
  have hname : Disk.Names (production plainSettings).diagnostic :=
    ⟨List.not_mem_nil, [], by decide +kernel⟩
  have hfair : plainOpened.stage.Fair := ⟨fun _ hrule => absurd hrule List.not_mem_nil, rfl⟩
  obtain ⟨-, hrun, hprogram⟩ := first_fault_stays_iff hname (.read hastyInput.reader) hfair
  have hfault : (upshot ((production plainSettings).follow (.read hastyInput.reader)) plainOpened).1 =
      .error (.failed hastyClick "timed out after 0" .timedOut) := by decide +kernel
  have hreport : (production plainSettings).refusal?
      (upshot ((production plainSettings).follow (.read hastyInput.reader)) plainOpened).2 = none := by
    decide +kernel
  have hclosed : (upshot Play.leave
      (upshot (playWatched plainSettings hastyInput) plainOpened).2.stage).1 = .ok () := by
    decide +kernel
  refine ⟨hfair, (hrun _ hfault).mpr (by simp [hreport]), ?_⟩
  exact hprogram plainSettings _ plainStart _ _ _ rfl rfl hfault hreport hclosed

/-- If the report of such a run is refused, the fault of the report is all that is left of it. -/
theorem hasty_click_is_lost :
    plainOpened.stage.Fair ∧
    (upshot ((production { plainSettings with reportPath := .value "nodir/r.xml" }).follow
      (.listed [hastyLine] none)) plainOpened).1 =
        .error (.failed hastyClick "timed out after 0" .timedOut) ∧
    (upshot ((production { plainSettings with reportPath := .value "nodir/r.xml" }).run
      (.listed [hastyLine] none)) plainOpened).1 = .error (.disk ⟨.missing, "nodir/r.xml"⟩) :=
  ⟨⟨fun _ hrule => absurd hrule List.not_mem_nil, rfl⟩, by decide +kernel, by decide +kernel⟩

end Program

end Playbook
