import Mathlib.Data.List.Infix
import Playbook.Proofs.FirstFault

/-! # The three endings of a step

A step with a proper bound ends in one of three ways, and how its action ends decides which. If it is
done, a success is left and a line tells of it. If it ends in a fault of the playbook, the browser or the
system, a failure is left with the reason and the class of that fault, a picture of the page is tried, and
the fault that comes out names the step, whatever became of the picture. Any other fault comes out as it
is, and nothing is left of the step but what its action did to the stage. -/

namespace Playbook

/-- The names of the classes of defects. -/
def Fault.defectClasses : List Text :=
  ["UnicodeDecodeError", "UnicodeEncodeError", "ValueError", "TypeError", "RuntimeError"]

/-- The faults that pass through every handler are those of these classes. -/
theorem Fault.isExpected_eq_false_iff (fault : Fault) :
    fault.isExpected = false ↔ fault.className ∈ defectClasses := by
  cases fault with
  | malformed fault =>
      cases hsyntax : fault.isSyntax <;>
        simp [isExpected, family, className, defectClasses, hsyntax]
  | unbuildable fault => cases fault <;> simp [isExpected, family, className, defectClasses]
  | disk fault =>
      obtain ⟨cause, path⟩ := fault
      cases cause <;>
        simp [isExpected, family, className, defectClasses, DiskCause.family, DiskCause.className]
  | reported kind message =>
      cases kind <;>
        simp [isExpected, family, className, defectClasses, ReportedKind.family,
          ReportedKind.className]
  | _ => simp [isExpected, family, className, defectClasses]

variable {τ : Type} [TimeScale τ]

namespace Production

open Program (plainOpened refusing)

variable {production : Production} {step : Step} {before : RunState τ}

/-- The stage on which a picture is tried after a step has ended in a fault: a line tells of it. -/
def failureTold (step : Step) (before : RunState τ) (cause : Fault) : Stage τ :=
  let ended := (upshot step.action.play before.stage).2
  ended.noting (.err ("[runner] FAIL " ++ timed step (ended.clock - before.stage.clock) ++ ": "
    ++ reason step cause ++ "\n"))

/-- An attempt at a picture is harmless if its name may be that of a file and the page reports only
faults that a step may end in. -/
theorem harmless_failureTold (hname : Disk.Names production.diagnostic)
    (h : before.stage.Fair) (step : Step) (cause : Fault) :
    production.Harmless (failureTold step before cause) := by
  have hended := (Stage.fair_steady.lasting.play step.action before.stage h).1
  have htold : (failureTold step before cause).Fair := ⟨hended.told, hended.opened⟩
  exact harmless_of_fair hname htold

/-- How a step with a proper bound ends that is begun in some state. -/
inductive Ending (production : Production) (step : Step) (before : RunState τ) :
    Except Fault (Outcome τ) → RunState τ → Prop
  /-- Its action is done: a success is left. -/
  | done {ended outcome} (hplay : upshot step.action.play before.stage = (.ok (), ended))
      (houtcome : outcome =
        ⟨step.name, step.action.describe, ended.clock - before.stage.clock, true, "", ""⟩) :
      Ending production step before (.ok outcome)
        { before with
          suite := before.suite.add outcome
          stage := ended.noting (.err ("[runner] " ++ timed step outcome.time ++ "\n")) }
  /-- Its action ends in a fault that a step may end in: a failure is left, and a picture is tried. -/
  | failed {cause ended outcome}
      (hplay : upshot step.action.play before.stage = (.error cause, ended))
      (hexpected : cause.isExpected = true)
      (houtcome : outcome =
        ⟨step.name, step.action.describe, ended.clock - before.stage.clock, false,
          if cause.message = "" then "timed out after " ++ step.action.timeout else cause.message,
          cause.className⟩) :
      Ending production step before (.error (.failed step outcome.error cause))
        { before with
          suite := before.suite.add outcome
          stage := production.pictured (failureTold step before cause) }
  /-- Its action ends in any other fault, which passes through. -/
  | broken {fault ended} (hplay : upshot step.action.play before.stage = (.error fault, ended))
      (hdefect : fault.isExpected = false) :
      Ending production step before (.error fault) { before with stage := ended }

/-- A step with a proper bound ends in one of three ways, if the picture that is tried after a failure
ends in no defect. The defects are the faults of five classes. -/
theorem perform_has_three_endings {seconds : τ} (hbound : step.action.bound = .ok seconds)
    (hpicture : ∀ cause, (upshot step.action.play before.stage).1 = .error cause →
      production.Harmless (failureTold step before cause)) :
    production.Ending step before (upshot (production.perform step) before).1
        (upshot (production.perform step) before).2 ∧
      ∀ fault : Fault, fault.isExpected = false ↔
        fault.className ∈ Fault.defectClasses := by
  refine ⟨?_, Fault.isExpected_eq_false_iff⟩
  rw [upshot_perform, hbound]
  cases hplay : upshot step.action.play before.stage with
  | mk result ended =>
      cases result with
      | ok => exact .done hplay rfl
      | error cause =>
          dsimp only
          split
          case isFalse hdefect => exact .broken hplay (by simpa using hdefect)
          case isTrue hexpected =>
            have htold : faulted step (ended.clock - before.stage.clock) cause
                { before with stage := ended } =
                { before with
                  suite := before.suite.add (failure step (ended.clock - before.stage.clock) cause)
                  stage := failureTold step before cause } := by
              rw [failureTold, hplay]
              rfl
            rw [upshot_fail, htold, upshot_bind_of_ok (upshot_capture (hpicture cause (by rw [hplay])))]
            exact .failed hplay hexpected rfl

/-- A click that takes longer than its bound. -/
def slowClick : Step := ⟨"Click", ⟨.click "#go", "10s"⟩⟩

/-- An open page on which clicks are slow and of which no picture can be taken. -/
def slowStart : RunState Float :=
  let slow : Rule Float := ⟨.click, none, none, none, some 100, false, none, none, none⟩
  { plainOpened with stage := { plainOpened.stage with rules := [slow, refusing .screenshot "gone"] } }

/-- The production that plays it. -/
def slowProduction : Production := Program.production Settings.default

/-- The click fails because its bound is exceeded, and the picture fails, too. -/
theorem slow_click_fails :
    slowClick.action.bound = .ok (Duration.tenSeconds : Float) ∧
      (∀ cause, (upshot slowClick.action.play slowStart.stage).1 = .error cause →
        slowProduction.Harmless (failureTold slowClick slowStart cause)) ∧
      slowProduction.Ending slowClick slowStart (upshot (slowProduction.perform slowClick) slowStart).1
        (upshot (slowProduction.perform slowClick) slowStart).2 ∧
      (upshot (slowProduction.perform slowClick) slowStart).1 =
        .error (.failed slowClick "timed out after 10s" .timedOut) ∧
      (upshot (slowProduction.perform slowClick) slowStart).2.suite.cases =
        [⟨"Click", "click:on:\"#go\"", 10, false, "timed out after 10s", "TimeoutError"⟩] := by
  have hbound : slowClick.action.bound = .ok (Duration.tenSeconds : Float) := by
    rw [Action.bound, slowClick, Duration.parse_tenSeconds]
  have hfair : slowStart.stage.Fair := by
    refine ⟨fun rule hrule fault hfault => ?_, rfl⟩
    simp only [slowStart, List.mem_cons, List.not_mem_nil, or_false] at hrule
    rcases hrule with rfl | rfl
    · cases hfault
    · obtain rfl := Option.some.inj hfault
      rfl
  have hname : Disk.Names slowProduction.diagnostic :=
    ⟨by decide, _, Text.encode_eq_octets (by decide)⟩
  have hpicture := fun cause (_ : (upshot slowClick.action.play slowStart.stage).1 = .error cause) =>
    harmless_failureTold hname hfair slowClick cause
  exact ⟨hbound, hpicture, (perform_has_three_endings hbound hpicture).1, by decide +kernel,
    by decide +kernel⟩

end Production

end Playbook
