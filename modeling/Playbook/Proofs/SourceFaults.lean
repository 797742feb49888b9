import Playbook.Proofs.Chronicle
import Playbook.Proofs.Course
import Playbook.Proofs.Invariants

/-! # Sources that fail

A source may fail in front of any line. If the lines before have not ended the run already, the run has
then performed the steps of these lines, and it ends with the fault of the source. Nothing is said of a
text that is left over, and the report is written as it is after those lines alone. Octets that the
source cannot decode are a fault of the input. Those that the page cannot decode never are. -/

namespace Playbook.Production

variable {τ : Type} [TimeScale τ] {production : Production}

/-- Octets that the page cannot decode end a step as they are, without an outcome. -/
theorem upshot_perform_of_decoding {step : Step} {before : RunState τ} {cause : DecodingFault}
    {ended : Stage τ} {seconds : τ} (hbound : step.action.bound = .ok seconds)
    (hplay : upshot step.action.play before.stage = (.error (.decoding cause), ended)) :
    upshot (production.perform step) before =
      (.error (.decoding cause), { before with stage := ended }) := by
  rw [upshot_perform, hbound, hplay]
  rfl

/-- No step ends in a fault of the input. -/
theorem perform_ne_input (production : Production) (step : Step) :
    Keeps (fun _ => True) (fun fault => ∀ cause, fault ≠ .input cause)
      (production.perform step : Running τ (Outcome τ)) := by
  refine fun state _ => ⟨trivial, fun fault hfault cause => ?_⟩
  rintro rfl
  have hperformed := production.performed step state
  rw [hfault] at hperformed
  generalize (upshot (production.perform step) state).2 = after at hperformed
  cases hperformed with
  | unbounded hbound =>
      obtain ⟨_, hduration⟩ := Action.duration_of_bound hbound
      cases hduration
  | broken _ hdefect => cases hdefect
  | failed hfails =>
      rcases hfails.fault with hfailed | ⟨hdefect, -⟩
      · cases hfailed
      · cases hdefect

/-- Taking lines never ends in a fault of the input. -/
theorem takeLines_ne_input (buffer : Text) (lines : List Text) :
    Keeps (fun _ => True) (fun fault => ∀ cause, fault ≠ .input cause)
      (production.takeLines buffer lines : Running τ Text) := by
  have hline (buffer line : Text) : Keeps (fun _ => True) (fun fault => ∀ cause, fault ≠ .input cause)
      (production.takeLine buffer line : Running τ Text) := by
    rw [takeLine]
    split
    · rename_i fault _
      exact keeps_throw (by cases fault <;> simp [Fault.ofParse])
    · exact keeps_pure _
    · refine Keeps.bind (keeps_get_bind fun state _ => ?_) fun _ => keeps_pure _
      split
      · exact keeps_throw (by simp)
      · exact (production.perform_ne_input _).bind fun _ => keeps_pure _
  induction lines generalizing buffer with
  | nil => exact keeps_pure buffer
  | cons line lines ih => exact (hline buffer line).bind ih

/-- As long as lines are taken, the chronicle does not depend on the fault that ends them. -/
theorem exists_chronicle_of_takeLines {lines : List Text} {left : Text}
    {state after : RunState τ}
    (h : upshot (production.takeLines "" lines) state = (.ok left, after)) :
    ∃ readings, ∀ fault,
      production.Chronicle (.listed lines fault) state readings (ending fault left) after := by
  suffices hgeneral : ∀ buffer, upshot (production.takeLines buffer lines) state = (.ok left, after) →
      ∃ readings, ∀ fault remains,
        production.next state.stage.disk remains = production.nextListed buffer fault lines →
        production.Chronicle remains state readings (ending fault left) after by
    obtain ⟨readings, hreadings⟩ := hgeneral "" h
    exact ⟨readings, fun fault => hreadings fault _ rfl⟩
  clear h
  induction lines generalizing state with
  | nil =>
      intro buffer h
      obtain ⟨hleft, rfl⟩ := Prod.mk.inj h
      obtain rfl := Except.ok.inj hleft
      exact ⟨[], fun fault remains hnext => .ends hnext⟩
  | cons line lines ih =>
      intro buffer h
      simp only [nextListed]
      rw [takeLines] at h
      cases hread : production.dialect.read (production.addLine buffer line) with
      | error fault =>
          rw [upshot_bind_of_error (Record.upshot_takeLine_of_error hread state)] at h
          cases (Prod.mk.inj h).1
      | ok found =>
          cases found with
          | none =>
              rw [takeLine_of_none hread, pure_bind] at h
              exact ih _ h
          | some record =>
              rw [takeLine_of_record hread, bind_assoc] at h
              obtain ⟨⟨⟩, middle, hplay, htail⟩ := upshot_bind_eq_ok.mp h
              obtain ⟨readings, hreadings⟩ := ih "" htail
              exact ⟨_, fun fault remains hnext =>
                .goesOn hnext hplay (hreadings fault (.listed lines fault) rfl)⟩

/-- What a run ends in whose report is not refused. -/
theorem run_result_of_report {source : Source} {state : RunState τ}
    (h : production.refusal? (upshot (production.follow source) state).2 = none) :
    (upshot (production.run source) state).1 = (upshot (production.follow source) state).1 := by
  rw [run_result, h]

/-- If a source fails in front of the line with number `n`, the lines before it are taken as they are
when there are no others. Unless these end the run already, it ends with the fault of the source, and
all else is as it is after these lines alone: the steps that are performed, the state that the report is
written in, and the state at the end. If they end the run, it is as it is when the source does not fail.
Octets that the source cannot decode are a fault of the input, and no other fault is one: neither that of
a source for another reason nor any that the lines end in. A page that cannot decode octets ends its step
with just that fault. -/
theorem failing_source_costs_the_rest (production : Production) (lines : List Text) (n : Nat)
    (fault : Fault) (state : RunState τ) :
    let taken := upshot (production.takeLines "" (lines.take n)) state
    let failing := upshot (production.run (.listed (lines.take n) (some fault))) state
    (∀ left, taken.1 = .ok left →
      (∃ readings, ∀ fault, production.Chronicle (.listed (lines.take n) fault) state readings
        (ending fault left) taken.2) ∧
      failing.2 = (upshot production.report taken.2).2 ∧ failing.2.reported = true ∧
      failing.2 = (upshot (production.run (.listed (lines.take n) none)) state).2 ∧
      (production.refusal? taken.2 = none → failing.1 = .error (Source.raised fault))) ∧
    (∀ stop, taken.1 = .error stop →
      failing = upshot (production.run (.listed lines none)) state ∧ (∀ cause, stop ≠ .input cause) ∧
      (production.refusal? taken.2 = none → failing.1 = .error stop)) ∧
    (∀ cause, Source.raised (.decoding cause) = .input cause) ∧
    ((∀ cause, fault ≠ .decoding cause) → Source.raised fault = fault) ∧
    ∀ (step : Step) (before : RunState τ) (cause : DecodingFault) (ended : Stage τ) (seconds : τ),
      step.action.bound = .ok seconds →
      upshot step.action.play before.stage = (.error (.decoding cause), ended) →
      upshot (production.perform step) before =
        (.error (.decoding cause), { before with stage := ended }) := by
  intro taken failing
  have hfollow (fault : Option Fault) {left : Text} (h : taken.1 = .ok left) :
      upshot (production.follow (.listed (lines.take n) fault)) state =
        (ending fault left, taken.2) := by
    have htaken : upshot (production.takeLines "" (lines.take n)) state = (.ok left, taken.2) := by
      rw [← h]
    rw [follow_listed, upshot_bind_of_ok htaken, upshot_finish]
  have hrun (fault : Option Fault) {left : Text} (h : taken.1 = .ok left) :
      (upshot (production.run (.listed (lines.take n) fault)) state).2 =
        (upshot production.report taken.2).2 := by
    rw [run, Running.endingWith_state, hfollow fault h]
  have hstop {stop : Fault} (h : taken.1 = .error stop) :
      upshot (production.takeLines "" (lines.take n)) state = (.error stop, taken.2) := by
    rw [← h]
  have hstops {stop : Fault} (h : taken.1 = .error stop) :
      upshot (production.follow (.listed (lines.take n) (some fault))) state =
        (.error stop, taken.2) := by
    rw [follow_listed, upshot_bind_of_error (hstop h)]
  refine ⟨fun left h => ⟨?steps, hrun _ h, production.reported_of_run _ state, ?alone, ?result⟩,
    fun stop h => ⟨?same, ?input, ?stopped⟩, fun cause => rfl, fun hother => ?raised, ?page⟩
  case steps =>
    have htaken : upshot (production.takeLines "" (lines.take n)) state = (.ok left, taken.2) := by
      rw [← h]
    exact exists_chronicle_of_takeLines htaken
  case alone => rw [hrun none h, ← hrun (some fault) h]
  case result =>
    intro hreport
    have hended := hfollow (some fault) h
    rw [run_result_of_report (by rw [hended]; exact hreport), hended]
    rfl
  case same =>
    have hwhole : upshot (production.follow (.listed lines none)) state = (.error stop, taken.2) := by
      rw [follow_listed, ← List.take_append_drop n lines, takeLines_append, bind_assoc,
        upshot_bind_of_error (hstop h)]
    simp only [failing, run, Running.upshot_endingWith, hstops h, hwhole]
  case input => exact ((takeLines_ne_input "" (lines.take n)) state trivial).2 stop h
  case stopped =>
    intro hreport
    rw [run_result_of_report (by rw [hstops h]; exact hreport), hstops h]
  case raised =>
    cases fault with
    | decoding cause => exact absurd rfl (hother cause)
    | _ => rfl
  case page => exact fun _ _ _ _ _ hbound hplay => upshot_perform_of_decoding hbound hplay

end Playbook.Production
