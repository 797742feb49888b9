import Mathlib.Data.List.Infix
import Playbook.Proofs.Chronicle
import Playbook.Proofs.Course

/-! # Rejected records

A fault of the playbook rejects a record unless a step that was played has failed with it: a text is no
record, a record makes no step, a bound is no duration, the run is cancelled, or the source cannot be
decoded. A run that ends in such a fault has done its steps up to there, and each of them well. The
record that is rejected has no effect: from the last step that was done to the report nothing happens,
on the stage or elsewhere.

## Implementation notes

The steps that are done are told as a chain of readings, each in the state that the one before has left.
Since the chain says what these states are, it leaves no room for anything between two steps or behind
the last one. -/

namespace Playbook

variable {τ : Type} [TimeScale τ] {production : Production}

/-- A fault of the playbook that is not the failure of a step. -/
structure Fault.Rejects (fault : Fault) : Prop where
  family : fault.family = .playbook
  alone : ∀ step reason cause, fault ≠ .failed step reason cause

/-- No defect rejects a record. -/
theorem Fault.Rejects.isExpected {fault : Fault} (h : fault.Rejects) : fault.isExpected = true := by
  simp [Fault.isExpected, h.family]

namespace Production

/-- The record of a reading makes a step, and playing the action of this step ends well. What is left is
the end of that play with a success and the line that tells of it. -/
inductive Done (production : Production) : Reading τ → RunState τ → Prop
  | step {record step state ended}
      (hrecord : Step.ofRecord production.vocabulary record = .ok step)
      (hplay : upshot step.action.play state.stage = (.ok (), ended)) :
      Done production ⟨record, state⟩
        (succeeded step (ended.clock - state.stage.clock) { state with stage := ended })

/-- Readings are done one after another, from one state to another. -/
inductive AllDone (production : Production) : RunState τ → List (Reading τ) → RunState τ → Prop
  | nil {state} : AllDone production state [] state
  | cons {reading readings middle after} (hdone : production.Done reading middle)
      (tail : AllDone production middle readings after) :
      AllDone production reading.state (reading :: readings) after

/-- Each of them leaves a success in the suite. -/
theorem AllDone.exists_successes {before after : RunState τ} {readings : List (Reading τ)}
    (h : production.AllDone before readings after) :
    ∃ outcomes, after.suite.cases = before.suite.cases ++ outcomes ∧
      outcomes.length = readings.length ∧ ∀ outcome ∈ outcomes, outcome.success = true := by
  induction h with
  | nil => exact ⟨[], by simp, rfl, by simp⟩
  | @cons reading readings middle after hdone _ ih =>
      obtain ⟨outcomes, hcases, hlength, hsuccess⟩ := ih
      cases hdone with
      | @step record step state ended =>
          refine ⟨success step (ended.clock - state.stage.clock) :: outcomes, ?_, ?_, ?_⟩
          · simpa [succeeded, Suite.add] using hcases
          · rw [List.length_cons, List.length_cons, hlength]
          · exact List.forall_mem_cons.mpr ⟨rfl, hsuccess⟩

/-- A record that is played without a fault is done. -/
theorem done_of_playRecord {record : Record} {state after : RunState τ}
    (h : upshot (production.playRecord record) state = (.ok (), after)) :
    production.Done ⟨record, state⟩ after := by
  rcases production.playRecord_cases record state with ⟨fault, hrefused⟩ | ⟨step, hrecord, hplay⟩
  · cases hrefused.symm.trans h
  · rw [hplay, upshot_bind_eq_ok] at h
    obtain ⟨outcome, _, hstep, hafter⟩ := h
    obtain ⟨-, rfl⟩ := Prod.mk.inj hafter
    rw [upshot_perform] at hstep
    split at hstep
    · cases hstep
    · split at hstep
      · rename_i hdone
        rw [upshot_succeed] at hstep
        obtain ⟨-, rfl⟩ := Prod.mk.inj hstep
        exact .step hrecord hdone
      · rename_i cause ended hfailed
        split at hstep
        · rename_i hexpected
          obtain ⟨fault, after, hfail, -⟩ := fails_of_played production hfailed hexpected
          cases hfail.symm.trans hstep
        · cases hstep

/-- A step that ends in a fault which rejects its record leaves the state as it is: its bound is no
duration. -/
theorem unchanged_of_perform {step : Step} {state after : RunState τ} {fault : Fault}
    (hrejects : fault.Rejects)
    (h : upshot (production.perform step) state = (.error fault, after)) : after = state := by
  have hperformed := production.performed step state
  rw [h] at hperformed
  cases hperformed with
  | unbounded => rfl
  | broken _ hdefect => cases hrejects.isExpected.symm.trans hdefect
  | failed hfails =>
      rcases hfails.fault with hfault | ⟨hdefect, -⟩
      · exact absurd hfault (hrejects.alone _ _ _)
      · cases hrejects.isExpected.symm.trans hdefect

/-- A record that is rejected leaves the state as it is. -/
theorem unchanged_of_playRecord {record : Record} {state after : RunState τ} {fault : Fault}
    (hrejects : fault.Rejects)
    (h : upshot (production.playRecord record) state = (.error fault, after)) : after = state := by
  rcases production.playRecord_cases record state with ⟨fault, hrefused⟩ | ⟨step, -, hplay⟩
  · exact (Prod.mk.inj (hrefused.symm.trans h)).2.symm
  · rw [hplay, upshot_bind] at h
    cases hstep : upshot (production.perform step) state with
    | mk result reached =>
        rw [hstep] at h
        cases result with
        | ok => cases h
        | error =>
            obtain ⟨hfault, rfl⟩ := Prod.mk.inj h
            obtain rfl := Except.error.inj hfault
            exact unchanged_of_perform hrejects hstep

/-- Where a fault rejects what is read, all readings but that one are done. -/
theorem Chronicle.allDone {remains : Remains} {state after : RunState τ} {readings : List (Reading τ)}
    {result : Except Fault Unit} {fault : Fault}
    (h : production.Chronicle remains state readings result after) (hresult : result = .error fault)
    (hrejects : fault.Rejects) :
    ∃ (done : List (Reading τ)) (refused : Option (Reading τ)), readings = done ++ refused.toList ∧
      production.AllDone state done after ∧ ∀ reading ∈ refused, reading.state = after ∧
        upshot (production.playRecord reading.record) after = (.error fault, after) := by
  induction h with
  | ends => exact ⟨[], none, rfl, .nil, by simp⟩
  | @stops _ _ record state after _ _ hplay =>
      obtain rfl := Except.error.inj hresult
      obtain rfl := unchanged_of_playRecord hrejects hplay
      exact ⟨[], some ⟨record, after⟩, rfl, .nil, by simpa using hplay⟩
  | goesOn _ hplay _ ih =>
      obtain ⟨done, refused, rfl, hdone, hrefused⟩ := ih hresult
      exact ⟨_ :: done, refused, rfl, .cons (done_of_playRecord hplay) hdone, hrefused⟩

/-- How a run over a source ends that a fault has rejected. -/
structure Rejection (production : Production) (source : Source) (before : RunState τ) (fault : Fault)
    (done : List (Reading τ)) (refused : Option (Reading τ)) (ended : RunState τ) : Prop where
  /-- The records that are read are those that are done and at most one more. -/
  chronicle : production.Chronicle (source.remains before.stage) before (done ++ refused.toList)
    (.error fault) ended
  /-- The last step that is done leaves the state in which the run over the source ends. -/
  chain : production.AllDone before done ended
  /-- A record that is rejected is read in that state and does not change it. -/
  unchanged : ∀ reading ∈ refused, reading.state = ended ∧
    upshot (production.playRecord reading.record) ended = (.error fault, ended)
  /-- Behind it there is the report and nothing else. -/
  reported : upshot (production.run source) before =
    (.error fault, (upshot production.report ended).2)
  /-- What the run has added to the suite are successes. -/
  successes : ∃ outcomes,
    (upshot (production.run source) before).2.suite.cases = before.suite.cases ++ outcomes ∧
      outcomes.length = done.length ∧ ∀ outcome ∈ outcomes, outcome.success = true

/-- The report is refused with no fault of the playbook. -/
theorem family_of_refusal? {state : RunState τ} {fault : Fault}
    (h : production.refusal? state = some fault) : fault.family ≠ .playbook := by
  rw [refusal?] at h
  split at h
  · cases h
  · split at h
    · cases h
    · obtain rfl := Option.some.inj h
      simp [Fault.family]
    · split at h
      · rename_i refused _
        obtain rfl := Option.some.inj h
        obtain ⟨cause, path⟩ := refused
        cases cause <;> simp [Fault.family, DiskCause.family]
      · obtain ⟨encoding, -, rfl⟩ := Option.map_eq_some_iff.mp h
        simp [Fault.family]

/-- A run that ends in a fault which rejects a record has no effect from the last step that was done to
the report, and no step of it has failed. -/
theorem rejected_record_has_no_effect {source : Source} {before : RunState τ} {fault : Fault}
    (hended : (upshot (production.run source) before).1 = .error fault) (hrejects : fault.Rejects) :
    ∃ done refused ended, production.Rejection source before fault done refused ended := by
  have hfollowed : (upshot (production.follow source) before).1 = .error fault := by
    rw [run_result] at hended
    split at hended
    · exact hended
    · rename_i hrefusal
      obtain rfl := Except.error.inj hended
      exact absurd hrejects.family (family_of_refusal? hrefusal)
  obtain ⟨readings, hchronicle⟩ := production.exists_chronicle_follow source before
  rw [hfollowed] at hchronicle
  obtain ⟨done, refused, rfl, hdone, hrefused⟩ := hchronicle.allDone rfl hrejects
  obtain ⟨outcomes, hcases, hlength, hsuccess⟩ := hdone.exists_successes
  have hrun : (upshot (production.run source) before).2 =
      (upshot production.report (upshot (production.follow source) before).2).2 := by
    rw [run, Running.endingWith_state]
  refine ⟨done, refused, _, hchronicle, hdone, hrefused, Prod.ext hended hrun, outcomes, ?_, hlength,
    hsuccess⟩
  obtain ⟨result, stage, hreport, -⟩ :=
    production.report_cases (upshot (production.follow source) before).2
  rw [hrun, hreport]
  exact hcases

/-- A record with a field that its action does not have, behind one that is played. -/
def strangeLines : List Text := ["noop\x7b\x7d\n", "click\x7bselector:\"#go\",colour:\"red\"\x7d\n"]

/-- The fault that rejects it. -/
def strangeField : Fault :=
  .unbuildable (.unknownField "click" ⟨.click "#go", "60s"⟩ "colour" "red")

/-- The run ends in this fault, and the record has no effect. -/
theorem strange_field_is_rejected :
    (upshot ((unreported .literal).run (.listed strangeLines none)) closedPage).1 =
        .error strangeField ∧
      strangeField.Rejects ∧
      (∃ done refused ended, (unreported .literal).Rejection (.listed strangeLines none) closedPage
        strangeField done refused ended) ∧
      (upshot ((unreported .literal).run (.listed strangeLines none)) closedPage).2.suite.cases =
        [⟨"noop", "noop", 0, true, "", ""⟩] := by
  have hended : (upshot ((unreported .literal).run (.listed strangeLines none)) closedPage).1 =
      .error strangeField := by decide +kernel
  have hrejects : strangeField.Rejects := ⟨rfl, by simp [strangeField]⟩
  exact ⟨hended, hrejects, rejected_record_has_no_effect hended hrejects, by decide +kernel⟩

end Production

end Playbook
