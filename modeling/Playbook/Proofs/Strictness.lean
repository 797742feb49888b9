import Playbook.Proofs.Chronicle
import Playbook.Proofs.Course

/-! # Strict vocabularies

A strict vocabulary has the terms of the one that is not strict, and it refuses the names that the other
takes for noops. A record is refused before anything is done for it. So a run with the strict vocabulary
is the run with the other one, up to the first record with a name that is not defined. -/

namespace Playbook

namespace Vocabulary

variable {vocabulary : Vocabulary} {name : Text}

/-- Strictness does not matter for a name that is defined. -/
theorem action_withStrict (h : vocabulary.contains name = true) (strict : Option Bool) :
    (vocabulary.withStrict strict).action name = vocabulary.action name := by
  obtain ⟨term, hterm⟩ := Option.isSome_iff_exists.mp h
  have hstrict : (vocabulary.withStrict strict).find? name = some term := hterm
  rw [action, action, hstrict, hterm]

/-- A strict vocabulary refuses every other name. -/
theorem action_strict (h : vocabulary.contains name = false) :
    (vocabulary.withStrict (some true)).action name = .error (.unknownAction name) := by
  have hnone : (vocabulary.withStrict (some true)).find? name = none :=
    Option.isNone_iff_eq_none.mp (Option.isSome_eq_false_iff.mp h)
  rw [action, hnone]
  rfl

end Vocabulary

namespace Production

variable {τ : Type} [TimeScale τ] {production : Production}

/-- A production whose vocabulary is made strict, or is made not to be. -/
def withStrict (production : Production) (strict : Bool) : Production :=
  { production with vocabulary := production.vocabulary.withStrict (some strict) }

/-- Strictness does not matter for a record whose kind is defined. -/
theorem playRecord_withStrict {record : Record}
    (h : production.vocabulary.contains record.kind = true) (strict : Bool) :
    ((production.withStrict strict).playRecord record : Running τ Unit) =
      production.playRecord record := by
  have haction := Vocabulary.action_withStrict h (some strict)
  have hstep : Step.ofRecord (production.withStrict strict).vocabulary record =
      Step.ofRecord production.vocabulary record := by
    rw [Step.ofRecord, Step.ofRecord, ← haction]
    rfl
  rw [playRecord, playRecord, hstep]
  rfl

/-- With a strict vocabulary every other record ends the run, and nothing is done for it. -/
theorem upshot_playRecord_strict {record : Record}
    (h : production.vocabulary.contains record.kind = false) (state : RunState τ) :
    upshot ((production.withStrict true).playRecord record) state =
      (.error (.unbuildable (.unknownAction record.kind)), state) := by
  have haction := Vocabulary.action_strict h
  have hstep : Step.ofRecord (production.withStrict true).vocabulary record =
      .error (.unknownAction record.kind) := by
    rw [Step.ofRecord]
    exact congrArg (· >>= _) haction
  rw [playRecord, hstep]
  rfl

/-- A strict vocabulary only adds a stop. If all records that are read without it have defined kinds, it
makes no difference at all. Otherwise the run reads and plays the same records in the same states until
it reads one of another kind. It ends there, with a fault that names the kind as it is written, and
nothing has been done for that record when the report is written. -/
theorem strict_run_stops_first (production : Production) (source : Source) (state : RunState τ) :
    let permissive := production.withStrict false
    let strict := production.withStrict true
    ∃ readings, permissive.Chronicle (source.remains state.stage) state readings
        (upshot (permissive.follow source) state).1 (upshot (permissive.follow source) state).2 ∧
      ((∀ reading ∈ readings, production.vocabulary.contains reading.record.kind = true) →
        upshot (strict.run source) state = upshot (permissive.run source) state) ∧
      ∀ known reading rest, readings = known ++ reading :: rest →
        (∀ reading ∈ known, production.vocabulary.contains reading.record.kind = true) →
        production.vocabulary.contains reading.record.kind = false →
        strict.Chronicle (source.remains state.stage) state (known ++ [reading])
          (.error (.unbuildable (.unknownAction reading.record.kind))) reading.state ∧
        (upshot (strict.run source) state).2 = (upshot strict.report reading.state).2 ∧
        (strict.refusal? reading.state = none →
          (upshot (strict.run source) state).1 =
            .error (.unbuildable (.unknownAction reading.record.kind))) := by
  intro permissive strict
  obtain ⟨readings, hreadings⟩ := permissive.exists_chronicle_follow source state
  have halike {readings : List (Reading τ)}
      (hknown : ∀ reading ∈ readings, production.vocabulary.contains reading.record.kind = true) :
      ∀ reading ∈ readings, upshot (strict.playRecord reading.record) reading.state =
        upshot (permissive.playRecord reading.record) reading.state := by
    intro reading hreading
    rw [playRecord_withStrict (hknown reading hreading), playRecord_withStrict (hknown reading hreading)]
  refine ⟨readings, hreadings, fun hknown => ?same, ?stop⟩
  case same =>
    have hsame : strict.Chronicle _ _ _ _ _ := hreadings.congr rfl (halike hknown)
    have hfollow := (upshot_follow source state).trans hsame.upshot_eq
    simp only [run, Running.upshot_endingWith, hfollow]
    rfl
  case stop =>
    rintro known reading rest rfl hknown hunknown
    have hstops : strict.Chronicle _ _ _ _ _ :=
      hreadings.cut rfl (halike hknown) (upshot_playRecord_strict hunknown _)
    have hfollow := (upshot_follow source state).trans hstops.upshot_eq
    refine ⟨hstops, by rw [run, Running.endingWith_state, hfollow], fun hreport => ?_⟩
    rw [run_result, hfollow, hreport]

/-- Without strictness a step of an unknown kind does nothing; with it the run ends there. -/
example :
    let lines := ["noop\x7b\x7d", "Frob\x7b\x7d", "noop\x7b\x7d"]
    let run (strict : Bool) :=
      (upshot (((unreported .literal).withStrict strict).run (.listed lines none)) closedPage).1
    run false = .ok () ∧ run true = .error (.unbuildable (.unknownAction "Frob")) := by
  decide +kernel

end Production

end Playbook
