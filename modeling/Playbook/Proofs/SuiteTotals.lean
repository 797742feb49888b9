import Playbook.Suite

/-! # The totals of a suite

A suite that began empty and took its outcomes one by one has the totals of these outcomes. -/

namespace Playbook.Suite

variable {τ : Type} [TimeScale τ]

/-- The totals of a suite are those of its outcomes; times are added from left to right. -/
structure Totals (suite : Suite τ) : Prop where
  tests : suite.tests = suite.cases.length
  failures : suite.failures = suite.cases.countP fun outcome => !outcome.success
  time : suite.time = (suite.cases.map (·.time)).foldl (· + ·) TimeScale.none

theorem totals_new (name : Text) : (new name : Suite τ).Totals := ⟨rfl, rfl, rfl⟩

namespace Totals

variable {suite : Suite τ}

theorem add (h : suite.Totals) (outcome : Outcome τ) : (suite.add outcome).Totals := by
  constructor
  case tests => simp [Suite.add, h.tests]
  case failures =>
    rw [Suite.add, List.countP_append, h.failures]
    cases hsuccess : outcome.success <;> simp [hsuccess]
  case time => simp [Suite.add, h.time]

theorem foldl_add (h : suite.Totals) (outcomes : List (Outcome τ)) :
    (outcomes.foldl Suite.add suite).Totals := by
  induction outcomes generalizing suite with
  | nil => exact h
  | cons outcome outcomes ih => exact ih (h.add outcome)

/-- What is no failure is a success. -/
theorem passed (h : suite.Totals) : suite.passed = suite.cases.countP (·.success) := by
  have hall := List.length_eq_countP_add_countP (fun outcome : Outcome τ => outcome.success)
    (l := suite.cases)
  rw [Suite.passed, h.tests, h.failures, hall]
  simp

end Totals

theorem cases_foldl_add (suite : Suite τ) (outcomes : List (Outcome τ)) :
    (outcomes.foldl add suite).cases = suite.cases ++ outcomes := by
  induction outcomes generalizing suite with
  | nil => simp
  | cons outcome outcomes ih => simp [ih, add]

theorem name_foldl_add (suite : Suite τ) (outcomes : List (Outcome τ)) :
    (outcomes.foldl add suite).name = suite.name := by
  induction outcomes generalizing suite with
  | nil => rfl
  | cons outcome outcomes ih => exact ih (suite.add outcome)

end Playbook.Suite
