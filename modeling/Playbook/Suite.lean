import Playbook.TimeScale

/-! # Suites of outcomes

Each step that is performed leaves an outcome. A suite keeps the outcomes in order together with their
running totals. -/

namespace Playbook

/-- The outcome of one step. -/
structure Outcome (τ : Type) where
  /-- The kind as the playbook wrote it. -/
  className : Text
  /-- The description of the action. -/
  name : Text
  time : τ
  success : Bool
  error : Text
  errorType : Text
deriving Repr, DecidableEq

/-- Outcomes in order, with their number, the number of failures and the sum of their times. -/
structure Suite (τ : Type) where
  name : Text
  cases : List (Outcome τ)
  tests : Nat
  failures : Nat
  time : τ
deriving Repr, DecidableEq

namespace Suite

variable {τ : Type} [TimeScale τ]

/-- A suite without outcomes. -/
def new (name : Text) : Suite τ := ⟨name, [], 0, 0, TimeScale.none⟩

/-- Add an outcome at the end. -/
def add (suite : Suite τ) (outcome : Outcome τ) : Suite τ where
  name := suite.name
  cases := suite.cases ++ [outcome]
  tests := suite.tests + 1
  failures := if outcome.success then suite.failures else suite.failures + 1
  time := suite.time + outcome.time

/-- The number of outcomes that are no failures. -/
def passed (suite : Suite τ) : Nat := suite.tests - suite.failures

end Suite

end Playbook
