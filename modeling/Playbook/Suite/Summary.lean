import Playbook.Suite

/-! # Printed summaries of suites

At the end of a run its outcomes are printed for a reader: one line for each and the totals, between
rules. -/

namespace Playbook

variable {τ : Type} [TimeScale τ]

namespace Summary

/-- The number of decimal places of times in a summary. -/
def places : Nat := 2

/-- A rule across the summary. -/
def rule (c : CodePoint) : Text := Text.ofList (List.replicate 60 c)

/-- The line of one outcome. -/
def line (outcome : Outcome τ) : Text :=
  let status : Text := if outcome.success then "OK  " else "FAIL"
  let error : Text := if outcome.error = "" then "" else " err=" ++ outcome.error
  "  [" ++ status ++ "] " ++ Decimal.padLeft 6 ' ' (TimeScale.fixed places outcome.time) ++ "s "
    ++ outcome.name ++ error

/-- The lines of the summary of a suite. -/
def lines (suite : Suite τ) : List Text :=
  ["\n" ++ rule '=', "  PLAYBOOK RESULTS: " ++ suite.name, rule '=']
    ++ suite.cases.map line
    ++ [rule '-', "  Passed: " ++ toString suite.passed ++ "/" ++ toString suite.tests,
      "  Failures: " ++ toString suite.failures,
      "  Total time: " ++ TimeScale.fixed places suite.time ++ "s", rule '=' ++ "\n"]

end Summary

end Playbook
