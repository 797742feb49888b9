import Playbook.Text.Ranges

/-! # Runs of letters that change case alike

Letters of one script mostly keep one distance between their two cases, in every place of a range or
in every second one. A case mapping is a list of such runs in increasing order. -/

namespace Playbook.Text

/-- The code points `first`, `first + step`, … up to `last`, all moved by `shift`. -/
structure CaseRun where
  first : Nat
  last : Nat
  step : Nat
  shift : Int
deriving Repr, DecidableEq

namespace CaseRun

/-- Decide whether a run holds a code point. -/
def holds (run : CaseRun) (n : Nat) : Bool :=
  run.first ≤ n && n ≤ run.last && (n - run.first) % run.step = 0

/-- The run that a code point belongs to, among runs in increasing order. -/
def find? : List CaseRun → Nat → Option CaseRun
  | [], _ => none
  | run :: rest, n =>
      if n < run.first then none else if run.holds n then some run else find? rest n

/-- Map a character by the run that holds it, if any. -/
def apply (runs : List CaseRun) (c : CodePoint) : CodePoint :=
  match find? runs c.toNat with
  | some run => Char.ofNat ((c.toNat : Int) + run.shift).toNat
  | none => c

end CaseRun

end Playbook.Text
