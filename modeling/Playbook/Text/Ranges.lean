import Playbook.Text

/-! # Sets of characters given by ranges

A property of characters is written as a list of inclusive code point ranges in increasing order.
Looking a code point up stops at the first range that lies above it. -/

namespace Playbook.Text

/-- Inclusive ranges of code points, increasing and disjoint. -/
abbrev Ranges := List (Nat × Nat)

namespace Ranges

/-- The range that a code point lies in. -/
def range? : Ranges → Nat → Option (Nat × Nat)
  | [], _ => none
  | (lo, hi) :: rest, n =>
      if n < lo then none else if n ≤ hi then some (lo, hi) else range? rest n

/-- Decide whether a code point lies in one of the ranges. -/
def contains (ranges : Ranges) (n : Nat) : Bool := (ranges.range? n).isSome

theorem range?_bounds {ranges : Ranges} {n lo hi : Nat} (h : ranges.range? n = some (lo, hi)) :
    (lo, hi) ∈ ranges ∧ lo ≤ n ∧ n ≤ hi := by
  induction ranges with
  | nil => simp [range?] at h
  | cons r rest ih =>
      obtain ⟨a, b⟩ := r
      simp only [range?] at h
      split at h
      · simp at h
      · split at h
        · simp only [Option.some.injEq, Prod.mk.injEq] at h
          obtain ⟨rfl, rfl⟩ := h
          simp
          omega
        · have := ih h
          simp [this]

end Ranges

end Playbook.Text
