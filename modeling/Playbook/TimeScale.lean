import Playbook.Decimal.Fixed

/-! # Time scales

Durations, delays and the clock are kept in a time scale: a type of numbers with the arithmetic that
playing needs. Playbooks are played with floating-point seconds, whose sums round; a scale of exact
numbers fits the same definitions.

## Implementation notes

A time scale makes its numbers from decimals, since every number of the library is one: the numbers
that durations hold, the units and the default limits. -/

namespace Playbook

/-- Numbers that measure seconds. -/
class TimeScale (τ : Type) extends Add τ, Sub τ, Mul τ, Neg τ where
  /-- Decide whether one time is less than another. -/
  before (a b : τ) : Bool
  /-- The number `digits / 10 ^ places`. -/
  ofDecimal (digits places : Nat) : τ
  /-- Write a number with a fixed number of decimal places. -/
  fixed (places : Nat) (time : τ) : Text

namespace TimeScale

variable {τ : Type} [TimeScale τ]

/-- No time at all. -/
def none : τ := ofDecimal 0 0

/-- A whole number of seconds. -/
def seconds (n : Nat) : τ := ofDecimal n 0

/-- A time in milliseconds. -/
def milliseconds (time : τ) : τ := time * ofDecimal 1000 0

end TimeScale

/-- Write a floating-point number with a fixed number of decimal places. -/
def Decimal.fixedFloat (places : Nat) (x : Float) : Text :=
  let bits := x.toBits.toNat
  let negative := bits >>> 63 = 1
  let exponent := (bits >>> 52) % (1 <<< 11)
  let fraction := bits % (1 <<< 52)
  if exponent = 0x7FF then
    if fraction ≠ 0 then "nan" else if negative then "-inf" else "inf"
  else
    let significand := if exponent = 0 then fraction else (1 <<< 52) + fraction
    let power := max exponent 1
    Decimal.fixed places negative (significand <<< (power - 1075)) (1 <<< (1075 - power))

/-- Floating-point seconds. -/
instance : TimeScale Float where
  before a b := a < b
  ofDecimal digits places := Float.ofScientific digits true places
  fixed := Decimal.fixedFloat

end Playbook
