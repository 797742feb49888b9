import Playbook.Text.Digit
import Playbook.Text.Shown
import Playbook.TimeScale

/-! # Durations

A duration is an optional sign followed either by a single zero or by parts, each a decimal number
and a unit: `60s`, `1m30s`, `-1.5h`. Its value is the sum of its parts from left to right. -/

namespace Playbook

/-- The units of time. -/
inductive TimeUnit where
  | nanosecond | microsecond | millisecond | second | minute | hour
deriving Repr, DecidableEq

namespace TimeUnit

/-- The length of a unit in seconds. -/
def length {τ : Type} [TimeScale τ] : TimeUnit → τ
  | nanosecond => TimeScale.ofDecimal 1 9
  | microsecond => TimeScale.ofDecimal 1 6
  | millisecond => TimeScale.ofDecimal 1 3
  | second => TimeScale.ofDecimal 1 0
  | minute => TimeScale.ofDecimal 60 0
  | hour => TimeScale.ofDecimal 3600 0

/-- Read a unit; microseconds are also written with the micro sign or the Greek letter. -/
def read : List CodePoint → Option (TimeUnit × List CodePoint)
  | .scalar 'n' :: .scalar 's' :: rest => some (nanosecond, rest)
  | .scalar 'u' :: .scalar 's' :: rest => some (microsecond, rest)
  | .scalar '\u00B5' :: .scalar 's' :: rest => some (microsecond, rest)
  | .scalar '\u03BC' :: .scalar 's' :: rest => some (microsecond, rest)
  | .scalar 'm' :: .scalar 's' :: rest => some (millisecond, rest)
  | .scalar 's' :: rest => some (second, rest)
  | .scalar 'm' :: rest => some (minute, rest)
  | .scalar 'h' :: rest => some (hour, rest)
  | _ => none

theorem read_length {cs rest : List CodePoint} {unit : TimeUnit} (h : read cs = some (unit, rest)) :
    rest.length < cs.length := by
  unfold read at h
  split at h
  case h_9 => cases h
  all_goals
    simp only [Option.some.injEq, Prod.mk.injEq] at h
    simp only [← h.2, List.length_cons]
    omega

end TimeUnit

/-- Why a text is no duration. -/
inductive DurationFault where
  /-- A number is followed by no unit. -/
  | missingUnit (text : Text)
  /-- The text has no parts, or something in it begins no part. -/
  | invalid (text : Text)
deriving Repr, DecidableEq

namespace DurationFault

/-- The message of a fault. -/
def message : DurationFault → Text
  | missingUnit text => "missing unit in duration " ++ Text.shown text
  | invalid text => "invalid duration " ++ Text.shown text

end DurationFault

namespace Duration

open Text

/-- A decimal number as it is written: its digits before and after the point. -/
structure Number where
  whole : List CodePoint
  fraction : List CodePoint
deriving Repr, DecidableEq

/-- The value that a list of decimal digits denotes. -/
def digitsValue (digits : List CodePoint) : Nat :=
  digits.foldl (fun n c => n * 10 + digitValue c) 0

/-- The value of a number in a time scale. -/
def Number.value {τ : Type} [TimeScale τ] (number : Number) : τ :=
  TimeScale.ofDecimal (digitsValue (number.whole ++ number.fraction)) number.fraction.length

/-- Read the longest number at the start; it has a digit before or after its point. -/
def Number.read (cs : List CodePoint) : Option (Number × List CodePoint) :=
  let whole := cs.takeWhile isDigit
  match cs.dropWhile isDigit with
  | .scalar '.' :: rest =>
      let fraction := rest.takeWhile isDigit
      if whole.isEmpty && fraction.isEmpty then none
      else some (⟨whole, fraction⟩, rest.dropWhile isDigit)
  | rest => if whole.isEmpty then none else some (⟨whole, []⟩, rest)

theorem Number.read_length {cs rest : List CodePoint} {number : Number}
    (h : Number.read cs = some (number, rest)) : rest.length ≤ cs.length := by
  have hdrop : (cs.dropWhile isDigit).length ≤ cs.length :=
    (List.dropWhile_sublist isDigit).length_le
  unfold Number.read at h
  simp only at h
  split at h
  · rename_i tail heq
    have htail : (tail.dropWhile isDigit).length ≤ tail.length :=
      (List.dropWhile_sublist isDigit).length_le
    rw [heq, List.length_cons] at hdrop
    split at h
    · simp at h
    · simp only [Option.some.injEq, Prod.mk.injEq] at h
      rw [← h.2]
      omega
  · split at h
    · simp at h
    · simp only [Option.some.injEq, Prod.mk.injEq] at h
      rw [← h.2]
      exact hdrop

/-- A part of a duration. -/
structure Part where
  number : Number
  unit : TimeUnit
deriving Repr, DecidableEq

/-- The length of a part. -/
def Part.value {τ : Type} [TimeScale τ] (part : Part) : τ := part.number.value * part.unit.length

/-- Read one part. -/
def Part.read (cs : List CodePoint) : Option (Part × List CodePoint) := do
  let (number, rest) ← Number.read cs
  let (unit, rest) ← TimeUnit.read rest
  return (⟨number, unit⟩, rest)

theorem Part.read_length {cs rest : List CodePoint} {part : Part}
    (h : Part.read cs = some (part, rest)) : rest.length < cs.length := by
  simp only [Part.read, Option.bind_eq_bind, Option.bind_eq_some_iff, Prod.exists] at h
  obtain ⟨number, after, hnumber, unit, last, hunit, hlast⟩ := h
  simp only [Option.pure_def, Option.some.injEq, Prod.mk.injEq] at hlast
  have h₁ := Number.read_length hnumber
  have h₂ := TimeUnit.read_length hunit
  rw [← hlast.2]
  omega

/-- Read parts up to the end; where none fits, tell whether a number stands there. -/
def readParts (cs : List CodePoint) : Except Bool (List Part) :=
  match cs with
  | [] => .ok []
  | c :: cs' =>
      match _h : Part.read (c :: cs') with
      | none => .error (Number.read (c :: cs')).isSome
      | some (part, rest) => (readParts rest).map (part :: ·)
termination_by cs.length
decreasing_by exact Part.read_length ‹_›

/-- The sign of a duration: its factor and what it stands before. -/
def splitSign {τ : Type} [TimeScale τ] : List CodePoint → τ × List CodePoint
  | .scalar '+' :: rest => (TimeScale.seconds 1, rest)
  | .scalar '-' :: rest => (-TimeScale.seconds 1, rest)
  | cs => (TimeScale.seconds 1, cs)

/-- Read a duration as a number of seconds. A bare zero is zero whatever its sign. -/
def parse {τ : Type} [TimeScale τ] (text : Text) : Except DurationFault τ :=
  let (sign, body) := splitSign text.toList
  if body = [.scalar '0'] then .ok TimeScale.none
  else if body.isEmpty then .error (.invalid text)
  else
    match readParts body with
    | .error true => .error (.missingUnit text)
    | .error false => .error (.invalid text)
    | .ok parts => .ok (sign * parts.foldl (fun total part => total + part.value) TimeScale.none)

end Duration

end Playbook
