import Playbook.Record

/-! # Records as flat lines

A flat line holds pairs separated by white space: a name, and perhaps an equals sign and a value,
either bare or a double-quoted literal. The first pair is the kind and has no value. -/

namespace Playbook.Record

open Text

/-- A pair as it is cut from a line: its name and what follows the equals sign, if there is one. -/
structure RawPair where
  name : List CodePoint
  value : Option (List CodePoint)
deriving Repr, DecidableEq

/-- Decide whether a character may stand in the name of a pair. -/
def isNameChar (c : CodePoint) : Bool := !isBlank c && c ≠ '=' && c ≠ '"'

/-- Decide whether a character may stand in a bare value. -/
def isBareChar (c : CodePoint) : Bool := !isBlank c && c ≠ '"'

/-- Cut the rest of a double-quoted value up to its closing quote; a backslash takes the character
after it along, which is no line feed. -/
def cutQuoted : List CodePoint → Option (List CodePoint × List CodePoint)
  | [] => none
  | .scalar '"' :: rest => some (['"'], rest)
  | .scalar '\\' :: c :: rest =>
      if c = '\n' then none else (cutQuoted rest).map fun (body, rest) => ('\\' :: c :: body, rest)
  | c :: rest =>
      if c = '\\' then none else (cutQuoted rest).map fun (body, rest) => (c :: body, rest)

/-- Cut a value: a double-quoted one if a quote begins it, else a bare one. -/
def cutValue : List CodePoint → Option (List CodePoint × List CodePoint)
  | .scalar '"' :: rest => (cutQuoted rest).map fun (body, rest) => ('"' :: body, rest)
  | cs => some (cs.takeWhile isBareChar, cs.dropWhile isBareChar)

/-- Decide whether a pair may end before these characters. -/
def endsPair : List CodePoint → Bool
  | [] => true
  | c :: _ => isBlank c

/-- Cut the value of a pair, if an equals sign follows its name. -/
def cutAssigned : List CodePoint → Option (Option (List CodePoint) × List CodePoint)
  | .scalar '=' :: rest => (cutValue rest).map fun (value, rest) => (some value, rest)
  | cs => some (none, cs)

/-- Cut one pair from the characters of a line. -/
def cutPair (cs : List CodePoint) : Option (RawPair × List CodePoint) :=
  let name := cs.takeWhile isNameChar
  if name.isEmpty then none
  else
    match cutAssigned (cs.dropWhile isNameChar) with
    | some (value, rest) => if endsPair rest then some (⟨name, value⟩, rest) else none
    | none => none

theorem cutQuoted_length {cs body rest : List CodePoint} (h : cutQuoted cs = some (body, rest)) :
    rest.length ≤ cs.length := by
  fun_induction cutQuoted cs generalizing body rest with
  | case1 => simp at h
  | case2 tail =>
      simp only [Option.some.injEq, Prod.mk.injEq] at h
      simp [← h.2]
  | case3 tail => simp at h
  | case4 c tail _ ih =>
      simp only [Option.map_eq_some_iff, Prod.exists, Prod.mk.injEq] at h
      obtain ⟨inner, after, hcut, -, rfl⟩ := h
      have := ih hcut
      simp only [List.length_cons]
      omega
  | case5 c tail => simp at h
  | case6 c tail _ _ _ ih =>
      simp only [Option.map_eq_some_iff, Prod.exists, Prod.mk.injEq] at h
      obtain ⟨inner, after, hcut, -, rfl⟩ := h
      have := ih hcut
      simp only [List.length_cons]
      omega

theorem cutValue_length {cs value rest : List CodePoint} (h : cutValue cs = some (value, rest)) :
    rest.length ≤ cs.length := by
  unfold cutValue at h
  split at h
  · simp only [Option.map_eq_some_iff, Prod.exists, Prod.mk.injEq] at h
    obtain ⟨inner, after, hcut, -, rfl⟩ := h
    have := cutQuoted_length hcut
    simp only [List.length_cons]
    omega
  · simp only [Option.some.injEq, Prod.mk.injEq] at h
    rw [← h.2]
    exact (List.dropWhile_sublist isBareChar).length_le

theorem cutAssigned_length {cs rest : List CodePoint} {value : Option (List CodePoint)}
    (h : cutAssigned cs = some (value, rest)) : rest.length ≤ cs.length := by
  unfold cutAssigned at h
  split at h
  · simp only [Option.map_eq_some_iff, Prod.exists, Prod.mk.injEq] at h
    obtain ⟨inner, after, hcut, -, rfl⟩ := h
    have := cutValue_length hcut
    simp only [List.length_cons]
    omega
  · simp only [Option.some.injEq, Prod.mk.injEq] at h
    simp [← h.2]

/-- A pair takes at least its name. -/
theorem cutPair_length {cs rest : List CodePoint} {pair : RawPair}
    (h : cutPair cs = some (pair, rest)) : rest.length < cs.length := by
  unfold cutPair at h
  simp only at h
  split at h
  · simp at h
  · rename_i hname
    split at h
    · rename_i value after hcut
      split at h
      · simp only [Option.some.injEq, Prod.mk.injEq] at h
        have hafter := cutAssigned_length hcut
        have hsplit := congrArg List.length (List.takeWhile_append_dropWhile (p := isNameChar) (l := cs))
        simp only [List.length_append] at hsplit
        have hpos : 0 < (cs.takeWhile isNameChar).length := by
          rw [List.length_pos_iff]
          simpa using hname
        rw [← h.2]
        omega
      · simp at h
    · simp at h

/-- The value of a pair: a quoted one denotes a text, a bare one stands for itself. -/
def RawPair.value? (pair : RawPair) : Except RecordFault (Option Text) :=
  match pair.value with
  | some ('"' :: body) =>
      match TextLiteral.decode (Text.ofList ('"' :: body)) with
      | .ok text => .ok (some text)
      | .error fault => .error (.value fault)
  | some bare => .ok (some (Text.ofList bare))
  | none => .ok none

/-- Read a pair that was cut after `position` characters. -/
def RawPair.read (position : Nat) (pair : RawPair) :
    Except RecordFault (Text × Option Text) :=
  if isIdentifier pair.name then pair.value?.map fun value => (Text.ofList pair.name, value)
  else .error (.invalidName (Text.ofList pair.name) position)

/-- Read the pairs of the rest of a line, which begins after `position` characters. -/
def readPairs (position : Nat) (cs : List CodePoint) :
    Except RecordFault (List (Text × Option Text)) :=
  let start := cs.dropWhile isBlank
  let position := position + (cs.length - start.length)
  if start.isEmpty then .ok []
  else
    match _h : cutPair start with
    | none => .error (.malformedPair position (Text.ofList start))
    | some (pair, rest) => do
        let first ← pair.read position
        let more ← readPairs (position + (start.length - rest.length)) rest
        return first :: more
termination_by cs.length
decreasing_by
  have := cutPair_length ‹_›
  have : start.length ≤ cs.length := (List.dropWhile_sublist isBlank).length_le
  omega

/-- The record that pairs make: the first is the kind and has no value. -/
def ofPairs : List (Text × Option Text) → Except RecordFault (Option Record)
  | [] => .ok none
  | (kind, value) :: fields =>
      match value with
      | none | some "" => .ok (some ⟨kind, fields.map fun (name, value) => (name, value.getD "")⟩)
      | some value => .error (.kindWithValue kind value)

/-- Read a flat line. There is no record on a blank line. -/
def ofFlat (line : Text) : Except RecordFault (Option Record) :=
  (readPairs 0 line.toList) >>= ofPairs

end Playbook.Record
