/-! # Texts

A text is a list of code points. Most code points are scalar values, which are the characters of
Unicode. The others are the surrogates: halves of a pair that stand alone. They belong to no encoded
text, but a text that a page tells or that was made of stray octets may hold them. Where nothing else is
said, the characters of a text are all of its code points. -/

namespace Playbook

/-- A code point: a scalar value, or a surrogate given by its distance from the first one. -/
inductive CodePoint where
  | scalar (c : Char)
  | surrogate (n : Fin 0x800)
deriving Repr, DecidableEq

namespace CodePoint

instance : Coe Char CodePoint := ⟨scalar⟩

/-- The number of a code point. -/
def toNat : CodePoint → Nat
  | scalar c => c.toNat
  | surrogate n => 0xD800 + n

/-- Decide whether a code point is a scalar value. -/
def isScalar : CodePoint → Bool
  | scalar _ => true
  | surrogate _ => false

theorem isScalar_iff {c : CodePoint} : c.isScalar = true ↔ c.toNat.isValidChar := by
  cases c with
  | scalar c => exact iff_of_true rfl c.valid
  | surrogate n =>
      have hn := n.isLt
      refine iff_of_false Bool.false_ne_true fun hvalid => ?_
      simp only [toNat, Nat.isValidChar] at hvalid
      omega

theorem toNat_injective {a b : CodePoint} (h : a.toNat = b.toNat) : a = b := by
  have hapart (c : Char) (n : Fin 0x800) : c.toNat ≠ 0xD800 + n := by
    have hvalid : c.toNat.isValidChar := c.valid
    have hn := n.isLt
    simp only [Nat.isValidChar] at hvalid
    omega
  cases a with
  | scalar c =>
      cases b with
      | scalar d => rw [Char.toNat_inj.mp h]
      | surrogate n => exact absurd h (hapart c n)
  | surrogate m =>
      cases b with
      | scalar d => exact absurd h.symm (hapart d m)
      | surrogate n => rw [Fin.ext (Nat.add_left_cancel h)]

end CodePoint

/-- A text: its code points in order. -/
structure Text where
  ofList ::
  toList : List CodePoint
deriving Repr, DecidableEq

namespace Text

/-- The text of the characters of a string. -/
def ofString (s : String) : Text := ofList (s.toList.map .scalar)

instance : Coe String Text := ⟨ofString⟩

/-- One text after another. -/
protected def append (a b : Text) : Text := ofList (a.toList ++ b.toList)

instance : Append Text := ⟨Text.append⟩

/-- The number of code points in a text. -/
protected def length (text : Text) : Nat := text.toList.length

/-- The text of one code point. -/
protected def singleton (c : CodePoint) : Text := ofList [c]

/-- Texts one after another. -/
protected def join (texts : List Text) : Text := texts.foldr (· ++ ·) ""

/-- Texts one after another, with a text between any two of them. -/
protected def intercalate (between : Text) (texts : List Text) : Text :=
  .join (texts.intersperse between)

/-- Texts are ordered by the numbers of their code points. -/
instance : LE Text :=
  ⟨fun a b => List.le (a.toList.map CodePoint.toNat) (b.toList.map CodePoint.toNat)⟩

instance (a b : Text) : Decidable (a ≤ b) := List.decidableLE _ _

instance : LT Text :=
  ⟨fun a b => List.lt (a.toList.map CodePoint.toNat) (b.toList.map CodePoint.toNat)⟩

variable {a b c : Text} {cs ds : List CodePoint}

theorem toList_inj : a.toList = b.toList ↔ a = b :=
  ⟨fun h => congrArg ofList h, congrArg toList⟩

theorem ofList_inj : ofList cs = ofList ds ↔ cs = ds := ⟨congrArg toList, congrArg ofList⟩

/-- Strings that make the same text are the same. -/
@[simp] theorem ofString_inj {s t : String} : ofString s = ofString t ↔ s = t := by
  constructor
  · intro h
    have hinjective : Function.Injective CodePoint.scalar := fun _ _ hc => CodePoint.scalar.inj hc
    exact String.toList_inj.mp (List.map_inj_right hinjective |>.mp (ofList_inj.mp h))
  · exact congrArg ofString

theorem toList_ofList : (ofList cs).toList = cs := rfl

theorem ofList_toList : ofList a.toList = a := rfl

@[simp] theorem toList_ofString (s : String) : (ofString s).toList = s.toList.map .scalar := rfl

protected theorem le_trans (hab : a ≤ b) (hbc : b ≤ c) : a ≤ c := List.le_trans hab hbc

protected theorem le_total (a b : Text) : a ≤ b ∨ b ≤ a := List.le_total ..

protected theorem not_le : ¬ a ≤ b ↔ b < a := List.not_le

protected theorem le_antisymm (hab : a ≤ b) (hba : b ≤ a) : a = b := by
  have hinjective : Function.Injective CodePoint.toNat := fun _ _ => CodePoint.toNat_injective
  exact toList_inj.mp ((List.map_inj_right hinjective).mp (List.le_antisymm hab hba))

@[simp] theorem toList_append (a b : Text) : (a ++ b).toList = a.toList ++ b.toList := rfl

@[simp] theorem toList_singleton (c : CodePoint) : (Text.singleton c).toList = [c] := rfl

theorem length_toList : a.toList.length = a.length := rfl

@[simp] theorem length_ofList : (ofList cs).length = cs.length := rfl

@[simp] theorem length_append : (a ++ b).length = a.length + b.length := List.length_append

theorem length_eq_zero_iff : a.length = 0 ↔ a = "" :=
  List.length_eq_zero_iff.trans (toList_inj (b := ""))

@[simp] theorem append_empty (a : Text) : a ++ "" = a := toList_inj.mp (List.append_nil _)

@[simp] theorem empty_append (a : Text) : "" ++ a = a := rfl

theorem append_assoc (a b c : Text) : a ++ b ++ c = a ++ (b ++ c) :=
  toList_inj.mp (List.append_assoc ..)

@[simp] theorem append_eq_empty_iff : a ++ b = "" ↔ a = "" ∧ b = "" := by
  simp [← toList_inj]

@[simp] theorem empty_eq_append_iff : "" = a ++ b ↔ a = "" ∧ b = "" := by
  rw [eq_comm, append_eq_empty_iff]

@[simp] theorem append_eq_left : a ++ b = a ↔ b = "" := by
  simp [← toList_inj]

@[simp] theorem join_nil : Text.join [] = "" := rfl

@[simp] theorem join_cons (texts : List Text) : Text.join (a :: texts) = a ++ Text.join texts := rfl

@[simp] theorem join_append (texts others : List Text) :
    Text.join (texts ++ others) = Text.join texts ++ Text.join others := by
  induction texts with
  | nil => rfl
  | cons text texts ih => simp only [List.cons_append, join_cons, ih, append_assoc]

@[simp] theorem intercalate_nil (between : Text) : Text.intercalate between [] = "" := rfl

@[simp] theorem intercalate_singleton (between a : Text) : Text.intercalate between [a] = a :=
  append_empty a

theorem intercalate_cons_cons (between a b : Text) (texts : List Text) :
    Text.intercalate between (a :: b :: texts)
      = a ++ between ++ Text.intercalate between (b :: texts) := by
  simp only [Text.intercalate, List.intersperse_cons_cons, join_cons, append_assoc]

end Text

end Playbook
