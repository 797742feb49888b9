import Playbook.Proofs.LiteralCuts
import Playbook.Proofs.RoundTrip

/-! # Records that lines break into parts

A written record holds no line end, so lines may break it without adding to it. As long as no line
ends inside a value, the parts that have come in are read as no record yet, and all of them as the
record. Blank lines in front do not matter. -/

namespace Playbook

namespace Text

/-- Decide whether a character may end a line. -/
def isLineEnd (c : CodePoint) : Bool := c = '\r' || c = '\n'

/-- A text holds no line end. -/
def OneLine (text : Text) : Prop := ∀ c ∈ text.toList, isLineEnd c = false

instance (text : Text) : Decidable (OneLine text) := List.decidableBAll _ text.toList

/-- A line holds a text, and nothing but line ends after it. -/
def IsLine (text line : Text) : Prop :=
  ∃ ending, (∀ c ∈ ending.toList, isLineEnd c = true) ∧ line = text ++ ending

theorem isBlank_of_isLineEnd {c : CodePoint} (h : isLineEnd c = true) : isBlank c = true := by
  have hc : c = '\r' ∨ c = '\n' := by simpa [isLineEnd] using h
  rcases hc with rfl | rfl <;> decide

theorem isLineEnd_of_isBlank {c : CodePoint} (h : isBlank c = false) : isLineEnd c = false := by
  cases hc : isLineEnd c with
  | false => rfl
  | true => exact absurd (isBlank_of_isLineEnd hc) (by simp [h])

theorem isLineEnd_of_code {c : CodePoint} (h : 0x20 ≤ c.toNat) : isLineEnd c = false := by
  cases hc : isLineEnd c with
  | false => rfl
  | true =>
      have hends : c = '\r' ∨ c = '\n' := by simpa [isLineEnd] using hc
      rcases hends with rfl | rfl <;> exact absurd h (by decide)

theorem oneLine_append {first rest : Text} :
    OneLine (first ++ rest) ↔ OneLine first ∧ OneLine rest := by
  simp [OneLine, or_imp, forall_and]

theorem OneLine.append {first rest : Text} (hfirst : OneLine first) (hrest : OneLine rest) :
    OneLine (first ++ rest) :=
  oneLine_append.mpr ⟨hfirst, hrest⟩

/-- An identifier holds no line end. -/
theorem oneLine_of_isIdentifier {name : Text} (h : isIdentifier name.toList = true) :
    OneLine name :=
  fun _ hc => isLineEnd_of_isBlank (isBlank_of_isWord (isWord_of_mem_isIdentifier h hc))

/-- A quoted text holds no line end. -/
theorem oneLine_quoted (text : Text) : OneLine (quoted text) := by
  intro c hc
  rw [quoted_toList] at hc
  exact isLineEnd_of_code (code_of_mem_quotedChars hc)

/-- A line is trimmed to the text that it holds. -/
theorem trimLineEnd_of_isLine {text line : Text} (h : IsLine text line) (htext : OneLine text) :
    trimLineEnd line = text := by
  obtain ⟨ending, hending, rfl⟩ := h
  have hreverse :
      (text ++ ending).toList.reverse = ending.toList.reverse ++ text.toList.reverse := by
    rw [Text.toList_append, List.reverse_append]
  have hdrop : (ending.toList.reverse ++ text.toList.reverse).dropWhile isLineEnd =
      text.toList.reverse := by
    apply (Text.takeWhile_dropWhile_append _ _).2
    · intro c hc
      exact hending c (List.mem_reverse.mp hc)
    · intro c hc
      exact htext c (List.mem_reverse.mp (List.mem_of_mem_head? hc))
  calc
    trimLineEnd (text ++ ending)
        = Text.ofList (((text ++ ending).toList.reverse.dropWhile isLineEnd).reverse) := rfl
    _ = text := by rw [hreverse, hdrop, List.reverse_reverse, Text.ofList_toList]

/-- A blank line stays blank when it is trimmed. -/
theorem isBlankText_trimLineEnd {line : Text} (h : isBlankText line = true) :
    isBlankText (trimLineEnd line) = true := by
  rw [isBlankText, List.all_eq_true] at h ⊢
  intro c hc
  rw [trimLineEnd, Text.toList_ofList, List.mem_reverse] at hc
  exact h c (List.mem_reverse.mp ((List.dropWhile_sublist _).mem hc))

theorem isBlankText_append {first rest : Text} :
    isBlankText (first ++ rest) = true ↔ isBlankText first = true ∧ isBlankText rest = true := by
  simp [isBlankText]

end Text

namespace Record

open Text Token

/-- Either dialect can write a record: its kind and its field names are identifiers, and no value holds a
surrogate. -/
structure Writable (record : Record) : Prop where
  kind : isIdentifier record.kind.toList = true
  names : ∀ field ∈ record.fields, isIdentifier field.1.toList = true
  values : ∀ field ∈ record.fields, field.2.isScalar = true

/-- The parts that lines break a written record into: they make it up, and none ends inside a
value. -/
structure Parts (record : Record) (parts : List Text) : Prop where
  joined : Text.join parts = record.literalText
  unbroken : ∀ first, first <+: parts →
    ∀ (layout : Layout record.literalText record) (literal : Token), layout.IsValue literal →
      ¬ Inside (Text.join first).length literal

variable {record : Record} {text gap : Text}

/-- Written fields hold no line end. -/
theorem oneLine_intercalate_literalField {fields : List (Text × Text)}
    (hnames : ∀ field ∈ fields, isIdentifier field.1.toList = true) :
    OneLine (Text.intercalate "," (fields.map literalField)) := by
  have hfield {field : Text × Text} (hname : isIdentifier field.1.toList = true) :
      OneLine (literalField field) :=
    ((oneLine_of_isIdentifier hname).append (by decide)).append (oneLine_quoted _)
  induction fields with
  | nil => simp [OneLine]
  | cons field fields ih =>
      have hfirst := hfield (hnames field (by simp))
      cases fields with
      | nil => simpa using hfirst
      | cons next fields =>
          have hrest := ih fun other hother => hnames other (by simp [hother])
          simp only [List.map_cons, Text.intercalate_cons_cons] at hrest ⊢
          exact (hfirst.append (by decide)).append hrest

/-- Written pairs hold no line end. -/
theorem WritesPairs.oneLine {fields : List (Text × Text)} {pairs : Text}
    (h : WritesPairs fields pairs) (hnames : ∀ field ∈ fields, isIdentifier field.1.toList = true) :
    OneLine pairs := by
  induction h with
  | nil => decide
  | @cons name value word fields rest hword _ ih =>
      have hname := oneLine_of_isIdentifier (hnames (name, value) (by simp))
      have hspelled : OneLine word := by
        cases hword with
        | quoted => exact oneLine_quoted value
        | bare h => exact fun c hc => isLineEnd_of_isBlank (h c hc).1
      have hrest := ih fun field hfield => hnames field (by simp [hfield])
      have hspace : OneLine " " := by decide
      exact (((hspace.append hname).append (by decide)).append hspelled).append hrest

/-- A written record holds no line end. -/
theorem Writable.oneLine_literalText (h : record.Writable) : OneLine record.literalText :=
  (((oneLine_of_isIdentifier h.kind).append (by decide)).append
    (oneLine_intercalate_literalField h.names)).append (by decide)

/-- A part of a written record holds no line end. -/
theorem Parts.oneLine {parts first rest : List Text} {part : Text}
    (h : Parts record parts) (hwritable : record.Writable) (hparts : parts = first ++ part :: rest) :
    OneLine part := by
  have hall := hwritable.oneLine_literalText
  rw [← h.joined, hparts, Text.join_append, Text.join_cons, oneLine_append,
    oneLine_append] at hall
  exact hall.2.1

theorem WritesFields.moved {tokens : List Token} {fields : List (Text × Text)}
    (h : WritesFields tokens fields) (n : Nat) : WritesFields (tokens.map (moveBy n)) fields := by
  have hmoved {name colon literal : Token} {field : Text × Text}
      (hfield : WritesField name colon literal field) :
      WritesField (name.moveBy n) (colon.moveBy n) (literal.moveBy n) field :=
    ⟨hfield.isName, hfield.isColon, hfield.isLiteral, hfield.denotes⟩
  induction h with
  | none => exact .none
  | last hfield => exact .last (hmoved hfield)
  | more hfield hcomma _ ih => exact .more (hmoved hfield) hcomma ih

namespace Layout

/-- A record with blank characters in front is laid out as before, only further on. -/
def afterBlank (layout : Layout text record) (hgap : isBlankText gap = true) :
    Layout (gap ++ text) record where
  kind := layout.kind.moveBy gap.length
  opening := layout.opening.moveBy gap.length
  fields := layout.fields.map (moveBy gap.length)
  closing := layout.closing.moveBy gap.length
  tiled := by
    have htiled := layout.tiled.after_blank hgap
    rw [Text.length_toList] at htiled
    simpa using htiled
  isKind := layout.isKind
  isOpening := layout.isOpening
  areFields := layout.areFields.moved gap.length
  isClosing := layout.isClosing

/-- A written record ends with its closing brace. -/
theorem closing_stop_literalText (layout : Layout record.literalText record) :
    layout.closing.stop = record.literalText.length := by
  have htiled : Tiled 0 ((layout.kind :: layout.opening :: layout.fields) ++ [layout.closing])
      record.literalText.toList := layout.tiled
  obtain ⟨front, after, hsplit, hafter, hstop⟩ := htiled.exists_after_last
  have hbrace : isBlank '\x7d' = false := by decide
  rw [Nat.zero_add] at hstop
  rcases List.eq_nil_or_concat after with rfl | ⟨init, last, rfl⟩
  · rw [List.append_nil] at hsplit
    rw [← hstop, ← hsplit, Text.length_toList]
  · -- The last character of the text is no blank character.
    have hends : record.literalText.toList = _ ++ [.scalar '\x7d'] := Text.toList_append ..
    rw [hends, List.concat_eq_append, ← List.append_assoc] at hsplit
    obtain ⟨-, hlast⟩ := List.append_inj' hsplit rfl
    obtain rfl := List.singleton_inj.mp hlast
    simp [hbrace] at hafter

end Layout

/-- What is read of a record while its parts come in: the record once all of it is there, and no
record before. -/
theorem Parts.ofLiteral_join {parts first rest : List Text} (h : Parts record parts)
    (hwritable : record.Writable) (hparts : parts = first ++ rest) (hgap : isBlankText gap = true) :
    ofLiteral (gap ++ Text.join first) =
      .ok (if Text.join first = record.literalText then some record else none) := by
  obtain ⟨layout⟩ := exists_layout hwritable.kind hwritable.names hwritable.values
  split
  case isTrue hall =>
    rw [hall]
    exact (layout.afterBlank hgap).ofLiteral_eq
  case isFalse hopen =>
    have htext : Text.join first ++ Text.join rest = record.literalText := by
      rw [← Text.join_append, ← hparts, h.joined]
    have hcut : cutAt (gap ++ record.literalText) (gap ++ Text.join first).length =
        gap ++ Text.join first := by
      rw [← htext, ← Text.append_assoc, cutAt_append]
    have hshort : (Text.join first).length < record.literalText.length := by
      rw [← htext, Text.length_append]
      apply Nat.lt_add_of_pos_right
      apply Nat.pos_of_ne_zero
      intro hrest
      rw [Text.length_eq_zero_iff] at hrest
      rw [hrest, Text.append_empty] at htext
      exact hopen htext
    rw [← hcut]
    apply (layout.afterBlank hgap).ofLiteral_cutAt_open
    · have hclosing := layout.closing_stop_literalText
      rw [layout.closing_stop] at hclosing
      simp only [Layout.afterBlank, moveBy, Text.length_append]
      omega
    · simp only [Text.length_append]
      omega
    · intro delimiter token htoken hkind hinside
      obtain ⟨literal, hliteral, rfl⟩ := List.mem_map.mp htoken
      have hvalue := layout.isValue_of_literal hliteral hkind
      apply h.unbroken first ⟨rest, hparts.symm⟩ layout literal hvalue
      simp only [Inside, stop, moveBy, Text.length_append] at hinside ⊢
      omega

end Record

end Playbook
