import Playbook.Proofs.FlatReading
import Playbook.Proofs.LiteralGrammar

/-! # Records that were written are read back

A record is written as a composite literal with its values quoted, or as a flat line with each value
quoted or bare. The reader of either dialect finds the record again if no value holds a surrogate. -/

namespace Playbook.Record

open Text Token

/-- A field as a composite literal writes it. -/
def literalField (field : Text × Text) : Text := field.1 ++ ":" ++ quoted field.2

/-- A record as a composite literal, without white space and with its values quoted. -/
def literalText (record : Record) : Text :=
  record.kind ++ "\x7b" ++ Text.intercalate "," (record.fields.map literalField) ++ "\x7d"

/-- A token makes up the text that it holds. -/
theorem tiled_text {kind : TokenKind} {text : Text} (h : Lexeme kind text.toList) (start : Nat) :
    Tiled start [⟨kind, text, start⟩] text.toList := by
  have hsingle := Tiled.single start h
  rw [Text.ofList_toList] at hsingle
  exact hsingle

/-- A mark of the grammar is a token wherever it stands. -/
theorem exists_mark {mark : Text} (h : ∃ c, isMark c = true ∧ mark.toList = [c]) (start : Nat) :
    ∃ token, Tiled start [token] mark.toList ∧ token.IsMark mark := by
  obtain ⟨c, hc, hmark⟩ := h
  have hlexeme : Lexeme .mark mark.toList := ⟨c, hmark, hc⟩
  exact ⟨_, tiled_text hlexeme start, rfl, rfl⟩

/-- A field is made up of a name, a colon and a literal that write it. -/
theorem exists_writesField {field : Text × Text} (hname : isIdentifier field.1.toList = true)
    (hvalue : field.2.isScalar = true) (start : Nat) :
    ∃ name colon literal, Tiled start [name, colon, literal] (literalField field).toList ∧
      WritesField name colon literal field := by
  have hidentifier : Lexeme .identifier field.1.toList := hname
  have hliteral : Lexeme .quoted (quoted field.2).toList := by
    rw [quoted_toList]
    exact lexeme_quotedChars _
  obtain ⟨colon, hcolon, hmark⟩ := exists_mark isMark_colon (start + field.1.toList.length)
  have htiled := ((tiled_text hidentifier start).append hcolon).append (tiled_text hliteral _)
  rw [← Text.toList_append, ← Text.toList_append] at htiled
  refine ⟨_, colon, _, htiled, ?_⟩
  exact ⟨⟨rfl, rfl⟩, hmark, .inl rfl, TextLiteral.decode_quoted hvalue⟩

/-- Fields separated by commas are made up of tokens that write them. -/
theorem exists_writesFields {fields : List (Text × Text)}
    (hnames : ∀ field ∈ fields, isIdentifier field.1.toList = true)
    (hvalues : ∀ field ∈ fields, field.2.isScalar = true) (start : Nat) :
    ∃ tokens, Tiled start tokens (Text.intercalate "," (fields.map literalField)).toList ∧
      WritesFields tokens fields := by
  induction fields generalizing start with
  | nil => exact ⟨[], .blank rfl, .none⟩
  | cons field fields ih =>
      obtain ⟨name, colon, literal, htiled, hfield⟩ :=
        exists_writesField (hnames field (by simp)) (hvalues field (by simp)) start
      cases fields with
      | nil => exact ⟨[name, colon, literal], by simpa using htiled, .last hfield⟩
      | cons next fields =>
          obtain ⟨comma, hcomma, hmark⟩ :=
            exists_mark isMark_comma (start + (literalField field).toList.length)
          have hmore : ∀ other ∈ next :: fields, isIdentifier other.1.toList = true :=
            fun other hother => hnames other (by simp [hother])
          have hothers : ∀ other ∈ next :: fields, other.2.isScalar = true :=
            fun other hother => hvalues other (by simp [hother])
          obtain ⟨tokens, hrest, hfields⟩ :=
            ih hmore hothers (start + ((literalField field).toList ++ ("," : Text).toList).length)
          have hall := (htiled.append hcomma).append hrest
          rw [← Text.toList_append, ← Text.toList_append] at hall
          refine ⟨_, ?_, .more hfield hmark hfields⟩
          simpa [Text.intercalate_cons_cons] using hall

/-- A written record has a layout. -/
theorem exists_layout {record : Record} (hkind : isIdentifier record.kind.toList = true)
    (hnames : ∀ field ∈ record.fields, isIdentifier field.1.toList = true)
    (hvalues : ∀ field ∈ record.fields, field.2.isScalar = true) :
    Nonempty (Layout record.literalText record) := by
  have hidentifier : Lexeme .identifier record.kind.toList := hkind
  obtain ⟨opening, hopening, hmark⟩ := exists_mark isMark_opening (0 + record.kind.toList.length)
  have hstart := (tiled_text hidentifier 0).append hopening
  obtain ⟨tokens, hrest, hfields⟩ :=
    exists_writesFields hnames hvalues (0 + (record.kind.toList ++ ("\x7b" : Text).toList).length)
  have hfront := hstart.append hrest
  rw [← Text.toList_append, ← Text.toList_append] at hfront
  obtain ⟨closing, hclosing, hmark'⟩ := exists_mark isMark_closing
    (0 + (record.kind ++ "\x7b" ++ Text.intercalate "," (record.fields.map literalField)).toList.length)
  have hall := hfront.append hclosing
  rw [← Text.toList_append] at hall
  exact ⟨_, opening, tokens, closing, hall, ⟨rfl, rfl⟩, hmark, hfields, hmark'⟩

/-- Quoting escapes the double quote, the backslash and the characters below the space and nothing else,
and a record whose values are quoted and hold no surrogates is read back in either dialect. On a flat
line a value without blank characters and double quotes may also stand as it is. -/
theorem written_record_is_read {record : Record} (hkind : isIdentifier record.kind.toList = true)
    (hnames : ∀ field ∈ record.fields, isIdentifier field.1.toList = true)
    (hvalues : ∀ field ∈ record.fields, field.2.isScalar = true) :
    (∀ c, quotedChar c ≠ [c] ↔ c = '"' ∨ c = '\\' ∨ c.toNat < 0x20) ∧
      ofLiteral record.literalText = .ok (some record) ∧
      ∀ pairs, WritesPairs record.fields pairs →
        ofFlat (record.kind ++ pairs) = .ok (some record) := by
  refine ⟨quotedChar_ne_self_iff, ?_, ?_⟩
  · obtain ⟨layout⟩ := exists_layout hkind hnames hvalues
    exact layout.ofLiteral_eq
  · intro pairs hpairs
    exact ofFlat_of_writesPairs hkind hnames hvalues hpairs

/-- A quoted value with a double quote, a line feed and a control character, and a bare one that
looks like a pair. -/
theorem written_click_is_read :
    ofLiteral "click\x7ba:\"\\\"\\n\\u0001\",b:\"x=y\"\x7d" =
        .ok (some ⟨"click", [("a", "\"\n\x01"), ("b", "x=y")]⟩) ∧
      ofFlat "click a=\"\\\"\\n\\u0001\" b=x=y" =
        .ok (some ⟨"click", [("a", "\"\n\x01"), ("b", "x=y")]⟩) := by
  obtain ⟨-, hliteral, hflat⟩ :=
    @written_record_is_read ⟨"click", [("a", "\"\n\x01"), ("b", "x=y")]⟩ (by decide) (by decide)
      (by decide)
  have hbare : ∀ c ∈ ("x=y" : Text).toList, isBlank c = false ∧ c ≠ '"' := by
    intro c hc
    have hc : c = 'x' ∨ c = '=' ∨ c = 'y' := by simpa using hc
    rcases hc with rfl | rfl | rfl <;> decide
  have hpairs : WritesPairs [("a", "\"\n\x01"), ("b", "x=y")] " a=\"\\\"\\n\\u0001\" b=x=y" :=
    .cons .quoted (.cons (.bare hbare) .nil)
  exact ⟨hliteral, hflat _ hpairs⟩

end Playbook.Record
