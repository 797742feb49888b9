import Mathlib.Data.List.Forall2
import Playbook.Proofs.Escapes

/-! # The spellings of a text

Between double quotes each character may be spelled in several ways, whatever is chosen for the
others: as it is, by a letter, by its code, or octet by octet. A literal is read to the text that it
spells. -/

namespace Playbook.TextLiteral

open Text Text.Utf8

/-- The spellings of an octet: two hexadecimal digits or three octal ones. -/
inductive SpellsOctet (octet : UInt8) : List CodePoint → Prop
  | hex {digits : List CodePoint} (h : Numeral 16 digits octet.toNat) (hlength : digits.length = 2) :
      SpellsOctet octet ('\\' :: 'x' :: digits)
  | octal {digits : List CodePoint} (h : Numeral 8 digits octet.toNat) (hlength : digits.length = 3) :
      SpellsOctet octet ('\\' :: digits)

/-- The spellings of a character: itself, a letter, its code in four or eight digits, or a spelling
of each of its octets. A surrogate has none. -/
inductive Spells : CodePoint → List CodePoint → Prop
  | plain {c : Char} (hquote : c ≠ '"') (hbackslash : c ≠ '\\') : Spells c [.scalar c]
  | letter {x : CodePoint} {c : Char} (h : (x, c) ∈ letters) : Spells c ['\\', x]
  | shortCode {digits : List CodePoint} {c : Char} (h : Numeral 16 digits c.toNat)
      (hlength : digits.length = 4) : Spells c ('\\' :: 'u' :: digits)
  | longCode {digits : List CodePoint} {c : Char} (h : Numeral 16 digits c.toNat)
      (hlength : digits.length = 8) : Spells c ('\\' :: 'U' :: digits)
  | octets {c : Char} {spellings : List (List CodePoint)}
      (h : List.Forall₂ SpellsOctet (encodeChar c) spellings) : Spells c spellings.flatten

/-- The spelling of an octet is a piece that denotes it. -/
theorem SpellsOctet.piece {octet : UInt8} {spelling : List CodePoint} (h : SpellsOctet octet spelling) :
    Piece spelling [octet] := by
  cases h with
  | hex hdigits hlength =>
      have hpiece := Piece.hexOctet hdigits hlength
      rwa [UInt8.ofNat_toNat] at hpiece
  | octal hdigits hlength =>
      have hpiece := Piece.octalOctet hdigits hlength (Nat.le_of_lt_succ octet.toNat_lt)
      rwa [UInt8.ofNat_toNat] at hpiece

theorem Piece.denotes {piece : List CodePoint} {done : List UInt8} (h : Piece piece done) :
    Denotes piece done := by
  have hdenotes := Denotes.piece h .nil
  rwa [List.append_nil, List.append_nil] at hdenotes

/-- The spellings of octets denote them. -/
theorem denotes_of_spellsOctet {octets : List UInt8} {spellings : List (List CodePoint)}
    (h : List.Forall₂ SpellsOctet octets spellings) : Denotes spellings.flatten octets := by
  induction h with
  | nil => exact .nil
  | cons hoctet _ ih => exact .piece hoctet.piece ih

/-- However a character is spelled, its octets are denoted. -/
theorem Spells.denotes {c : CodePoint} {spelling : List CodePoint} (h : Spells c spelling) :
    ∃ d : Char, c = d ∧ Denotes spelling (encodeChar d) := by
  cases h with
  | plain _ hbackslash => exact ⟨_, rfl, (Piece.plain hbackslash).denotes⟩
  | letter h => exact ⟨_, rfl, (Piece.letter h).denotes⟩
  | shortCode h hlength => exact ⟨_, rfl, (Piece.shortCode h hlength).denotes⟩
  | longCode h hlength => exact ⟨_, rfl, (Piece.longCode h hlength).denotes⟩
  | octets h => exact ⟨_, rfl, denotes_of_spellsOctet h⟩

/-- The spellings of characters denote the octets of all of them. -/
theorem denotes_of_spells {cs : List CodePoint} {spellings : List (List CodePoint)}
    (h : List.Forall₂ Spells cs spellings) :
    ∃ ds : List Char, cs = ds.map .scalar ∧ Denotes spellings.flatten (ds.flatMap encodeChar) := by
  induction h with
  | nil => exact ⟨[], rfl, .nil⟩
  | cons hc _ ih =>
      obtain ⟨d, rfl, hd⟩ := hc.denotes
      obtain ⟨ds, rfl, hds⟩ := ih
      refine ⟨d :: ds, rfl, ?_⟩
      rw [List.flatten_cons, List.flatMap_cons]
      exact hd.append hds

/-- A body that denotes the octets of characters is read to them. -/
theorem decode_of_denotes {cs : List Char} {body : List CodePoint}
    (h : Denotes body (cs.flatMap encodeChar)) :
    decode (enclosed body) = .ok (Text.ofList (cs.map .scalar)) := by
  simp only [decode_enclosed, octets_eq_ok_iff.mpr h, decode_flatMap_encodeChar]

/-- A literal is read to the text that it spells, however each of the characters is spelled. -/
theorem decode_of_spelled {text : Text} {spellings : List (List CodePoint)}
    (h : List.Forall₂ Spells text.toList spellings) :
    decode (enclosed spellings.flatten) = .ok text := by
  obtain ⟨cs, hcs, hdenotes⟩ := denotes_of_spells h
  rw [decode_of_denotes hdenotes, ← hcs, Text.ofList_toList]

/-- Octets in either kind of digits, a digit behind them that is none of theirs, and three kinds of
escapes. -/
theorem decode_of_mixed_spelling :
    List.Forall₂ Spells ("é7\"😀\nA" : Text).toList
        ((["\\xC3\\251", "7", "\\\"", "\\U0001f600", "\\n", "\\u0041"] : List Text).map Text.toList) ∧
      decode "\"\\xC3\\2517\\\"\\U0001f600\\n\\u0041\"" = .ok "é7\"😀\nA" := by
  have hhex : SpellsOctet 0xC3 ("\\xC3" : Text).toList :=
    .hex (.cons (d := 12) (by decide) (.cons (d := 3) (by decide) .nil)) rfl
  have hoctal : SpellsOctet 0xA9 ("\\251" : Text).toList :=
    .octal (.cons (d := 2) (by decide) (.cons (d := 5) (by decide)
      (.cons (d := 1) (by decide) .nil))) rfl
  have haccent : Spells 'é' ("\\xC3\\251" : Text).toList :=
    @Spells.octets 'é' [("\\xC3" : Text).toList, ("\\251" : Text).toList]
      (.cons hhex (.cons hoctal .nil))
  have hface : Spells '😀' ("\\U0001f600" : Text).toList :=
    .longCode (numeral_hexDigits 8 0x1F600) rfl
  have hletter : Spells 'A' ("\\u0041" : Text).toList := .shortCode (numeral_hexDigits 4 0x41) rfl
  have hspelled : List.Forall₂ Spells ("é7\"😀\nA" : Text).toList
      ((["\\xC3\\251", "7", "\\\"", "\\U0001f600", "\\n", "\\u0041"] : List Text).map Text.toList) :=
    .cons haccent (.cons (.plain (by decide) (by decide)) (.cons (.letter (by decide))
      (.cons hface (.cons (.letter (by decide)) (.cons hletter .nil)))))
  exact ⟨hspelled, decode_of_spelled hspelled⟩

end Playbook.TextLiteral
