import Playbook.Proofs.Encodings
import Playbook.Proofs.Lexeme
import Playbook.Proofs.Spellings
import Playbook.Text.Quoted

/-! # Quoted texts are literals that denote them

A text that is quoted is a double-quoted literal, and its value is the text. Three ways to write a
character have to be told apart: as it is, by a letter and by its code.

## Implementation notes

`Written` is all that later proofs know about the way a character is quoted. -/

namespace Playbook

open Text Text.Utf8 TextLiteral

namespace Text

/-- How quoting may write a character. -/
inductive Written : CodePoint → List CodePoint → Prop
  | plain {c : CodePoint} (hquote : c ≠ '"') (hbackslash : c ≠ '\\') (hcode : 0x20 ≤ c.toNat) :
      Written c [c]
  | letter {c : Char} {x : CodePoint} {octet : UInt8} (hletter : simpleEscape? x = some octet)
      (hoctet : encodeChar c = [octet]) : Written c ['\\', x]
  | code {c : CodePoint} (hcode : c.toNat < 0x20) :
      Written c ('\\' :: 'u' :: hexDigits 4 c.toNat)

theorem written_quotedChar (c : CodePoint) : Written c (quotedChar c) := by
  unfold quotedChar
  split
  · rename_i h
    rcases (by simpa using h : c = '"' ∨ c = '\\') with rfl | rfl
    · exact .letter rfl rfl
    · exact .letter rfl rfl
  · rename_i hsyntax
    iterate 5
      split
      · rename_i h
        subst h
        exact .letter rfl rfl
    split
    · rename_i hcode
      exact .code hcode
    · rename_i hcode
      simp only [Bool.or_eq_true, decide_eq_true_eq, not_or] at hsyntax
      exact .plain hsyntax.1 hsyntax.2 (Nat.le_of_not_lt hcode)

/-- Quoting spells a character that is no surrogate. -/
theorem Written.spells {c : Char} {cs : List CodePoint} (h : Written c cs) : Spells c cs := by
  cases h with
  | plain hquote hbackslash _ =>
      exact .plain (fun hc => hquote (congrArg _ hc)) fun hc => hbackslash (congrArg _ hc)
  | letter hletter hoctet =>
      obtain ⟨d, hd, hother⟩ := simpleEscape?_eq_some_iff.mp hletter
      obtain rfl := encodeChar_injective (hother.trans hoctet.symm)
      exact .letter hd
  | code hcode =>
      have hsmall : c.toNat < 0x20 := hcode
      have hnumeral := numeral_hexDigits 4 c.toNat
      rw [Nat.mod_eq_of_lt (by omega)] at hnumeral
      exact .shortCode hnumeral (hexDigits_length ..)

/-- A written digit is read as a digit. -/
theorem hexValue?_of_mem_hexDigits {width n : Nat} {c : CodePoint} (h : c ∈ hexDigits width n) :
    ∃ digit, hexValue? c = some digit := by
  induction width generalizing n with
  | zero => simp [hexDigits] at h
  | succ width ih =>
      rw [hexDigits, List.mem_append] at h
      rcases h with h | h
      · exact ih h
      · rw [List.mem_singleton] at h
        exact ⟨n % 16, h ▸ hexValue?_hexDigit (Nat.mod_lt n (by decide))⟩

theorem body_hexDigits (width n : Nat) : Token.Body .double (hexDigits width n) := by
  have hbody {cs : List CodePoint} (h : ∀ c ∈ cs, ∃ digit, hexValue? c = some digit) :
      Token.Body .double cs := by
    induction cs with
    | nil => exact .nil
    | cons c cs ih =>
        have hother {d : CodePoint} (hd : hexValue? d = none) : c ≠ d := by
          rintro rfl
          obtain ⟨digit, hdigit⟩ := h c (by simp)
          simp [hd] at hdigit
        exact .plain (hother (by decide)) (hother (by decide)) (hother (by decide))
          (ih fun d hd => h d (by simp [hd]))
  exact hbody fun c hc => hexValue?_of_mem_hexDigits hc

/-- What quoting writes may stand in a literal. -/
theorem Written.body {c : CodePoint} {cs : List CodePoint} (h : Written c cs) : Token.Body .double cs := by
  cases h with
  | plain hquote hbackslash hcode =>
      refine .plain hquote hbackslash ?_ .nil
      rintro rfl
      exact absurd hcode (by decide)
  | letter => exact .escaped (by decide) .nil
  | code => exact .escaped (by decide) (body_hexDigits 4 _)

/-- A digit is no control character. -/
theorem code_of_hexValue? {c : CodePoint} {digit : Nat} (h : hexValue? c = some digit) :
    0x20 ≤ c.toNat := by
  apply Nat.le_of_not_lt
  intro hcode
  rw [hexValue?, if_neg (by omega), if_neg (by omega), if_neg (by omega)] at h
  cases h

/-- A letter of an escape is no control character. -/
theorem code_of_simpleEscape? {c : CodePoint} {octet : UInt8} (h : simpleEscape? c = some octet) :
    0x20 ≤ c.toNat := by
  apply Nat.le_of_not_lt
  intro hcode
  have hother {d : CodePoint} (hd : 0x20 ≤ d.toNat) : c ≠ d := by
    rintro rfl
    exact absurd hcode (Nat.not_lt.mpr hd)
  rw [simpleEscape?] at h
  iterate 9 rw [if_neg (hother (by decide))] at h
  cases h

/-- Quoting writes no control character. -/
theorem Written.code_of_mem {c d : CodePoint} {cs : List CodePoint} (h : Written c cs) (hd : d ∈ cs) :
    0x20 ≤ d.toNat := by
  cases h with
  | plain _ _ hcode => exact List.mem_singleton.mp hd ▸ hcode
  | letter hletter =>
      rcases List.mem_cons.mp hd with rfl | hd
      · decide
      · exact List.mem_singleton.mp hd ▸ code_of_simpleEscape? hletter
  | code =>
      rcases List.mem_cons.mp hd with rfl | hd
      · decide
      · rcases List.mem_cons.mp hd with rfl | hd
        · decide
        · obtain ⟨digit, hdigit⟩ := hexValue?_of_mem_hexDigits hd
          exact code_of_hexValue? hdigit

theorem body_flatMap_quotedChar (cs : List CodePoint) : Token.Body .double (cs.flatMap quotedChar) := by
  induction cs with
  | nil => exact .nil
  | cons c cs ih => exact (written_quotedChar c).body.append ih

/-- A quoted text holds no control character. -/
theorem code_of_mem_quotedChars {cs : List CodePoint} {c : CodePoint} (h : c ∈ quotedChars cs) :
    0x20 ≤ c.toNat := by
  rw [quotedChars, List.mem_append, List.mem_cons, List.mem_singleton, List.mem_flatMap] at h
  rcases h with (rfl | ⟨d, -, hc⟩) | rfl
  · decide
  · exact (written_quotedChar d).code_of_mem hc
  · decide

/-- A quoted text is a double-quoted literal. -/
theorem lexeme_quotedChars (cs : List CodePoint) : Token.Lexeme .quoted (quotedChars cs) :=
  ⟨cs.flatMap quotedChar, body_flatMap_quotedChar cs, rfl⟩

/-- Quoting escapes the double quote, the backslash and the characters below the space. -/
theorem quotedChar_ne_self_iff (c : CodePoint) :
    quotedChar c ≠ [c] ↔ c = '"' ∨ c = '\\' ∨ c.toNat < 0x20 := by
  unfold quotedChar
  split
  · rename_i hsyntax
    rw [Bool.or_eq_true, decide_eq_true_eq, decide_eq_true_eq] at hsyntax
    exact iff_of_true (by simp) (or_assoc.mp (.inl hsyntax))
  · rename_i hsyntax
    iterate 5
      split
      · rename_i h
        subst h
        exact iff_of_true (by simp) (by decide)
    split
    · rename_i hcode
      exact iff_of_true (by simp) (.inr (.inr hcode))
    · rename_i hcode
      rw [Bool.or_eq_true, decide_eq_true_eq, decide_eq_true_eq] at hsyntax
      exact iff_of_false (fun h => h rfl) fun h => (or_assoc.mpr h).elim hsyntax hcode

end Text

namespace TextLiteral

/-- A quoted text without surrogates denotes itself. -/
theorem decode_quoted {text : Text} (h : text.isScalar = true) : decode (quoted text) = .ok text := by
  have hspelled (cs : List Char) :
      List.Forall₂ Spells (cs.map .scalar) ((cs.map CodePoint.scalar).map quotedChar) := by
    induction cs with
    | nil => exact .nil
    | cons c cs ih => exact .cons (written_quotedChar c).spells ih
  obtain ⟨cs, rfl⟩ := isScalar_iff.mp h
  exact decode_of_spelled (hspelled cs)

end TextLiteral

end Playbook
