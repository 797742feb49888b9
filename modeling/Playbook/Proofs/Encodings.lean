import Playbook.Proofs.Outcome
import Playbook.Text.Encoding

/-! # Texts that can be encoded

A text without surrogates is encoded character by character, whatever a coder does about surrogates, and
a strict coder encodes no other text. -/

namespace Playbook

open Text

namespace Text

/-- Decide whether a text holds no surrogate. -/
def isScalar (text : Text) : Bool := text.toList.all CodePoint.isScalar

variable {text : Text} {handler : ErrorHandler} {content : List UInt8}

theorem exists_chars {cs : List CodePoint} (h : cs.all CodePoint.isScalar = true) :
    ∃ ds : List Char, cs = ds.map .scalar := by
  induction cs with
  | nil => exact ⟨[], rfl⟩
  | cons c cs ih =>
      rw [List.all_cons, Bool.and_eq_true] at h
      obtain ⟨ds, rfl⟩ := ih h.2
      cases c with
      | scalar d => exact ⟨d :: ds, rfl⟩
      | surrogate n => cases h.1

/-- A text without surrogates consists of characters. -/
theorem isScalar_iff : text.isScalar = true ↔ ∃ cs : List Char, text = ofList (cs.map .scalar) := by
  constructor
  · intro h
    obtain ⟨cs, hcs⟩ := exists_chars h
    exact ⟨cs, toList_inj.mp hcs⟩
  · rintro ⟨cs, rfl⟩
    simp [isScalar, CodePoint.isScalar]

theorem encodeFrom_map_scalar (position : Nat) (cs : List Char) :
    encodeFrom handler position (cs.map .scalar) = .ok (cs.flatMap Utf8.encodeChar) := by
  induction cs generalizing position with
  | nil => rfl
  | cons c cs ih => rw [List.map_cons, encodeFrom, ih, map_ok, List.flatMap_cons]

/-- Characters are encoded one after another. -/
theorem encode_chars (cs : List Char) :
    (ofList (cs.map .scalar)).encode handler = .ok (cs.flatMap Utf8.encodeChar) :=
  encodeFrom_map_scalar 0 cs

theorem exists_map_iff {ε α β : Type} {f : α → β} {x : Except ε α} :
    (∃ b, x.map f = .ok b) ↔ ∃ a, x = .ok a := by
  cases x <;> simp

theorem exists_encodeFrom_iff {position : Nat} {cs : List CodePoint} :
    (∃ content, encodeFrom handler position cs = .ok content) ↔
      ∀ n, .surrogate n ∈ cs → (handler.octet? n).isSome = true := by
  induction cs generalizing position with
  | nil => simp [encodeFrom]
  | cons c cs ih =>
      cases c with
      | scalar c => simp [encodeFrom, exists_map_iff, ih]
      | surrogate n => cases hoctet : handler.octet? n <;> simp [encodeFrom, exists_map_iff, ih, hoctet]

/-- A text can be encoded if a coder lets its surrogates pass. -/
theorem exists_encode_iff : (∃ content, text.encode handler = .ok content) ↔
    ∀ n, .surrogate n ∈ text.toList → (handler.octet? n).isSome = true :=
  exists_encodeFrom_iff

/-- A strict coder encodes exactly the texts without surrogates. -/
theorem exists_encode_strict_iff :
    (∃ content, text.encode .strict = .ok content) ↔ text.isScalar = true := by
  rw [exists_encode_iff, isScalar, List.all_eq_true]
  constructor
  · intro h c hc
    cases c with
    | scalar c => rfl
    | surrogate n => cases h n hc
  · intro h n hn
    cases h _ hn

/-- What a strict coder makes of a text are the octets of its characters. -/
theorem encode_strict_eq_ok_iff :
    text.encode .strict = .ok content ↔
      ∃ cs : List Char, text = ofList (cs.map .scalar) ∧ cs.flatMap Utf8.encodeChar = content := by
  constructor
  · intro h
    obtain ⟨cs, rfl⟩ := isScalar_iff.mp (exists_encode_strict_iff.mp ⟨content, h⟩)
    exact ⟨cs, rfl, Except.ok.inj ((encode_chars cs).symm.trans h)⟩
  · rintro ⟨cs, rfl, rfl⟩
    exact encode_chars cs

/-- The fault that a strict coder refuses a text with, if it does. -/
def encodingFault? (text : Text) : Option EncodingFault :=
  match text.encode .strict with
  | .ok _ => none
  | .error fault => some fault

theorem encodingFault?_eq_none_iff : text.encodingFault? = none ↔ text.isScalar = true := by
  rw [← exists_encode_strict_iff, encodingFault?]
  cases text.encode .strict <;> simp

/-- The octets that a text leaves in a file that it is written to: its own, or none if it cannot be
encoded. -/
def octets (text : Text) : List UInt8 := (text.encode .strict).toOption.getD []

theorem octets_chars (cs : List Char) :
    (ofList (cs.map .scalar)).octets = cs.flatMap Utf8.encodeChar := by
  rw [octets, encode_chars]
  rfl

theorem octets_of_not_isScalar (h : text.isScalar = false) : text.octets = [] := by
  rw [octets]
  cases hencode : text.encode .strict with
  | error => rfl
  | ok => simp [exists_encode_strict_iff.mp ⟨_, hencode⟩] at h

theorem encode_eq_octets (h : text.isScalar = true) : text.encode handler = .ok text.octets := by
  obtain ⟨cs, rfl⟩ := isScalar_iff.mp h
  rw [encode_chars, octets_chars]

end Text

end Playbook
