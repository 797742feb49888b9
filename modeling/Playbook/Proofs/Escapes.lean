import Mathlib.Algebra.Group.Nat.Defs
import Playbook.Proofs.Encodings
import Playbook.Proofs.Outcome
import Playbook.Proofs.Utf8
import Playbook.TextLiteral

/-! # The bodies of double-quoted literals

A body is cut into pieces: characters other than the backslash, and complete escapes. It denotes the
octets that its pieces stand for, one after another. The reader accepts exactly the bodies that can
be cut so, and it finds the octets that they denote. A surrogate is no piece: a body that comes to one
behind complete pieces cannot be encoded, whatever follows.

## Implementation notes

Pieces are said without the reader. The reader is followed through one piece at a time; the four
kinds of escapes that hold digits are followed as one, since they differ only in how they open, in
the number of their digits and in what their value stands for. -/

namespace Playbook.TextLiteral

open Text Text.Utf8

/-- The letters that may follow a backslash, and the characters that they stand for. -/
def letters : List (CodePoint × Char) :=
  [('a', '\x07'), ('b', '\x08'), ('f', '\x0C'), ('n', '\n'), ('r', '\r'), ('t', '\t'), ('v', '\x0B'),
    ('\\', '\\'), ('"', '"')]

/-- A character is a digit to a base, in either case. -/
def IsDigitOf (base d : Nat) (c : CodePoint) : Prop :=
  d < base ∧ (c = .scalar (hexDigit d) ∨ c = .scalar (hexDigit d).toUpper)

instance (base d : Nat) (c : CodePoint) : Decidable (IsDigitOf base d c) :=
  inferInstanceAs (Decidable (_ ∧ _))

/-- Digits that write a number to a base, the most significant first. -/
inductive Numeral (base : Nat) : List CodePoint → Nat → Prop
  | nil : Numeral base [] 0
  | cons {c d digits n} (hc : IsDigitOf base d c) (tail : Numeral base digits n) :
      Numeral base (c :: digits) (d * base ^ digits.length + n)

/-- The pieces of a body, and the octets that they stand for: a character, a letter, an octet in
hexadecimal or octal digits, or the code of a character in four or eight digits. -/
inductive Piece : List CodePoint → List UInt8 → Prop
  | plain {c : Char} (h : c ≠ '\\') : Piece [.scalar c] (encodeChar c)
  | letter {x : CodePoint} {c : Char} (h : (x, c) ∈ letters) : Piece ['\\', x] (encodeChar c)
  | hexOctet {digits : List CodePoint} {n : Nat} (h : Numeral 16 digits n) (hlength : digits.length = 2) :
      Piece ('\\' :: 'x' :: digits) [UInt8.ofNat n]
  | octalOctet {digits : List CodePoint} {n : Nat} (h : Numeral 8 digits n) (hlength : digits.length = 3)
      (hrange : n ≤ 0xFF) : Piece ('\\' :: digits) [UInt8.ofNat n]
  | shortCode {digits : List CodePoint} {c : Char} (h : Numeral 16 digits c.toNat)
      (hlength : digits.length = 4) : Piece ('\\' :: 'u' :: digits) (encodeChar c)
  | longCode {digits : List CodePoint} {c : Char} (h : Numeral 16 digits c.toNat)
      (hlength : digits.length = 8) : Piece ('\\' :: 'U' :: digits) (encodeChar c)

/-- A body and the octets that it denotes. -/
inductive Denotes : List CodePoint → List UInt8 → Prop
  | nil : Denotes [] []
  | piece {piece rest : List CodePoint} {done more : List UInt8} (hpiece : Piece piece done)
      (tail : Denotes rest more) : Denotes (piece ++ rest) (done ++ more)

/-- A body comes to a surrogate behind complete pieces. -/
def ComesToSurrogate (body : List CodePoint) : Prop :=
  ∃ front octets n rest, body = front ++ .surrogate n :: rest ∧ Denotes front octets

/-- The octets of two bodies that follow one another. -/
theorem Denotes.append {body more : List CodePoint} {octets others : List UInt8}
    (h : Denotes body octets) (hmore : Denotes more others) :
    Denotes (body ++ more) (octets ++ others) := by
  induction h with
  | nil => exact hmore
  | piece hpiece _ ih =>
      rw [List.append_assoc, List.append_assoc]
      exact .piece hpiece ih

theorem Numeral.append_digit {base d n : Nat} {digits : List CodePoint} {c : CodePoint}
    (h : Numeral base digits n) (hc : IsDigitOf base d c) :
    Numeral base (digits ++ [c]) (n * base + d) := by
  induction h with
  | nil => simpa using Numeral.cons hc .nil
  | @cons e f digits n he _ ih =>
      have hall := Numeral.cons he ih
      rw [List.length_append, List.length_singleton, Nat.pow_succ, ← Nat.mul_assoc, ← Nat.add_assoc,
        ← Nat.add_mul] at hall
      exact hall

/-- Written digits are a numeral of the number. -/
theorem numeral_hexDigits (width n : Nat) : Numeral 16 (hexDigits width n) (n % 16 ^ width) := by
  induction width generalizing n with
  | zero =>
      rw [Nat.pow_zero, Nat.mod_one]
      exact .nil
  | succ width ih =>
      have hall := (ih (n / 16)).append_digit ⟨Nat.mod_lt n (by decide), .inl rfl⟩
      rw [Nat.mul_comm, Nat.add_comm, ← Nat.mod_mul, Nat.mul_comm, ← Nat.pow_succ] at hall
      exact hall

/-- The digits of a numeric escape are those to its base. -/
theorem Numeric.digit?_eq_some_iff {numeric : Numeric} {c : CodePoint} {d : Nat} :
    numeric.digit? c = some d ↔ IsDigitOf numeric.base d c := by
  constructor
  · intro h
    have hascii : c.toNat < 0x80 := by
      apply Nat.lt_of_not_le
      intro hcode
      cases numeric <;>
        simp only [digit?, octalValue?, hexValue?, Option.ite_none_right_eq_some] at h <;> grind
    have key : ∀ m : Fin 0x80, ∀ d ∈ numeric.digit? (Char.ofNat m),
        IsDigitOf numeric.base d (Char.ofNat m) := by
      cases numeric <;> decide
    cases c with
    | scalar c =>
        rw [← Char.ofNat_toNat c] at h ⊢
        exact key ⟨c.toNat, hascii⟩ d h
    | surrogate n => simp only [CodePoint.toNat] at hascii; omega
  · rintro ⟨hd, hc⟩
    have key : ∀ m : Fin numeric.base, numeric.digit? (hexDigit m) = some m.val ∧
        numeric.digit? (hexDigit m).toUpper = some m.val := by
      cases numeric <;> decide
    rcases hc with rfl | rfl
    · exact (key ⟨d, hd⟩).1
    · exact (key ⟨d, hd⟩).2

/-- A letter stands for the octet of its character. -/
theorem simpleEscape?_eq_some_iff {x : CodePoint} {octet : UInt8} :
    simpleEscape? x = some octet ↔ ∃ c, (x, c) ∈ letters ∧ encodeChar c = [octet] := by
  constructor
  · intro h
    have hpair : ∃ pair ∈ letters, pair.1 = x ∧ encodeChar pair.2 = [octet] := by
      rw [simpleEscape?] at h
      iterate 9
        split at h
        · rename_i hx
          obtain rfl := Option.some.inj h
          subst hx
          decide
      cases h
    obtain ⟨⟨y, c⟩, hmem, rfl, hoctet⟩ := hpair
    exact ⟨c, hmem, hoctet⟩
  · rintro ⟨c, hc, hoctet⟩
    have key : ∀ pair ∈ letters,
        (simpleEscape? pair.1).map ([·]) = some (encodeChar pair.2) := by
      decide
    have hsome := key _ hc
    rw [hoctet] at hsome
    simpa using hsome

theorem octalValue?_eq_some_iff {c : CodePoint} {d : Nat} :
    octalValue? c = some d ↔ IsDigitOf 8 d c :=
  @Numeric.digit?_eq_some_iff .octal c d

/-- An octal digit after the backslash opens an escape. -/
theorem openEscape_octal {c : CodePoint} {d : Nat} (h : IsDigitOf 8 d c) :
    openEscape c = .ok ([], .digits .octal 2 d) := by
  have hvalue := octalValue?_eq_some_iff.mpr h
  have key : ∀ m : Fin 8, ∀ c ∈ [CodePoint.scalar (hexDigit m), .scalar (hexDigit m).toUpper],
      simpleEscape? c = none ∧ c ≠ 'x' ∧ c ≠ 'u' ∧ c ≠ 'U' := by
    decide
  obtain ⟨hd, hc⟩ := h
  obtain ⟨hsimple, hx, hu, hU⟩ := key ⟨d, hd⟩ c (by simpa using hc)
  simp only [openEscape, hsimple, hvalue, if_neg hx, if_neg hu, if_neg hU]

/-- How a numeric escape opens after its backslash, and the number of its digits. -/
inductive Opens : Numeric → List CodePoint → Nat → Prop
  | octal : Opens .octal [] 3
  | hexOctet : Opens .hexOctet [.scalar 'x'] 2
  | shortCode : Opens .codePoint [.scalar 'u'] 4
  | longCode : Opens .codePoint [.scalar 'U'] 8

/-- A numeric escape is a piece if its value is in range. -/
theorem Piece.numeric {numeric : Numeric} {mark digits : List CodePoint} {width n : Nat}
    {done : List UInt8} (hopens : Opens numeric mark width)
    (hdigits : Numeral numeric.base digits n) (hlength : digits.length = width)
    (hdone : numeric.octets n = .ok done) : Piece ('\\' :: (mark ++ digits)) done := by
  have hcode (h : Numeric.codePoint.octets n = .ok done) :
      ∃ c : Char, c.toNat = n ∧ encodeChar c = done := by
    rw [Numeric.octets] at h
    split at h
    · rename_i hvalid
      refine ⟨Char.ofNat n, ?_, Except.ok.inj h⟩
      rw [Char.ofNat, dif_pos hvalid]
      rfl
    · cases h
  cases hopens with
  | octal =>
      rw [Numeric.octets] at hdone
      · split at hdone
        · rename_i hrange
          obtain rfl := Except.ok.inj hdone
          exact .octalOctet hdigits hlength hrange
        · cases hdone
      · simp
  | hexOctet =>
      rw [Numeric.octets] at hdone
      · split at hdone
        · obtain rfl := Except.ok.inj hdone
          exact .hexOctet hdigits hlength
        · cases hdone
      · simp
  | shortCode =>
      obtain ⟨c, rfl, rfl⟩ := hcode hdone
      exact .shortCode hdigits hlength
  | longCode =>
      obtain ⟨c, rfl, rfl⟩ := hcode hdone
      exact .longCode hdigits hlength

section Reading

variable {plain : Nat}

theorem octetsFrom_cons {state next : Escape} {c : CodePoint} {done : List UInt8}
    (h : ∀ fault, feed fault state c = .ok (done, next)) (cs : List CodePoint) :
    octetsFrom state plain (c :: cs) =
      (octetsFrom next (state.count plain) cs).map (done ++ ·) := by
  rw [octetsFrom, h]
  exact bind_ok_eq_map _ _

/-- A backslash opens an escape. -/
theorem octetsFrom_backslash (cs : List CodePoint) :
    octetsFrom .outside plain ('\\' :: cs) = octetsFrom .opened (plain + 1) cs := by
  have hfeed (fault : Fin 0x800 → EncodingFault) : feed fault .outside '\\' = .ok ([], .opened) := rfl
  rw [octetsFrom_cons hfeed]
  exact map_id' _

/-- A digit is added to the value of an escape, or completes it. -/
theorem feed_digit {numeric : Numeric} {c : CodePoint} {d : Nat} (hc : IsDigitOf numeric.base d c)
    (owed value : Nat) (fault : Fin 0x800 → EncodingFault) :
    feed fault (.digits numeric owed value) c =
      if owed ≤ 1 then (numeric.octets (value * numeric.base + d)).map (·, .outside)
      else .ok ([], .digits numeric (owed - 1) (value * numeric.base + d)) := by
  have hdigit := Numeric.digit?_eq_some_iff.mpr hc
  simp only [feed, hdigit]

/-- The first digit of an octal escape leaves two to come, as when it opens the escape. -/
theorem feed_octal {c : CodePoint} {d : Nat} (hc : IsDigitOf 8 d c)
    (fault : Fin 0x800 → EncodingFault) :
    feed fault (.digits .octal 3 0) c = .ok ([], .digits .octal 2 d) := by
  have hdigit := @feed_digit .octal c d hc 3 0 fault
  rwa [if_neg (by decide), Nat.zero_mul, Nat.zero_add] at hdigit

/-- The digits of an escape make up its value. -/
theorem octetsFrom_numeral {numeric : Numeric} {digits : List CodePoint} {n : Nat}
    (h : Numeral numeric.base digits n) (hne : digits ≠ []) (value : Nat) (rest : List CodePoint) :
    octetsFrom (.digits numeric digits.length value) plain (digits ++ rest) =
      (numeric.octets (value * numeric.base ^ digits.length + n) >>= fun done =>
        (octetsFrom .outside 0 rest).map (done ++ ·)) := by
  induction h generalizing value plain with
  | nil => exact absurd rfl hne
  | @cons c d digits n hc tail ih =>
      have hvalue :
          value * numeric.base ^ (digits.length + 1) + (d * numeric.base ^ digits.length + n) =
            (value * numeric.base + d) * numeric.base ^ digits.length + n := by
        rw [Nat.pow_succ, Nat.add_mul, Nat.mul_assoc, Nat.mul_comm numeric.base, Nat.add_assoc]
      have hfeed := feed_digit hc (digits.length + 1) value
      rw [List.length_cons, List.cons_append, hvalue]
      cases digits with
      | nil =>
          cases tail
          rw [List.length_nil] at hfeed ⊢
          rw [octetsFrom, hfeed, if_pos (Nat.le_refl 1), List.nil_append, Nat.pow_zero, Nat.mul_one,
            Nat.add_zero]
          cases numeric.octets (value * numeric.base + d) with
          | error cause => rfl
          | ok done => exact bind_ok_eq_map _ _
      | cons e digits =>
          rw [if_neg (by simp), Nat.add_sub_cancel] at hfeed
          rw [octetsFrom_cons hfeed, ih (by simp)]
          exact map_id' _

/-- An escape by digits is read up to its first digit. -/
theorem octetsFrom_opens {numeric : Numeric} {mark digits : List CodePoint} {width n : Nat}
    (hopens : Opens numeric mark width) (hdigits : Numeral numeric.base digits n)
    (hlength : digits.length = width) (rest : List CodePoint) :
    octetsFrom .opened plain (mark ++ (digits ++ rest)) =
      octetsFrom (.digits numeric width 0) 0 (digits ++ rest) := by
  have hmark {c : CodePoint} {next : Escape} (h : openEscape c = .ok ([], next))
      (cs : List CodePoint) : octetsFrom .opened plain (c :: cs) = octetsFrom next 0 cs := by
    have hfeed (fault : Fin 0x800 → EncodingFault) : feed fault .opened c = .ok ([], next) := h
    rw [octetsFrom_cons hfeed]
    exact map_id' _
  cases hopens with
  | octal =>
      cases hdigits with
      | nil => cases hlength
      | @cons c d digits n hc tail =>
          -- The first octal digit opens its escape, so it is read in another state than the others.
          rw [List.nil_append, List.cons_append, hmark (openEscape_octal hc),
            octetsFrom_cons (feed_octal hc)]
          exact (map_id' _).symm
  | hexOctet => exact hmark rfl _
  | shortCode => exact hmark rfl _
  | longCode => exact hmark rfl _

/-- An escape by digits whose value is in range is read as a whole. -/
theorem octetsFrom_numeric {numeric : Numeric} {mark digits : List CodePoint} {width n : Nat}
    {done : List UInt8} (hopens : Opens numeric mark width)
    (hdigits : Numeral numeric.base digits n) (hlength : digits.length = width)
    (hdone : numeric.octets n = .ok done) (rest : List CodePoint) :
    octetsFrom .outside plain (.scalar '\\' :: (mark ++ digits) ++ rest) =
      (octetsFrom .outside 0 rest).map (done ++ ·) := by
  have hne : digits ≠ [] := by
    rintro rfl
    cases hopens <;> cases hlength
  have hall : octetsFrom (.digits numeric digits.length 0) 0 (digits ++ rest) = _ :=
    octetsFrom_numeral hdigits hne 0 rest
  rw [Nat.zero_mul, Nat.zero_add, hdone, ok_bind, hlength] at hall
  rw [List.cons_append, octetsFrom_backslash, List.append_assoc,
    octetsFrom_opens hopens hdigits hlength, hall]

theorem octets_of_isOctet {numeric : Numeric} (h : numeric ≠ .codePoint) {n : Nat} (hn : n ≤ 0xFF) :
    numeric.octets n = .ok [UInt8.ofNat n] := by
  cases numeric with
  | codePoint => exact absurd rfl h
  | octal | hexOctet => exact if_pos hn

theorem octets_of_isCode (c : Char) : Numeric.codePoint.octets c.toNat = .ok (encodeChar c) := by
  have hvalid : c.toNat.isValidChar := c.valid
  rw [Numeric.octets, if_pos hvalid, Char.ofNat_toNat]

/-- Digits bound the number that they write. -/
theorem Numeral.lt_pow {base n : Nat} {digits : List CodePoint} (h : Numeral base digits n) :
    n < base ^ digits.length := by
  induction h with
  | nil => exact Nat.one_pos
  | @cons c d digits n hc _ ih =>
      calc
        d * base ^ digits.length + n < d * base ^ digits.length + base ^ digits.length :=
          Nat.add_lt_add_left ih _
        _ = (d + 1) * base ^ digits.length := (Nat.succ_mul ..).symm
        _ ≤ base * base ^ digits.length := Nat.mul_le_mul_right _ hc.1
        _ = base ^ (digits.length + 1) := by rw [Nat.pow_succ, Nat.mul_comm]

/-- A piece is read as a whole, whatever follows it. -/
theorem Piece.octetsFrom_eq {piece : List CodePoint} {done : List UInt8} (h : Piece piece done)
    (plain : Nat) :
    ∃ next, ∀ rest, octetsFrom .outside plain (piece ++ rest) =
      (octetsFrom .outside next rest).map (done ++ ·) := by
  cases h with
  | @plain c hc =>
      have hfeed (fault : Fin 0x800 → EncodingFault) :
          feed fault .outside (.scalar c) = .ok (encodeChar c, .outside) :=
        if_neg hc
      exact ⟨_, octetsFrom_cons hfeed⟩
  | @letter x c hx =>
      have key : ∀ pair ∈ letters, encodeChar pair.2 = [UInt8.ofNat pair.2.toNat] := by decide
      have hoctet := key _ hx
      have hsimple := simpleEscape?_eq_some_iff.mpr ⟨c, hx, hoctet⟩
      have hfeed (fault : Fin 0x800 → EncodingFault) :
          feed fault .opened x = .ok ([UInt8.ofNat c.toNat], .outside) := by
        simp only [feed, openEscape, hsimple]
      refine ⟨0, fun rest => ?_⟩
      rw [List.cons_append, octetsFrom_backslash, List.cons_append, List.nil_append,
        octetsFrom_cons hfeed, hoctet]
      rfl
  | hexOctet hdigits hlength =>
      have hlt := hdigits.lt_pow
      rw [hlength] at hlt
      exact ⟨_, octetsFrom_numeric .hexOctet hdigits hlength
        (octets_of_isOctet (by decide) (Nat.le_of_lt_succ hlt))⟩
  | octalOctet hdigits hlength hrange =>
      exact ⟨_, octetsFrom_numeric .octal hdigits hlength (octets_of_isOctet (by decide) hrange)⟩
  | shortCode hdigits hlength =>
      exact ⟨_, octetsFrom_numeric .shortCode hdigits hlength (octets_of_isCode _)⟩
  | longCode hdigits hlength =>
      exact ⟨_, octetsFrom_numeric .longCode hdigits hlength (octets_of_isCode _)⟩

/-- A body that can be cut into pieces is read to its octets, whatever follows it. -/
theorem Denotes.octetsFrom_eq {body : List CodePoint} {octets : List UInt8} (h : Denotes body octets)
    (plain : Nat) :
    ∃ next, ∀ rest, octetsFrom .outside plain (body ++ rest) =
      (octetsFrom .outside next rest).map (octets ++ ·) := by
  induction h generalizing plain with
  | nil => exact ⟨plain, fun rest => (map_id' _).symm⟩
  | piece hpiece _ ih =>
      obtain ⟨middle, hfirst⟩ := hpiece.octetsFrom_eq plain
      obtain ⟨next, hrest⟩ := ih middle
      refine ⟨next, fun rest => ?_⟩
      rw [List.append_assoc, hfirst, hrest, map_map]
      simp only [List.append_assoc]

/-- A result tells of no fault in an escape: it is a success, or the fault of a surrogate. -/
def Sound {α : Type} (result : Except Cause α) : Prop :=
  ∀ cause, result = .error cause → ∃ fault, cause = .unencodable fault

theorem Sound.of_map {α β : Type} {result : Except Cause α} {f : α → β} (h : Sound (result.map f)) :
    Sound result := by
  rintro cause rfl
  exact h cause rfl

theorem sound_ok {α : Type} (a : α) : Sound (.ok a : Except Cause α) := by
  intro cause h
  cases h

theorem sound_unencodable {α : Type} (fault : EncodingFault) :
    Sound (.error (.unencodable fault) : Except Cause α) := by
  intro cause h
  exact ⟨fault, (Except.error.inj h).symm⟩

theorem not_sound_unknownEscape {α : Type} : ¬ Sound (.error .unknownEscape : Except Cause α) := by
  intro h
  obtain ⟨fault, hfault⟩ := h _ rfl
  cases hfault

/-- The value of an escape that is no fault is in range. -/
theorem Numeric.octets_of_sound {α : Type} {numeric : Numeric} {n : Nat}
    {f : List UInt8 → Except Cause α} (h : Sound (numeric.octets n >>= f)) :
    ∃ done, numeric.octets n = .ok done := by
  cases hoctets : numeric.octets n with
  | ok done => exact ⟨done, rfl⟩
  | error cause =>
      rw [hoctets] at h
      obtain ⟨fault, rfl⟩ := h cause rfl
      cases numeric <;> simp only [octets] at hoctets <;> split at hoctets <;> cases hoctets

/-- An escape that holds digits is completed by them. -/
theorem exists_numeral {numeric : Numeric} {owed value : Nat} {cs : List CodePoint}
    (howed : 0 < owed) (h : Sound (octetsFrom (.digits numeric owed value) plain cs)) :
    ∃ digits n rest, cs = digits ++ rest ∧ Numeral numeric.base digits n ∧ digits.length = owed := by
  induction cs generalizing owed value plain with
  | nil => exact absurd h not_sound_unknownEscape
  | cons c cs ih =>
      cases hdigit : numeric.digit? c with
      | none =>
          rw [octetsFrom] at h
          simp only [feed, hdigit, error_bind] at h
          exact absurd h not_sound_unknownEscape
      | some d =>
          have hc := Numeric.digit?_eq_some_iff.mp hdigit
          obtain ⟨owed, rfl⟩ : ∃ k, owed = k + 1 := ⟨owed - 1, by omega⟩
          cases owed with
          | zero => exact ⟨[c], _, cs, rfl, .cons hc .nil, rfl⟩
          | succ owed =>
              have hfeed := feed_digit hc (owed + 1 + 1) value
              rw [if_neg (by omega), Nat.add_sub_cancel] at hfeed
              rw [octetsFrom_cons hfeed] at h
              obtain ⟨digits, n, rest, rfl, hdigits, hlength⟩ := ih (by omega) h.of_map
              exact ⟨c :: digits, _, rest, rfl, .cons hc hdigits, by rw [List.length_cons, hlength]⟩

/-- What follows a backslash is a letter, or the mark of an escape by digits. -/
theorem opened_cases {cs : List CodePoint} (h : Sound (octetsFrom .opened plain cs)) :
    (∃ x c rest, cs = x :: rest ∧ (x, c) ∈ letters) ∨
      ∃ numeric mark width rest, Opens numeric mark width ∧ cs = mark ++ rest ∧
        Sound (octetsFrom (.digits numeric width 0) 0 rest) := by
  cases cs with
  | nil => exact absurd h not_sound_unknownEscape
  | cons x cs =>
      cases hsimple : simpleEscape? x with
      | some octet =>
          obtain ⟨c, hmem, -⟩ := simpleEscape?_eq_some_iff.mp hsimple
          exact .inl ⟨x, c, cs, rfl, hmem⟩
      | none =>
          right
          have hopen (fault : Fin 0x800 → EncodingFault) : feed fault .opened x = openEscape x := rfl
          simp only [openEscape, hsimple] at hopen
          split at hopen
          · rename_i hx
            subst hx
            rw [octetsFrom_cons hopen] at h
            exact ⟨_, _, _, cs, .hexOctet, rfl, h.of_map⟩
          split at hopen
          · rename_i hu
            subst hu
            rw [octetsFrom_cons hopen] at h
            exact ⟨_, _, _, cs, .shortCode, rfl, h.of_map⟩
          split at hopen
          · rename_i hU
            subst hU
            rw [octetsFrom_cons hopen] at h
            exact ⟨_, _, _, cs, .longCode, rfl, h.of_map⟩
          split at hopen
          · rename_i d hd
            have hdigit := feed_octal (octalValue?_eq_some_iff.mp hd)
            refine ⟨_, _, _, x :: cs, .octal, rfl, ?_⟩
            rw [octetsFrom_cons hopen] at h
            rw [octetsFrom_cons hdigit]
            exact h
          · rw [octetsFrom, hopen] at h
            exact absurd h not_sound_unknownEscape

/-- A body without fault in its escapes begins with a piece or with a surrogate. -/
theorem exists_piece {c : CodePoint} {cs : List CodePoint}
    (h : Sound (octetsFrom .outside plain (c :: cs))) :
    (∃ piece done rest, c :: cs = piece ++ rest ∧ Piece piece done) ∨ ∃ n, c = .surrogate n := by
  cases c with
  | surrogate n => exact .inr ⟨n, rfl⟩
  | scalar c =>
      by_cases hc : c = '\\'
      · subst hc
        rw [octetsFrom_backslash] at h
        rcases opened_cases h with
          ⟨x, d, rest, rfl, hx⟩ | ⟨numeric, mark, width, rest, hopens, rfl, hrest⟩
        · exact .inl ⟨_, _, rest, rfl, .letter hx⟩
        · have hwidth : 0 < width := by cases hopens <;> decide
          obtain ⟨digits, n, rest, rfl, hdigits, hlength⟩ := exists_numeral hwidth hrest
          have hne : digits ≠ [] := by
            rintro rfl
            exact Nat.ne_of_lt hwidth hlength
          rw [← hlength, octetsFrom_numeral hdigits hne, Nat.zero_mul, Nat.zero_add] at hrest
          obtain ⟨done, hdone⟩ := Numeric.octets_of_sound hrest
          exact .inl ⟨_, done, rest, by simp, .numeric hopens hdigits hlength hdone⟩
      · exact .inl ⟨[.scalar c], _, cs, rfl, .plain hc⟩

theorem Piece.ne_nil {piece : List CodePoint} {done : List UInt8} (h : Piece piece done) : piece ≠ [] := by
  cases h <;> simp

/-- A body without fault in its escapes can be cut into pieces, at least up to a surrogate. -/
theorem denotes_or_comesToSurrogate {body : List CodePoint}
    (h : Sound (octetsFrom .outside plain body)) :
    (∃ octets, Denotes body octets) ∨ ComesToSurrogate body := by
  induction hlength : body.length using Nat.strongRecOn generalizing body plain with
  | ind n ih =>
    cases body with
    | nil => exact .inl ⟨[], .nil⟩
    | cons c cs =>
      rcases exists_piece h with ⟨piece, done, rest, hbody, hpiece⟩ | ⟨n, rfl⟩
      · have hpos := List.length_pos_iff.mpr hpiece.ne_nil
        rw [hbody, List.length_append] at hlength
        obtain ⟨next, hread⟩ := hpiece.octetsFrom_eq plain
        rw [hbody, hread] at h
        rw [hbody]
        rcases ih rest.length (by omega) h.of_map rfl with
          ⟨octets, hrest⟩ | ⟨front, octets, n, back, rfl, hfront⟩
        · exact .inl ⟨_, .piece hpiece hrest⟩
        · exact .inr ⟨piece ++ front, _, n, back, (List.append_assoc ..).symm, .piece hpiece hfront⟩
      · exact .inr ⟨[], [], n, cs, rfl, .nil⟩

end Reading

theorem octets_of_denotes {body : List CodePoint} {octets : List UInt8} (h : Denotes body octets) :
    TextLiteral.octets body = .ok octets := by
  obtain ⟨next, hread⟩ := h.octetsFrom_eq 0
  have hbody := hread []
  rwa [List.append_nil, octetsFrom, if_pos rfl, map_ok, List.append_nil] at hbody

theorem octets_of_comesToSurrogate {body : List CodePoint} (h : ComesToSurrogate body) :
    ∃ fault, TextLiteral.octets body = .error (.unencodable fault) := by
  obtain ⟨front, octets, n, rest, rfl, hfront⟩ := h
  obtain ⟨next, hread⟩ := hfront.octetsFrom_eq 0
  exact ⟨_, hread _⟩

/-- The reader accepts exactly the bodies that can be cut into pieces, and finds their octets. -/
theorem octets_eq_ok_iff {body : List CodePoint} {octets : List UInt8} :
    TextLiteral.octets body = .ok octets ↔ Denotes body octets := by
  refine ⟨fun h => ?_, octets_of_denotes⟩
  have hsound : Sound (TextLiteral.octets body) := h ▸ sound_ok octets
  rcases denotes_or_comesToSurrogate hsound with ⟨others, hdenotes⟩ | hsurrogate
  · obtain rfl := Except.ok.inj (h.symm.trans (octets_of_denotes hdenotes))
    exact hdenotes
  · obtain ⟨fault, hfault⟩ := octets_of_comesToSurrogate hsurrogate
    cases h.symm.trans hfault

/-- The reader cannot encode exactly the bodies that come to a surrogate. -/
theorem octets_eq_unencodable_iff {body : List CodePoint} :
    (∃ fault, TextLiteral.octets body = .error (.unencodable fault)) ↔ ComesToSurrogate body := by
  refine ⟨fun ⟨fault, h⟩ => ?_, octets_of_comesToSurrogate⟩
  have hsound : Sound (TextLiteral.octets body) := h ▸ sound_unencodable fault
  rcases denotes_or_comesToSurrogate hsound with ⟨octets, hdenotes⟩ | hsurrogate
  · cases h.symm.trans (octets_of_denotes hdenotes)
  · exact hsurrogate

/-- A body between double quotes. -/
def enclosed (body : List CodePoint) : Text := Text.ofList ('"' :: (body ++ [.scalar '"']))

@[simp] theorem enclosed_toList (body : List CodePoint) :
    (enclosed body).toList = .scalar '"' :: (body ++ [.scalar '"']) :=
  Text.toList_ofList

theorem inside?_enclosed (mark : CodePoint) (body : List CodePoint) :
    inside? mark (mark :: (body ++ [mark])) = some body := by
  cases body with
  | nil => simp [inside?]
  | cons c cs =>
      have hlast : (c :: cs ++ [mark]).getLast? = some mark := List.getLast?_concat
      have hbody : (c :: cs ++ [mark]).dropLast = c :: cs := List.dropLast_concat
      simp only [List.cons_append] at hlast hbody ⊢
      simp [inside?, hlast, hbody]

/-- What stands between double quotes denotes what its octets are decoded to. -/
theorem decode_enclosed (body : List CodePoint) :
    decode (enclosed body) =
      match TextLiteral.octets body with
      | .ok octets => .ok (Text.ofList (Utf8.decode replace octets))
      | .error cause => .error ⟨cause, enclosed body⟩ := by
  have hback : inside? '\x60' ('"' :: (body ++ [.scalar '"'])) = none := by
    cases body <;> rfl
  simp only [decode, enclosed_toList, value, hback, inside?_enclosed]
  cases TextLiteral.octets body <;> rfl

/-- A literal in double quotes is refused for something else than its form exactly if its body comes to
a surrogate. -/
theorem refused_unencoded_iff {body : List CodePoint} :
    (∃ fault, decode (enclosed body) = .error fault ∧ fault.isSyntax = false) ↔
      ComesToSurrogate body := by
  rw [← octets_eq_unencodable_iff, decode_enclosed]
  cases TextLiteral.octets body with
  | ok octets => simp
  | error cause => cases cause <;> simp [Fault.isSyntax]

theorem inside?_subset {mark : CodePoint} {cs body : List CodePoint} (h : inside? mark cs = some body) :
    body ⊆ cs := by
  unfold inside? at h
  split at h
  · split at h
    · obtain rfl := Option.some.inj h
      exact fun c hc => List.mem_cons_of_mem _ (List.dropLast_subset _ hc)
    · cases h
  · cases h

/-- A text without surrogates that denotes nothing is refused for its form. -/
theorem isSyntax_of_decode {literal : Text} {fault : Fault} (h : decode literal = .error fault)
    (hscalar : literal.isScalar = true) : fault.isSyntax = true := by
  simp only [decode] at h
  split at h
  · cases h
  · rename_i cause hvalue
    obtain rfl := Except.error.inj h
    cases cause with
    | notQuoted | octalRange | codePoint | unknownEscape => rfl
    | unencodable fault =>
        unfold value at hvalue
        split at hvalue
        · cases hvalue
        split at hvalue
        · rename_i body hbody
          cases hoctets : octets body with
          | ok octets =>
              rw [hoctets] at hvalue
              cases hvalue
          | error cause =>
              rw [hoctets] at hvalue
              obtain rfl := Except.error.inj hvalue
              obtain ⟨front, _, n, rest, rfl, -⟩ := octets_eq_unencodable_iff.mp ⟨fault, hoctets⟩
              have hmem := inside?_subset hbody (a := .surrogate n) (by simp)
              cases List.all_eq_true.mp hscalar _ hmem
        · cases hvalue

end Playbook.TextLiteral
