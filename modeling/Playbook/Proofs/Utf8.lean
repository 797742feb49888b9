import Playbook.Text.Utf8

/-! # What is written as UTF-8 is read back

The decoder takes the octets of a character from its first state through the states of its octets
to the character, whatever comes after them.

## Implementation notes

The octets of a character are its code in base 64, most significant digit first. An octet that goes
on adds one digit, so only the first octet has to be followed case by case. Which octets complete a
character is laid down apart from the readings, since the lenient and the strict one share that. -/

namespace Playbook.Text.Utf8

/-- The octet of a digit in base 64. -/
def tail (m : Nat) : UInt8 := UInt8.ofNat (m % 0x40 + 0x80)

theorem tail_toNat (m : Nat) : (tail m).toNat = m % 0x40 + 0x80 := by
  rw [tail, UInt8.toNat_ofNat']
  omega

/-- What a character in progress becomes with one digit more. -/
theorem Pending.extend_tail {p : Pending} {m : Nat} (hlow : p.low.toNat ≤ m % 0x40 + 0x80)
    (hhigh : m % 0x40 + 0x80 ≤ p.high.toNat) :
    p.extend (tail m) =
      if p.owed ≤ 1 then .char (Char.ofNat (p.value * 0x40 + m % 0x40))
      else .pending ⟨p.taken ++ [tail m], p.value * 0x40 + m % 0x40, p.owed - 1, 0x80, 0xBF⟩ := by
  have hbounds : (p.low ≤ tail m && tail m ≤ p.high) = true := by
    simp only [Bool.and_eq_true, decide_eq_true_eq, UInt8.le_iff_toNat_le, tail_toNat]
    exact ⟨hlow, hhigh⟩
  simp only [extend, hbounds, if_true, tail_toNat, Nat.add_sub_cancel]

/-- Octets that complete a character in progress. -/
inductive Pending.Completes (c : Char) : Pending → List UInt8 → Prop
  | last {p : Pending} {b : UInt8} (h : p.extend b = .char c) : Completes c p [b]
  | next {p q : Pending} {b : UInt8} {bs : List UInt8} (h : p.extend b = .pending q)
      (tail : Completes c q bs) : Completes c p (b :: bs)

/-- A digit that is not the last leaves the character in progress. -/
theorem Pending.Completes.digit {c : Char} {p : Pending} {m : Nat} {bs : List UInt8}
    (howed : 1 < p.owed) (hlow : p.low.toNat ≤ m % 0x40 + 0x80)
    (hhigh : m % 0x40 + 0x80 ≤ p.high.toNat)
    (htail : Completes c
      ⟨p.taken ++ [tail m], p.value * 0x40 + m % 0x40, p.owed - 1, 0x80, 0xBF⟩ bs) :
    Completes c p (tail m :: bs) := by
  have hextend := extend_tail hlow hhigh
  rw [if_neg (by omega)] at hextend
  exact .next hextend htail

/-- The last digit completes the character. -/
theorem Pending.Completes.lastDigit {c : Char} {p : Pending} {m : Nat} (howed : p.owed ≤ 1)
    (hlow : p.low.toNat ≤ m % 0x40 + 0x80) (hhigh : m % 0x40 + 0x80 ≤ p.high.toNat)
    (hcode : Char.ofNat (p.value * 0x40 + m % 0x40) = c) : Completes c p [tail m] := by
  have hextend := extend_tail hlow hhigh
  rw [if_pos howed, hcode] at hextend
  exact .last hextend

theorem start_ascii {n : Nat} (h : n < 0x80) : start (UInt8.ofNat n) = .char (Char.ofNat n) := by
  have hn : (UInt8.ofNat n).toNat = n := by
    rw [UInt8.toNat_ofNat']
    omega
  simp only [start, hn, if_pos h]

theorem start_two {n : Nat} (hlow : 0x80 ≤ n) (hhigh : n < 0x800) :
    ∃ b, start (UInt8.ofNat (n / 64 % 0x20 + 0xC0)) = .pending ⟨[b], n / 64, 1, 0x80, 0xBF⟩ := by
  have hn : (UInt8.ofNat (n / 64 % 0x20 + 0xC0)).toNat = n / 64 + 0xC0 := by
    rw [UInt8.toNat_ofNat']
    omega
  refine ⟨UInt8.ofNat (n / 64 % 0x20 + 0xC0), ?_⟩
  simp only [start, hn, Nat.add_sub_cancel]
  rw [if_neg (by omega), if_neg (by omega), if_pos (by omega)]

/-- The first of three octets. Its bounds let the second octet of the character pass. -/
theorem start_three {n : Nat} (hlow : 0x800 ≤ n) (hhigh : n < 0x10000) (hvalid : n.isValidChar) :
    ∃ b low high, start (UInt8.ofNat (n / 4096 % 0x10 + 0xE0)) =
        .pending ⟨[b], n / 4096, 2, low, high⟩ ∧
      low.toNat ≤ n / 64 % 0x40 + 0x80 ∧ n / 64 % 0x40 + 0x80 ≤ high.toNat := by
  have hn : (UInt8.ofNat (n / 4096 % 0x10 + 0xE0)).toNat = n / 4096 + 0xE0 := by
    rw [UInt8.toNat_ofNat']
    omega
  simp only [start, hn]
  rw [if_neg (by omega), if_neg (by omega), if_neg (by omega)]
  by_cases hzero : n / 4096 = 0
  · rw [if_pos (by omega), hzero]
    exact ⟨_, _, _, rfl, by simp; omega, by simp; omega⟩
  · rw [if_neg (by omega)]
    by_cases hsurrogate : n / 4096 = 0xD
    · rw [if_pos (by omega), hsurrogate]
      refine ⟨_, _, _, rfl, by simp, ?_⟩
      rcases hvalid with hvalid | hvalid <;> simp <;> omega
    · rw [if_neg (by omega), if_pos (by omega), Nat.add_sub_cancel]
      exact ⟨_, _, _, rfl, by simp, by simp; omega⟩

/-- The first of four octets. Its bounds let the second octet of the character pass. -/
theorem start_four {n : Nat} (hlow : 0x10000 ≤ n) (hvalid : n.isValidChar) :
    ∃ b low high, start (UInt8.ofNat (n / 262144 % 0x08 + 0xF0)) =
        .pending ⟨[b], n / 262144, 3, low, high⟩ ∧
      low.toNat ≤ n / 4096 % 0x40 + 0x80 ∧ n / 4096 % 0x40 + 0x80 ≤ high.toNat := by
  have hhigh : n < 0x110000 := by rcases hvalid with hvalid | hvalid <;> omega
  have hn : (UInt8.ofNat (n / 262144 % 0x08 + 0xF0)).toNat = n / 262144 + 0xF0 := by
    rw [UInt8.toNat_ofNat']
    omega
  simp only [start, hn]
  rw [if_neg (by omega), if_neg (by omega), if_neg (by omega), if_neg (by omega),
    if_neg (by omega), if_neg (by omega)]
  by_cases hzero : n / 262144 = 0
  · rw [if_pos (by omega), hzero]
    exact ⟨_, _, _, rfl, by simp; omega, by simp; omega⟩
  · rw [if_neg (by omega)]
    by_cases hlast : n / 262144 = 4
    · rw [if_neg (by omega), if_pos (by omega), hlast]
      exact ⟨_, _, _, rfl, by simp, by simp; omega⟩
    · rw [if_pos (by omega), Nat.add_sub_cancel]
      exact ⟨_, _, _, rfl, by simp, by simp; omega⟩

/-- A character is written in base 64, with a first octet that tells the number of digits. -/
theorem encodeChar_eq (c : Char) :
    encodeChar c =
      if c.toNat ≤ 0x7F then [UInt8.ofNat c.toNat]
      else if c.toNat ≤ 0x7FF then [UInt8.ofNat (c.toNat / 64 % 0x20 + 0xC0), tail c.toNat]
      else if c.toNat ≤ 0xFFFF then
        [UInt8.ofNat (c.toNat / 4096 % 0x10 + 0xE0), tail (c.toNat / 64), tail c.toNat]
      else
        [UInt8.ofNat (c.toNat / 262144 % 0x08 + 0xF0), tail (c.toNat / 4096), tail (c.toNat / 64),
          tail c.toNat] :=
  rfl

/-- The first octet of a character makes it, or begins it so that the others complete it. -/
theorem encodeChar_cases (c : Char) :
    (∃ b, encodeChar c = [b] ∧ start b = .char c) ∨
      ∃ b p bs, encodeChar c = b :: bs ∧ start b = .pending p ∧ p.Completes c bs := by
  have hvalid : c.toNat.isValidChar := c.valid
  have hcode : Char.ofNat c.toNat = c := Char.ofNat_toNat c
  rw [encodeChar_eq]
  generalize c.toNat = n at hvalid hcode ⊢
  subst hcode
  split
  · rename_i hone
    exact .inl ⟨_, rfl, start_ascii (Nat.lt_succ_of_le hone)⟩
  split
  · rename_i hone htwo
    obtain ⟨b, hstart⟩ := start_two (Nat.lt_of_not_le hone) (Nat.lt_succ_of_le htwo)
    have hcode : n / 64 * 0x40 + n % 0x40 = n := by omega
    exact .inr ⟨_, _, _, rfl, hstart,
      .lastDigit (by simp) (by simp) (by simp; omega) (congrArg Char.ofNat hcode)⟩
  split
  · rename_i htwo hthree
    obtain ⟨b, low, high, hstart, hlow, hhigh⟩ :=
      start_three (Nat.lt_of_not_le htwo) (Nat.lt_succ_of_le hthree) hvalid
    have hcode : (n / 4096 * 0x40 + n / 64 % 0x40) * 0x40 + n % 0x40 = n := by omega
    exact .inr ⟨_, _, _, rfl, hstart, .digit (by simp) hlow hhigh
      (.lastDigit (by simp) (by simp) (by simp; omega) (congrArg Char.ofNat hcode))⟩
  · rename_i hthree
    obtain ⟨b, low, high, hstart, hlow, hhigh⟩ := start_four (Nat.lt_of_not_le hthree) hvalid
    have hcode : ((n / 262144 * 0x40 + n / 4096 % 0x40) * 0x40 + n / 64 % 0x40) * 0x40 + n % 0x40 =
        n := by
      omega
    exact .inr ⟨_, _, _, rfl, hstart, .digit (by simp) hlow hhigh
      (.digit (by simp) (by simp) (by simp; omega)
        (.lastDigit (by simp) (by simp) (by simp; omega) (congrArg Char.ofNat hcode)))⟩

variable {mend : Mending}

theorem decodeFrom_of_completes {c : Char} {p : Pending} {bs : List UInt8} (h : p.Completes c bs)
    (rest : List UInt8) :
    decodeFrom mend (some p) (bs ++ rest) = .scalar c :: decodeFrom mend none rest := by
  induction h with
  | last h => simp only [List.cons_append, List.nil_append, decodeFrom, feed, h]
  | next h _ ih => simp only [List.cons_append, List.nil_append, decodeFrom, feed, h, ih]

/-- The octets of a character are decoded to it, whatever follows them. -/
theorem decodeFrom_encodeChar (c : Char) (bs : List UInt8) :
    decodeFrom mend none (encodeChar c ++ bs) = .scalar c :: decodeFrom mend none bs := by
  rcases encodeChar_cases c with ⟨b, hoctets, hstart⟩ | ⟨b, p, more, hoctets, hstart, hcompletes⟩
  · simp only [hoctets, List.cons_append, List.nil_append, decodeFrom, feed, fresh, hstart]
  · simp only [hoctets, List.cons_append, List.nil_append, decodeFrom, feed, fresh, hstart,
      decodeFrom_of_completes hcompletes]

/-- Decoding the octets of characters leads back to them. -/
theorem decode_flatMap_encodeChar (cs : List Char) :
    decode mend (cs.flatMap encodeChar) = cs.map .scalar := by
  rw [decode]
  induction cs with
  | nil => rfl
  | cons c cs ih => rw [List.flatMap_cons, decodeFrom_encodeChar, ih, List.map_cons]

theorem encodeChar_injective {c d : Char} (h : encodeChar c = encodeChar d) : c = d := by
  have hsame : decodeFrom replace none (encodeChar c ++ [])
      = decodeFrom replace none (encodeChar d ++ []) := by
    rw [h]
  rw [decodeFrom_encodeChar, decodeFrom_encodeChar] at hsame
  exact CodePoint.scalar.inj (List.cons.inj hsame).1

end Playbook.Text.Utf8
