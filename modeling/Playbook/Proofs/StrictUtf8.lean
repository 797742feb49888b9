import Playbook.Proofs.Outcome
import Playbook.Proofs.Utf8

/-! # The strict reading of UTF-8

The octets that the strict reading takes are those of the characters that it yields, together with
those that it holds back. Hence it does not matter in which chunks octets come in: what is held back
is read again in front of the next chunk. The octets of a text are read without a fault however they
are cut.

## Implementation notes

A reading without a fault is a relation of its own, in which the places of the octets, which only
faults name, play no part. -/

namespace Playbook.Text.Utf8

/-- The characters in progress that a decoder comes to: two, three or four octets are due, and some of
them have been taken. -/
inductive Pending.Valid : Pending → Prop
  | two {v : Nat} (hlow : 2 ≤ v) (hhigh : v < 0x20) :
      Valid ⟨[UInt8.ofNat (v + 0xC0)], v, 1, 0x80, 0xBF⟩
  | three {v : Nat} {low high : UInt8} (hv : v < 0x10) (hlow : 0x80 ≤ low.toNat)
      (hzero : v = 0 → 0xA0 ≤ low.toNat) (hhigh : high.toNat ≤ 0xBF)
      (hsurrogate : v = 0xD → high.toNat ≤ 0x9F) :
      Valid ⟨[UInt8.ofNat (v + 0xE0)], v, 2, low, high⟩
  | three_two {v : Nat} (hlow : 0x20 ≤ v) (hhigh : v < 0x400) (hsurrogate : v < 0x360 ∨ 0x380 ≤ v) :
      Valid ⟨[UInt8.ofNat (v / 64 + 0xE0), tail v], v, 1, 0x80, 0xBF⟩
  | four {v : Nat} {low high : UInt8} (hv : v ≤ 4) (hlow : 0x80 ≤ low.toNat)
      (hzero : v = 0 → 0x90 ≤ low.toNat) (hhigh : high.toNat ≤ 0xBF)
      (hlast : v = 4 → high.toNat ≤ 0x8F) :
      Valid ⟨[UInt8.ofNat (v + 0xF0)], v, 3, low, high⟩
  | four_two {v : Nat} (hlow : 0x10 ≤ v) (hhigh : v < 0x110) :
      Valid ⟨[UInt8.ofNat (v / 64 + 0xF0), tail v], v, 2, 0x80, 0xBF⟩
  | four_three {v : Nat} (hlow : 0x400 ≤ v) (hhigh : v < 0x4400) :
      Valid ⟨[UInt8.ofNat (v / 4096 + 0xF0), tail (v / 64), tail v], v, 1, 0x80, 0xBF⟩

/-- The octets of the character with a code. -/
theorem encodeChar_ofNat {n : Nat} (hvalid : n.isValidChar) :
    encodeChar (Char.ofNat n) =
      if n ≤ 0x7F then [UInt8.ofNat n]
      else if n ≤ 0x7FF then [UInt8.ofNat (n / 64 % 0x20 + 0xC0), tail n]
      else if n ≤ 0xFFFF then
        [UInt8.ofNat (n / 4096 % 0x10 + 0xE0), tail (n / 64), tail n]
      else
        [UInt8.ofNat (n / 262144 % 0x08 + 0xF0), tail (n / 4096), tail (n / 64), tail n] := by
  have hcode : (Char.ofNat n).toNat = n := by
    rw [Char.ofNat, dif_pos hvalid]
    rfl
  rw [encodeChar_eq, hcode]

/-- What octets rightly lead to: the character that is written with them, or a character in progress,
unless they are refused. -/
inductive Progress.Sound (octets : List UInt8) : Progress → Prop
  | char {c : Char} (h : encodeChar c = octets) : Sound octets (.char c)
  | pending {p : Pending} (hvalid : p.Valid) (htaken : p.taken = octets) : Sound octets (.pending p)
  | refused : Sound octets .refused

theorem start_sound (b : UInt8) : (start b).Sound [b] := by
  obtain ⟨n, hn, rfl⟩ : ∃ n, n < 256 ∧ b = UInt8.ofNat n :=
    ⟨b.toNat, b.toNat_lt, UInt8.ofNat_toNat.symm⟩
  have htoNat : (UInt8.ofNat n).toNat = n := UInt8.toNat_ofNat_of_lt' hn
  rw [start, htoNat]
  split
  · rename_i hone
    refine .char ?_
    rw [encodeChar_ofNat (.inl (by omega)), if_pos (by omega)]
  split
  · exact .refused
  split
  · obtain ⟨v, rfl⟩ : ∃ v, n = v + 0xC0 := ⟨n - 0xC0, by omega⟩
    rw [Nat.add_sub_cancel]
    exact .pending (.two (by omega) (by omega)) rfl
  split
  · rename_i hzero
    subst hzero
    exact .pending (.three (by decide) (by decide) (by decide) (by decide) (by decide)) rfl
  split
  · rename_i hsurrogate
    subst hsurrogate
    exact .pending (.three (by decide) (by decide) (by decide) (by decide) (by decide)) rfl
  split
  · obtain ⟨v, rfl⟩ : ∃ v, n = v + 0xE0 := ⟨n - 0xE0, by omega⟩
    rw [Nat.add_sub_cancel]
    exact .pending (.three (by omega) (by decide) (by omega) (by decide) (by omega)) rfl
  split
  · rename_i hzero
    subst hzero
    exact .pending (.four (by decide) (by decide) (by decide) (by decide) (by decide)) rfl
  split
  · obtain ⟨v, rfl⟩ : ∃ v, n = v + 0xF0 := ⟨n - 0xF0, by omega⟩
    rw [Nat.add_sub_cancel]
    exact .pending (.four (by omega) (by decide) (by omega) (by decide) (by omega)) rfl
  split
  · rename_i hlast
    subst hlast
    exact .pending (.four (by decide) (by decide) (by decide) (by decide) (by decide)) rfl
  · exact .refused

theorem Pending.Valid.bounds {p : Pending} (h : p.Valid) :
    0x80 ≤ p.low.toNat ∧ p.high.toNat ≤ 0xBF := by
  cases h with
  | three _ hlow _ hhigh => exact ⟨hlow, hhigh⟩
  | four _ hlow _ hhigh => exact ⟨hlow, hhigh⟩
  | two | three_two | four_two | four_three => exact ⟨Nat.le_refl _, Nat.le_refl _⟩

theorem Pending.Valid.extend_sound {p : Pending} (h : p.Valid) (b : UInt8) :
    (p.extend b).Sound (p.taken ++ [b]) := by
  by_cases hbounds : (p.low ≤ b && b ≤ p.high) = true
  · have hrange : p.low.toNat ≤ b.toNat ∧ b.toNat ≤ p.high.toNat := by
      simpa only [Bool.and_eq_true, decide_eq_true_eq, UInt8.le_iff_toNat_le] using hbounds
    have hwide := h.bounds
    obtain ⟨d, hd, hb⟩ : ∃ d, d < 64 ∧ b.toNat = d + 0x80 :=
      ⟨b.toNat - 0x80, by omega, by omega⟩
    have hdigit (v : Nat) : tail (v * 0x40 + d) = b := by
      rw [← UInt8.toNat_inj, tail_toNat]
      omega
    rw [extend, if_pos hbounds, hb, Nat.add_sub_cancel]
    rw [hb] at hrange
    cases h with
    | @two v hlow hhigh =>
        refine .char ?_
        dsimp only
        rw [encodeChar_ofNat (.inl (by omega)), if_neg (by omega), if_pos (by omega), hdigit]
        rw [show (v * 0x40 + d) / 64 % 0x20 = v by omega]
        rfl
    | @three v low high hv hlow hzero hhigh hsurrogate =>
        dsimp only at hrange
        have hnext := three_two (v := v * 0x40 + d) (by omega) (by omega) (by omega)
        rw [hdigit, show (v * 0x40 + d) / 64 = v by omega] at hnext
        exact .pending hnext rfl
    | @three_two v hlow hhigh hsurrogate =>
        refine .char ?_
        dsimp only
        rw [encodeChar_ofNat (by rw [Nat.isValidChar]; omega), if_neg (by omega), if_neg (by omega),
          if_pos (by omega), hdigit]
        rw [show (v * 0x40 + d) / 4096 % 0x10 = v / 64 by omega,
          show (v * 0x40 + d) / 64 = v by omega]
        rfl
    | @four v low high hv hlow hzero hhigh hlast =>
        dsimp only at hrange
        have hnext := four_two (v := v * 0x40 + d) (by omega) (by omega)
        rw [hdigit, show (v * 0x40 + d) / 64 = v by omega] at hnext
        exact .pending hnext rfl
    | @four_two v hlow hhigh =>
        have hnext := four_three (v := v * 0x40 + d) (by omega) (by omega)
        rw [hdigit, show (v * 0x40 + d) / 4096 = v / 64 by omega,
          show (v * 0x40 + d) / 64 = v by omega] at hnext
        exact .pending hnext rfl
    | @four_three v hlow hhigh =>
        refine .char ?_
        dsimp only
        rw [encodeChar_ofNat (by rw [Nat.isValidChar]; omega), if_neg (by omega), if_neg (by omega),
          if_neg (by omega), hdigit]
        rw [show (v * 0x40 + d) / 262144 % 0x08 = v / 4096 by omega,
          show (v * 0x40 + d) / 4096 = v / 64 by omega, show (v * 0x40 + d) / 64 = v by omega]
        rfl
  · rw [extend, if_neg hbounds]
    exact .refused

/-- Every character is written in at least one octet. -/
theorem length_le_octets (cs : List Char) : cs.length ≤ (cs.flatMap encodeChar).length := by
  induction cs with
  | nil => exact Nat.le_refl 0
  | cons c cs ih =>
      have hc : 0 < (encodeChar c).length := by
        rcases encodeChar_cases c with ⟨b, hb, -⟩ | ⟨b, p, bs, hb, -⟩ <;> simp [hb]
      rw [List.flatMap_cons, List.length_append, List.length_cons]
      omega

/-- Only an empty text is written in no octets. -/
theorem eq_nil_of_octets {cs : List Char} (h : [] = cs.flatMap encodeChar) : cs = [] := by
  have hlength := length_le_octets cs
  rw [← h] at hlength
  exact List.length_eq_zero_iff.mp (Nat.le_zero.mp hlength)

/-- The octets taken of the character in progress. -/
def taken (state : Option Pending) : List UInt8 := (state.map Pending.taken).getD []

/-- What an octet leads to. -/
def next : Option Pending → UInt8 → Progress
  | none, b => start b
  | some p, b => p.extend b

theorem next_sound {state : Option Pending} (h : ∀ p ∈ state, p.Valid) (b : UInt8) :
    (next state b).Sound (taken state ++ [b]) := by
  cases state with
  | none => exact start_sound b
  | some p => exact Pending.Valid.extend_sound (h p rfl) b

/-- A reading of octets without a fault: the characters and the octets held back. -/
inductive Reads : Option Pending → List UInt8 → List Char → List UInt8 → Prop
  | done (state : Option Pending) : Reads state [] [] (taken state)
  | char {state b c bs cs held} (h : next state b = .char c) (rest : Reads none bs cs held) :
      Reads state (b :: bs) (c :: cs) held
  | pending {state b p bs cs held} (h : next state b = .pending p)
      (rest : Reads (some p) bs cs held) : Reads state (b :: bs) cs held
  | surrogate {p : Pending} {b} (h : p.extend b = .refused) (hlast : p.isSurrogateWith b = true) :
      Reads (some p) [b] [] (p.taken ++ [b])

theorem decodeStrictFrom_cons (position : Nat) (state : Option Pending) (b : UInt8)
    (bs : List UInt8) :
    decodeStrictFrom position state (b :: bs) =
      match next state b, state with
      | .char c, _ => (decodeStrictFrom (position + 1) none bs).map fun r => (c :: r.1, r.2)
      | .pending p, _ => decodeStrictFrom (position + 1) (some p) bs
      | .refused, none => .error ⟨.start, position, [b]⟩
      | .refused, some p =>
          if bs.isEmpty && p.isSurrogateWith b then .ok ([], p.taken ++ [b])
          else .error ⟨.continuation, position - p.taken.length, p.taken⟩ := by
  cases state with
  | none =>
      rw [decodeStrictFrom, next]
      cases start b with
      | char => exact bind_ok_eq_map ..
      | pending | refused => rfl
  | some p =>
      rw [decodeStrictFrom, next]
      cases p.extend b with
      | char => exact bind_ok_eq_map ..
      | pending | refused => rfl

/-- Where the octets stand plays no part in a reading without a fault. -/
theorem decodeStrictFrom_eq_ok_iff {position : Nat} {state : Option Pending} {bytes : List UInt8}
    {cs : List Char} {held : List UInt8} :
    decodeStrictFrom position state bytes = .ok (cs, held) ↔ Reads state bytes cs held := by
  constructor
  · intro h
    induction bytes generalizing position state cs with
    | nil =>
        cases state <;> obtain ⟨rfl, rfl⟩ := Prod.mk.inj (Except.ok.inj h) <;> exact .done _
    | cons b bytes ih =>
        rw [decodeStrictFrom_cons] at h
        split at h
        · rename_i c _ hnext
          obtain ⟨⟨rest, left⟩, hrest, hresult⟩ := map_eq_ok.mp h
          obtain ⟨rfl, rfl⟩ := Prod.mk.inj hresult
          exact .char hnext (ih hrest)
        · rename_i p _ hnext
          exact .pending hnext (ih h)
        · cases h
        · rename_i p hnext
          split at h
          · rename_i hlast
            obtain ⟨hnil, hlast⟩ := Bool.and_eq_true_iff.mp hlast
            obtain rfl := List.isEmpty_iff.mp hnil
            obtain ⟨rfl, rfl⟩ := Prod.mk.inj (Except.ok.inj h)
            exact .surrogate hnext hlast
          · cases h
  · intro h
    induction h generalizing position with
    | done state => cases state <;> rfl
    | char hnext _ ih =>
        rw [decodeStrictFrom_cons, hnext]
        dsimp only
        rw [ih, map_ok]
    | pending hnext _ ih =>
        rw [decodeStrictFrom_cons, hnext]
        exact ih
    | @surrogate p b hextend hlast =>
        rw [decodeStrictFrom_cons, next, hextend]
        simp only [List.isEmpty_nil, hlast, Bool.and_self, if_true]

theorem decodeStrict_eq_ok_iff {bytes : List UInt8} {cs : List Char} {held : List UInt8} :
    decodeStrict bytes = .ok (cs, held) ↔ Reads none bytes cs held :=
  decodeStrictFrom_eq_ok_iff

namespace Reads

variable {state : Option Pending} {bytes more held : List UInt8} {cs : List Char}

/-- The octets read are those of the characters and those held back. -/
theorem octets (h : Reads state bytes cs held) (hstate : ∀ p ∈ state, p.Valid) :
    taken state ++ bytes = cs.flatMap encodeChar ++ held := by
  induction h with
  | done => simp
  | @char state b c bs cs held hnext _ ih =>
      have hsound := next_sound hstate b
      rw [hnext] at hsound
      cases hsound with
      | char hoctets =>
          have hrest : bs = cs.flatMap encodeChar ++ held := ih (by simp)
          rw [List.flatMap_cons, List.append_assoc, ← hrest, hoctets]
          simp
  | @pending state b p bs cs held hnext _ ih =>
      have hsound := next_sound hstate b
      rw [hnext] at hsound
      cases hsound with
      | pending hvalid htaken =>
          have hrest : p.taken ++ bs = cs.flatMap encodeChar ++ held := ih (by simpa using hvalid)
          rw [← hrest, htaken, List.append_assoc, List.singleton_append]
  | surrogate => rfl

/-- What is read without a fault is read without a fault as far as it goes. -/
theorem front (h : Reads state (bytes ++ more) cs held) : ∃ cs held, Reads state bytes cs held := by
  induction bytes generalizing state cs with
  | nil => exact ⟨_, _, .done state⟩
  | cons b bytes ih =>
      generalize hall : b :: bytes ++ more = all at h
      cases h with
      | done => simp at hall
      | char hnext hrest =>
          obtain ⟨rfl, rfl⟩ := List.cons.inj hall
          obtain ⟨_, _, hrest⟩ := ih hrest
          exact ⟨_, _, .char hnext hrest⟩
      | pending hnext hrest =>
          obtain ⟨rfl, rfl⟩ := List.cons.inj hall
          obtain ⟨_, _, hrest⟩ := ih hrest
          exact ⟨_, _, .pending hnext hrest⟩
      | surrogate hextend hlast =>
          obtain ⟨rfl, hnil⟩ := List.cons.inj hall
          obtain ⟨rfl, -⟩ := List.append_eq_nil_iff.mp hnil
          exact ⟨_, _, .surrogate hextend hlast⟩

theorem cons_iff_of_char {b : UInt8} {c : Char} (hnext : next state b = .char c) :
    Reads state (b :: bytes) cs held ↔ ∃ rest, cs = c :: rest ∧ Reads none bytes rest held := by
  constructor
  · intro h
    cases h with
    | @char _ _ d _ rest _ hother hrest =>
        obtain rfl : c = d := Progress.char.inj (hnext.symm.trans hother)
        exact ⟨rest, rfl, hrest⟩
    | pending hother => cases hnext.symm.trans hother
    | surrogate hother => cases hnext.symm.trans hother
  · rintro ⟨rest, rfl, hrest⟩
    exact .char hnext hrest

theorem cons_iff_of_pending {b : UInt8} {p : Pending} (hnext : next state b = .pending p) :
    Reads state (b :: bytes) cs held ↔ Reads (some p) bytes cs held := by
  constructor
  · intro h
    cases h with
    | char hother => cases hnext.symm.trans hother
    | @pending _ _ q _ _ _ hother hrest =>
        obtain rfl : p = q := Progress.pending.inj (hnext.symm.trans hother)
        exact hrest
    | surrogate hother => cases hnext.symm.trans hother
  · exact .pending hnext

/-- Octets that complete a character in progress are read as it. -/
theorem completes_iff {c : Char} {p : Pending} {front : List UInt8}
    (hcompletes : p.Completes c front) :
    Reads (some p) (front ++ bytes) cs held ↔ ∃ rest, cs = c :: rest ∧ Reads none bytes rest held := by
  induction hcompletes with
  | last hextend => exact cons_iff_of_char hextend
  | @next p q b _ hextend _ ih =>
      have hnext : next (some p) b = .pending q := hextend
      exact (cons_iff_of_pending hnext).trans ih

/-- The octets of a character are read as it, whatever follows them. -/
theorem encodeChar_iff (c : Char) :
    Reads none (encodeChar c ++ bytes) cs held ↔
      ∃ rest, cs = c :: rest ∧ Reads none bytes rest held := by
  rcases encodeChar_cases c with ⟨b, hoctets, hstart⟩ | ⟨b, p, front, hoctets, hstart, hcompletes⟩
  · rw [hoctets]
    exact cons_iff_of_char hstart
  · rw [hoctets]
    have hnext : next none b = .pending p := hstart
    exact (cons_iff_of_pending hnext).trans (completes_iff hcompletes)

/-- The octets of a text are read as it, whatever follows them. -/
theorem text_iff (front : List Char) :
    Reads none (front.flatMap encodeChar ++ bytes) cs held ↔
      ∃ rest, cs = front ++ rest ∧ Reads none bytes rest held := by
  induction front generalizing cs with
  | nil => simp
  | cons c front ih =>
      rw [List.flatMap_cons, List.append_assoc, encodeChar_iff]
      constructor
      · rintro ⟨_, rfl, h⟩
        obtain ⟨rest, rfl, hrest⟩ := ih.mp h
        exact ⟨rest, rfl, hrest⟩
      · rintro ⟨rest, rfl, hrest⟩
        exact ⟨front ++ rest, rfl, ih.mpr ⟨rest, rfl, hrest⟩⟩

/-- A text is read from its octets as a whole. -/
theorem text (cs : List Char) : Reads none (cs.flatMap encodeChar) cs [] := by
  have hall := (text_iff cs).mpr ⟨[], rfl, .done none⟩
  rwa [List.append_nil, List.append_nil] at hall

/-- What is held back is held back again when it is read in front of what follows. -/
theorem heldBack (h : Reads none bytes cs held) : Reads none held [] held := by
  have hoctets : bytes = cs.flatMap encodeChar ++ held := h.octets (by simp)
  rw [hoctets] at h
  obtain ⟨rest, hcs, hrest⟩ := (text_iff cs).mp h
  obtain rfl : rest = [] := by simpa using hcs
  exact hrest

/-- What is held back and what follows are the rest of a text. -/
theorem rest {text : List Char} (h : Reads none bytes cs held)
    (hall : bytes ++ more = text.flatMap encodeChar) :
    ∃ rest, text = cs ++ rest ∧ held ++ more = rest.flatMap encodeChar := by
  have hoctets : bytes = cs.flatMap encodeChar ++ held := h.octets (by simp)
  have hread := Reads.text text
  rw [← hall, hoctets, List.append_assoc, text_iff] at hread
  obtain ⟨rest, hrest, hread⟩ := hread
  have hmore : held ++ more = rest.flatMap encodeChar ++ [] := hread.octets (by simp)
  exact ⟨rest, hrest, by rw [hmore, List.append_nil]⟩

/-- Octets that are held back are no text, unless there are none. -/
theorem eq_nil_of_heldBack {text : List Char} (h : Reads none held [] held)
    (hall : held = text.flatMap encodeChar) : held = [] := by
  have hread := Reads.text text
  rw [← hall] at hread
  have hboth := (decodeStrict_eq_ok_iff.mpr h).symm.trans (decodeStrict_eq_ok_iff.mpr hread)
  exact (Prod.mk.inj (Except.ok.inj hboth)).2

/-- There are at least as many octets as characters and octets held back. -/
theorem length_le (h : Reads none bytes cs held) : cs.length + held.length ≤ bytes.length := by
  have hoctets : bytes = cs.flatMap encodeChar ++ held := h.octets (by simp)
  rw [hoctets, List.length_append]
  exact Nat.add_le_add_right (length_le_octets cs) _

end Reads

/-- A text of which a part is read is read without a fault that far. -/
theorem reads_of_append {bytes more : List UInt8} {text : List Char}
    (h : bytes ++ more = text.flatMap encodeChar) : ∃ cs held, Reads none bytes cs held := by
  have hread := Reads.text text
  rw [← h] at hread
  exact hread.front

end Playbook.Text.Utf8
