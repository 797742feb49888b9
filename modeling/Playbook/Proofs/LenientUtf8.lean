import Playbook.Proofs.Encodings
import Playbook.Proofs.StrictUtf8

/-! # The lenient reading of UTF-8

Octets that are no UTF-8 are read all the same: something else stands for each longest part with which a
character begins but does not go on, and for each octet with which none begins. The decoder reads in
just this way. Hence two runs of octets are read apart as together if one of them is UTF-8: no
character runs across the border between them.

## Implementation notes

The reading is said with the octets of characters alone, without the decoder's states. The decoder
is tied to it by `Held`: the octets that lead to a character in progress. -/

namespace Playbook.Text.Utf8

/-- Octets with which a character begins. -/
def Begins (octets : List UInt8) : Prop := ∃ c, octets <+: encodeChar c

/-- What is mended at once: the longest part with which a character begins, if
that is not the whole of it, or a single octet. -/
structure Torn (bad rest : List UInt8) : Prop where
  ne_nil : bad ≠ []
  part : Begins bad ∨ ∃ b, bad = [b]
  not_whole : ∀ c, encodeChar c ≠ bad
  longest : ∀ b ∈ rest.head?, ¬ Begins (bad ++ [b])

/-- The reading of octets that need not be UTF-8. -/
inductive Lenient (mend : Mending) : List UInt8 → List CodePoint → Prop
  | nil : Lenient mend [] []
  | char {c : Char} {rest : List UInt8} {cs : List CodePoint} (tail : Lenient mend rest cs) :
      Lenient mend (encodeChar c ++ rest) (.scalar c :: cs)
  | torn {bad rest : List UInt8} {cs : List CodePoint} (hbad : Torn bad rest)
      (tail : Lenient mend rest cs) : Lenient mend (bad ++ rest) (mend bad ++ cs)

/-- Octets that are the UTF-8 of a text. -/
def WellFormed (octets : List UInt8) : Prop := ∃ text : Text, text.encode .strict = .ok octets

/-! ### The states of the decoder -/

/-- Octets that leave a character in progress. -/
inductive Held : List UInt8 → Pending → Prop
  | first {b : UInt8} {p : Pending} (h : start b = .pending p) : Held [b] p
  | more {octets : List UInt8} {b : UInt8} {p q : Pending} (front : Held octets q)
      (h : q.extend b = .pending p) : Held (octets ++ [b]) p

namespace Held

variable {octets more : List UInt8} {p : Pending} {b : UInt8} {c : Char}

theorem valid (h : Held octets p) : p.Valid ∧ p.taken = octets := by
  induction h with
  | @first b p h =>
      have hsound := start_sound b
      rw [h] at hsound
      cases hsound with
      | pending hvalid htaken => exact ⟨hvalid, htaken⟩
  | @more octets b p q _ h ih =>
      have hsound := ih.1.extend_sound b
      rw [h, ih.2] at hsound
      cases hsound with
      | pending hvalid htaken => exact ⟨hvalid, htaken⟩

theorem ne_nil (h : Held octets p) : octets ≠ [] := by
  cases h <;> simp

/-- The octet that completes a character in progress is its last one. -/
theorem encodeChar_of_extend (h : Held octets p) (hextend : p.extend b = .char c) :
    encodeChar c = octets ++ [b] := by
  have hsound := h.valid.1.extend_sound b
  rw [hextend, h.valid.2] at hsound
  cases hsound with
  | char hoctets => exact hoctets

/-- The other octets of a character that begins as the one in progress complete it. -/
theorem completes (h : Held octets p) (hc : encodeChar c = octets ++ more) :
    p.Completes c more := by
  induction h generalizing more with
  | @first b p h =>
      rcases encodeChar_cases c with ⟨d, hd, hstart⟩ | ⟨d, q, bs, hd, hstart, hcompletes⟩
      · obtain ⟨rfl, -⟩ := List.cons.inj (hd.symm.trans hc)
        cases hstart.symm.trans h
      · obtain ⟨rfl, rfl⟩ := List.cons.inj (hd.symm.trans hc)
        obtain rfl := Progress.pending.inj (hstart.symm.trans h)
        exact hcompletes
  | @more octets b p q _ h ih =>
      rw [List.append_assoc] at hc
      cases ih hc with
      | last hlast => cases hlast.symm.trans h
      | next hnext tail =>
          obtain rfl := Progress.pending.inj (hnext.symm.trans h)
          exact tail

theorem not_whole (h : Held octets p) (c : Char) : encodeChar c ≠ octets := by
  intro hc
  have hcompletes : p.Completes c [] := h.completes (by rw [hc, List.append_nil])
  cases hcompletes

theorem not_begins_of_refused (h : Held octets p) (hrefused : p.extend b = .refused) :
    ¬ Begins (octets ++ [b]) := by
  rintro ⟨c, more, hc⟩
  rw [List.append_assoc] at hc
  cases h.completes hc.symm with
  | last hlast => cases hlast.symm.trans hrefused
  | next hnext => cases hnext.symm.trans hrefused

/-- Octets that complete the character in progress are the others of a character. -/
theorem encodeChar_of_completes (h : Held octets p) (hcompletes : p.Completes c more) :
    encodeChar c = octets ++ more := by
  induction hcompletes generalizing octets with
  | last hlast => exact h.encodeChar_of_extend hlast
  | next hnext _ ih =>
      rw [ih (.more h hnext), List.append_assoc]
      rfl

/-- Some octet may always come next. -/
theorem low_le_high (h : Held octets p) : p.low ≤ p.high := by
  cases h with
  | first h =>
      unfold start at h
      dsimp only at h
      repeat' split at h
      all_goals cases h <;> dsimp only <;> decide
  | more _ h =>
      unfold Pending.extend at h
      repeat' split at h
      all_goals cases h <;> dsimp only <;> decide

end Held

/-- A character in progress can be completed. -/
theorem Pending.exists_completes {p : Pending} (h : p.low ≤ p.high) :
    ∃ c bs, p.Completes c bs := by
  have hextend : p.extend p.low =
      if p.owed ≤ 1 then .char (Char.ofNat (p.value * 0x40 + (p.low.toNat - 0x80)))
      else .pending ⟨p.taken ++ [p.low], p.value * 0x40 + (p.low.toNat - 0x80), p.owed - 1,
        0x80, 0xBF⟩ :=
    if_pos (by simp [h])
  induction howed : p.owed generalizing p with
  | zero =>
      rw [if_pos (by omega)] at hextend
      exact ⟨_, _, .last hextend⟩
  | succ n ih =>
      by_cases hlast : p.owed ≤ 1
      · rw [if_pos hlast] at hextend
        exact ⟨_, _, .last hextend⟩
      · rw [if_neg hlast, howed, Nat.add_sub_cancel] at hextend
        have hrange : (0x80 : UInt8) ≤ 0xBF := by decide
        obtain ⟨c, bs, hcompletes⟩ := ih (p := ⟨_, _, n, 0x80, 0xBF⟩) hrange rfl rfl
        exact ⟨c, _, .next hextend hcompletes⟩

theorem Held.begins {octets : List UInt8} {p : Pending} (h : Held octets p) : Begins octets := by
  obtain ⟨c, bs, hcompletes⟩ := Pending.exists_completes h.low_le_high
  exact ⟨c, bs, (h.encodeChar_of_completes hcompletes).symm⟩

/-- Where the decoder refuses an octet, the octets held are torn off. -/
theorem Held.torn {octets rest : List UInt8} {p : Pending} (h : Held octets p)
    (hrest : ∀ b ∈ rest.head?, p.extend b = .refused) : Torn octets rest where
  ne_nil := h.ne_nil
  part := .inl h.begins
  not_whole := h.not_whole
  longest b hb := h.not_begins_of_refused (hrest b hb)

/-- No character begins with an octet that the decoder refuses between two characters. -/
theorem not_begins_of_start {b : UInt8} (h : start b = .refused) : ¬ Begins [b] := by
  rintro ⟨c, more, hc⟩
  rcases encodeChar_cases c with ⟨d, hd, hstart⟩ | ⟨d, q, bs, hd, hstart, -⟩
  all_goals
    obtain ⟨rfl, -⟩ := List.cons.inj (hd.symm.trans hc.symm)
    cases hstart.symm.trans h

theorem torn_of_start {b : UInt8} (h : start b = .refused) (rest : List UInt8) : Torn [b] rest where
  ne_nil := by simp
  part := .inr ⟨b, rfl⟩
  not_whole c hc := not_begins_of_start h ⟨c, [], by rw [List.append_nil, hc]⟩
  longest d _ hbegins := by
    obtain ⟨c, more, hc⟩ := hbegins
    exact not_begins_of_start h ⟨c, d :: more, by rw [← hc]; rfl⟩

/-! ### The decoder reads leniently -/

variable {mend : Mending}

theorem decodeFrom_none_cons (b : UInt8) (bs : List UInt8) :
    decodeFrom mend none (b :: bs) =
      match start b with
      | .char c => .scalar c :: decodeFrom mend none bs
      | .pending p => decodeFrom mend (some p) bs
      | .refused => mend [b] ++ decodeFrom mend none bs := by
  rw [decodeFrom, feed, fresh]
  cases start b <;> rfl

theorem decodeFrom_some_cons (p : Pending) (b : UInt8) (bs : List UInt8) :
    decodeFrom mend (some p) (b :: bs) =
      match p.extend b with
      | .char c => .scalar c :: decodeFrom mend none bs
      | .pending q => decodeFrom mend (some q) bs
      | .refused => mend p.taken ++ decodeFrom mend none (b :: bs) := by
  rw [decodeFrom, feed]
  cases p.extend b with
  | char | pending => rfl
  | refused => rw [decodeFrom, feed, List.append_assoc]

theorem lenient_decodeFrom (bs : List UInt8) :
    Lenient mend bs (decodeFrom mend none bs) ∧
      ∀ octets p, Held octets p → Lenient mend (octets ++ bs) (decodeFrom mend (some p) bs) := by
  induction bs with
  | nil =>
      refine ⟨.nil, fun octets p h => ?_⟩
      rw [decodeFrom, h.valid.2, ← List.append_nil (mend octets)]
      exact .torn (h.torn (by simp)) .nil
  | cons b bs ih =>
      obtain ⟨ih, ihHeld⟩ := ih
      have hfresh : Lenient mend (b :: bs) (decodeFrom mend none (b :: bs)) := by
        rw [decodeFrom_none_cons]
        cases hstart : start b with
        | char c =>
            have hsound := start_sound b
            rw [hstart] at hsound
            cases hsound with
            | char hoctets =>
                have hread := Lenient.char (c := c) ih
                rwa [hoctets] at hread
        | pending p => exact ihHeld [b] p (.first hstart)
        | refused => exact .torn (torn_of_start hstart bs) ih
      refine ⟨hfresh, fun octets p h => ?_⟩
      rw [decodeFrom_some_cons]
      cases hextend : p.extend b with
      | char c =>
          have hread := Lenient.char (c := c) ih
          rwa [h.encodeChar_of_extend hextend, List.append_assoc] at hread
      | pending q =>
          have hread := ihHeld _ q (.more h hextend)
          rwa [List.append_assoc] at hread
      | refused =>
          rw [h.valid.2]
          exact .torn (h.torn (by simpa using hextend)) hfresh

/-- A part of a character, from its front, is held. -/
theorem Held.append {octets front more : List UInt8} {p : Pending} {c : Char} (h : Held octets p)
    (hcompletes : p.Completes c (front ++ more)) (hmore : more ≠ []) :
    ∃ q, Held (octets ++ front) q := by
  induction front generalizing octets p with
  | nil => exact ⟨p, by rwa [List.append_nil]⟩
  | cons b front ih =>
      generalize hall : b :: front ++ more = all at hcompletes
      cases hcompletes with
      | last hextend => simp [hmore] at hall
      | next hextend tail =>
          obtain ⟨rfl, rfl⟩ := List.cons.inj hall
          obtain ⟨q, hq⟩ := ih (.more h hextend) tail
          exact ⟨q, by rwa [List.append_assoc] at hq⟩

/-- The decoder holds octets with which a character begins. -/
theorem held_of_begins {octets : List UInt8} (h : Begins octets) (hne : octets ≠ [])
    (hwhole : ∀ c, encodeChar c ≠ octets) : ∃ p, Held octets p := by
  obtain ⟨c, more, hc⟩ := h
  cases octets with
  | nil => exact absurd rfl hne
  | cons b front =>
      have hmore : more ≠ [] := by
        rintro rfl
        exact hwhole c (by rw [← hc, List.append_nil])
      rcases encodeChar_cases c with ⟨d, hd, -⟩ | ⟨d, p, bs, hd, hstart, hcompletes⟩
      · obtain ⟨-, hnil⟩ := List.cons.inj (hc.trans hd)
        exact absurd (List.append_eq_nil_iff.mp hnil).2 hmore
      · obtain ⟨rfl, rfl⟩ := List.cons.inj (hc.trans hd)
        exact (Held.first hstart).append hcompletes hmore

theorem Held.decodeFrom_eq {octets : List UInt8} {p : Pending} (h : Held octets p)
    (rest : List UInt8) : decodeFrom mend none (octets ++ rest) = decodeFrom mend (some p) rest := by
  induction h generalizing rest with
  | first h =>
      rw [List.singleton_append, decodeFrom_none_cons, h]
  | more _ h ih =>
      rw [List.append_assoc, ih, List.singleton_append, decodeFrom_some_cons, h]

theorem Torn.decodeFrom_eq {bad rest : List UInt8} (h : Torn bad rest) :
    decodeFrom mend none (bad ++ rest) = mend bad ++ decodeFrom mend none rest := by
  by_cases hbegins : Begins bad
  · obtain ⟨p, hheld⟩ := held_of_begins hbegins h.ne_nil h.not_whole
    rw [hheld.decodeFrom_eq, ← hheld.valid.2]
    cases rest with
    | nil => rw [decodeFrom, decodeFrom, List.append_nil]
    | cons b bs =>
        rw [decodeFrom_some_cons]
        cases hextend : p.extend b with
        | char c => exact absurd ⟨c, [], by simp [hheld.encodeChar_of_extend hextend]⟩ (h.longest b rfl)
        | pending q => exact absurd (Held.more hheld hextend).begins (h.longest b rfl)
        | refused => rfl
  · obtain ⟨b, rfl⟩ := h.part.resolve_left hbegins
    rw [List.singleton_append, decodeFrom_none_cons]
    cases hstart : start b with
    | char c =>
        have hsound := start_sound b
        rw [hstart] at hsound
        cases hsound with
        | char hoctets => exact absurd hoctets (h.not_whole c)
    | pending p => exact absurd (Held.first hstart).begins hbegins
    | refused => rfl

/-- The decoder finds the one lenient reading of octets. -/
theorem decode_eq_iff {octets : List UInt8} {cs : List CodePoint} :
    decode mend octets = cs ↔ Lenient mend octets cs := by
  rw [decode]
  constructor
  · rintro rfl
    exact (lenient_decodeFrom octets).1
  · intro h
    induction h with
    | nil => rfl
    | char _ ih => rw [decodeFrom_encodeChar, ih]
    | torn hbad _ ih => rw [hbad.decodeFrom_eq, ih]

/-! ### Two runs of octets -/

/-- The first octet of a character tells itself from the others. -/
theorem octets_range {c : Char} {b : UInt8} {more : List UInt8} (h : encodeChar c = b :: more) :
    (b.toNat < 0x80 ∨ 0xC0 ≤ b.toNat) ∧ ∀ d ∈ more, 0x80 ≤ d.toNat ∧ d.toNat < 0xC0 := by
  have htail (m : Nat) : 0x80 ≤ (tail m).toNat ∧ (tail m).toNat < 0xC0 := by
    rw [tail_toNat]
    omega
  have hcode : c.toNat < 0x110000 := by
    rcases c.valid with hvalid | hvalid <;> simp only [Char.toNat] <;> omega
  rw [encodeChar_eq] at h
  repeat' split at h
  all_goals
    obtain ⟨rfl, rfl⟩ := List.cons.inj h
    refine ⟨?_, by simp [htail]⟩
    rw [UInt8.toNat_ofNat']
    omega

theorem not_begins_of_first {c : Char} {b : UInt8} {bad more : List UInt8}
    (h : encodeChar c = b :: more) (hne : bad ≠ []) : ¬ Begins (bad ++ [b]) := by
  rintro ⟨d, rest, hd⟩
  cases bad with
  | nil => exact hne rfl
  | cons a bad =>
      have hfirst := (octets_range h).1
      have hother := (octets_range hd.symm).2 b (by simp)
      omega

namespace Lenient

variable {octets more : List UInt8} {cs ds : List CodePoint}

theorem text (cs : List Char) : Lenient mend (cs.flatMap encodeChar) (cs.map .scalar) :=
  decode_eq_iff.mp (decode_flatMap_encodeChar cs)

/-- What follows a text is read apart. -/
theorem text_append (h : Lenient mend more ds) (cs : List Char) :
    Lenient mend (cs.flatMap encodeChar ++ more) (cs.map .scalar ++ ds) := by
  induction cs with
  | nil => exact h
  | cons c cs ih =>
      rw [List.flatMap_cons, List.append_assoc]
      exact .char ih

/-- A text is read apart from what precedes it. -/
theorem append_text (h : Lenient mend octets cs) (ds : List Char) :
    Lenient mend (octets ++ ds.flatMap encodeChar) (cs ++ ds.map .scalar) := by
  induction h with
  | nil => exact .text ds
  | char _ ih =>
      rw [List.append_assoc]
      exact .char ih
  | @torn bad rest cs hbad _ ih =>
      rw [List.append_assoc, List.append_assoc]
      refine .torn ⟨hbad.ne_nil, hbad.part, hbad.not_whole, ?_⟩ ih
      intro b hb
      cases rest with
      | cons d rest => exact hbad.longest b hb
      | nil =>
          -- The text begins with the first octet of a character, which goes on with none.
          cases ds with
          | nil => simp at hb
          | cons d ds =>
              rcases encodeChar_cases d with ⟨e, he, -⟩ | ⟨e, _, _, he, -⟩
              all_goals
                obtain rfl : e = b := by simpa [he] using hb
                exact not_begins_of_first he hbad.ne_nil

/-- Two runs of octets are read apart if one of them is UTF-8. -/
theorem append (h : Lenient mend octets cs) (hmore : Lenient mend more ds)
    (hformed : WellFormed octets ∨ WellFormed more) :
    Lenient mend (octets ++ more) (cs ++ ds) := by
  have hchars {run : List UInt8} {read : List CodePoint} (hread : Lenient mend run read)
      (hrun : WellFormed run) :
      ∃ chars : List Char, run = chars.flatMap encodeChar ∧ read = chars.map .scalar := by
    obtain ⟨text, hencode⟩ := hrun
    obtain ⟨chars, -, rfl⟩ := encode_strict_eq_ok_iff.mp hencode
    exact ⟨chars, rfl, (decode_eq_iff.mpr hread).symm.trans (decode_flatMap_encodeChar chars)⟩
  rcases hformed with hformed | hformed
  · obtain ⟨chars, rfl, rfl⟩ := hchars h hformed
    exact hmore.text_append chars
  · obtain ⟨chars, rfl, rfl⟩ := hchars hmore hformed
    exact h.append_text chars

end Lenient

end Playbook.Text.Utf8
