import Playbook.Proofs.Encodings
import Playbook.Proofs.LenientUtf8

/-! # Octets that come in chunks

A coder makes the same of octets whatever chunks they come in: the characters of a chunk are those with
which the whole begins, and what it holds back is decoded again in front of the next chunk. A strict
coder makes something of the octets of a text only. The other one makes something of all octets, since
surrogates stand for those that are no UTF-8.

## Implementation notes

Of the decoder's states those are meant that the octets taken lead to: from them the decoder goes on as
it does from the beginning with these octets in front. -/

namespace Playbook.Text

namespace Utf8

variable {mend : Mending} {octets : List UInt8} {p : Pending}

/-- A state to which the octets taken lead. -/
def Reached (state : Option Pending) : Prop := ∀ p ∈ state, Held p.taken p

theorem Held.reached (h : Held octets p) : Reached (some p) := by
  rintro _ ⟨⟩
  rwa [h.valid.2]

theorem reached_fresh (b : UInt8) : Reached (fresh mend b).2 := by
  rw [fresh]
  split
  · simp [Reached]
  · rename_i hstart
    exact (Held.first hstart).reached
  · simp [Reached]

theorem reached_feed {state : Option Pending} (h : Reached state) (b : UInt8) :
    Reached (feed mend state b).2 := by
  cases state with
  | none => exact reached_fresh b
  | some p =>
      rw [feed]
      split
      · simp [Reached]
      · rename_i hextend
        exact ((h p rfl).more hextend).reached
      · exact reached_fresh b

theorem decodePartFrom_cons (state : Option Pending) (b : UInt8) (bs : List UInt8) :
    decodePartFrom mend state (b :: bs) =
      ((feed mend state b).1 ++ (decodePartFrom mend (feed mend state b).2 bs).1,
        (decodePartFrom mend (feed mend state b).2 bs).2) := by
  cases state <;> rw [decodePartFrom]

/-- What a chunk is decoded to comes first, and what is held back is decoded with what follows. -/
theorem decodeFrom_append {state : Option Pending} (h : Reached state) (bytes more : List UInt8) :
    decodeFrom mend state (bytes ++ more) =
      (decodePartFrom mend state bytes).1 ++
        decodeFrom mend none ((decodePartFrom mend state bytes).2 ++ more) := by
  induction bytes generalizing state with
  | nil =>
      cases state with
      | none => rfl
      | some p => exact ((h p rfl).decodeFrom_eq more).symm
  | cons b bs ih =>
      have hfeed : decodeFrom mend state (b :: (bs ++ more)) =
          (feed mend state b).1 ++ decodeFrom mend (feed mend state b).2 (bs ++ more) := by
        cases state <;> rw [decodeFrom]
      rw [List.cons_append, hfeed, ih (reached_feed h b), decodePartFrom_cons, List.append_assoc]

/-- What is held back leads to a character in progress. -/
theorem held_decodePartFrom {state : Option Pending} (h : Reached state) (bytes : List UInt8) :
    (decodePartFrom mend state bytes).2 = [] ∨ ∃ p, Held (decodePartFrom mend state bytes).2 p := by
  induction bytes generalizing state with
  | nil =>
      cases state with
      | none => exact .inl rfl
      | some p => exact .inr ⟨p, h p rfl⟩
  | cons b bs ih =>
      rw [decodePartFrom_cons]
      exact ih (reached_feed h b)

/-- It is held back again. -/
theorem Held.decodePartFrom_eq (h : Held octets p) (rest : List UInt8) :
    decodePartFrom mend none (octets ++ rest) = decodePartFrom mend (some p) rest := by
  induction h generalizing rest with
  | first hstart =>
      rw [List.singleton_append, decodePartFrom_cons, feed, fresh, hstart]
      rfl
  | more _ hextend ih =>
      rw [List.append_assoc, ih, List.singleton_append, decodePartFrom_cons, feed, hextend]
      rfl

theorem length_fresh_escape (b : UInt8) :
    (fresh escape b).1.length + (taken (fresh escape b).2).length ≤ 1 := by
  rw [fresh]
  split
  · simp [taken]
  · rename_i p hstart
    simp [taken, (Held.first hstart).valid.2]
  · simp [taken, escape]

theorem length_feed_escape {state : Option Pending} (h : Reached state) (b : UInt8) :
    (feed escape state b).1.length + (taken (feed escape state b).2).length ≤
      (taken state).length + 1 := by
  have hfresh := length_fresh_escape b
  cases state with
  | none => exact hfresh
  | some p =>
      rw [feed]
      split
      · simp [taken]
      · rename_i hextend
        simp [taken, ((h p rfl).more hextend).valid.2]
      · simp only [List.length_append, escape, List.length_map, taken, Option.map_some,
          Option.getD_some] at hfresh ⊢
        omega

/-- There are at least as many octets as surrogates and characters and octets held back. -/
theorem length_decodePartFrom {state : Option Pending} (h : Reached state) (bytes : List UInt8) :
    (decodePartFrom escape state bytes).1.length + (decodePartFrom escape state bytes).2.length ≤
      (taken state).length + bytes.length := by
  induction bytes generalizing state with
  | nil => cases state <;> simp [decodePartFrom, taken]
  | cons b bs ih =>
      have hfeed := length_feed_escape h b
      have hreached : Reached (feed escape state b).2 := reached_feed h b
      have hrest := ih hreached
      simp only [decodePartFrom_cons, List.length_append, List.length_cons]
      omega

end Utf8

open Utf8 (Reads encodeChar decodeStrict_eq_ok_iff)

/-- What octets are decoded to if no more follow. -/
def Decodes (handler : ErrorHandler) (octets : List UInt8) (cs : List CodePoint) : Prop :=
  match handler with
  | .strict => (ofList cs).encode .strict = .ok octets
  | .escape => Utf8.Lenient Utf8.escape octets cs

/-- Octets that are held back again when they are decoded. -/
def HeldBack (handler : ErrorHandler) (held : List UInt8) : Prop :=
  decodePart handler held = .ok ([], held)

variable {handler : ErrorHandler} {octets more held : List UInt8} {cs rest : List CodePoint}

theorem decodes_strict_iff :
    Decodes .strict octets cs ↔
      ∃ chars : List Char, cs = chars.map .scalar ∧ octets = chars.flatMap encodeChar := by
  rw [Decodes, encode_strict_eq_ok_iff]
  simp [eq_comm]

theorem decodePart_strict_eq_ok_iff :
    decodePart .strict octets = .ok (cs, held) ↔
      ∃ chars : List Char, cs = chars.map .scalar ∧ Reads none octets chars held := by
  rw [decodePart, map_eq_ok]
  constructor
  · rintro ⟨⟨chars, left⟩, hread, hresult⟩
    obtain ⟨rfl, rfl⟩ := Prod.mk.inj hresult
    exact ⟨chars, rfl, decodeStrict_eq_ok_iff.mp hread⟩
  · rintro ⟨chars, rfl, hread⟩
    exact ⟨(chars, held), decodeStrict_eq_ok_iff.mpr hread, rfl⟩

theorem decodes_escape_iff : Decodes .escape octets cs ↔ Utf8.decode Utf8.escape octets = cs :=
  Utf8.decode_eq_iff.symm

theorem decodePart_escape_eq_ok_iff :
    decodePart .escape octets = .ok (cs, held) ↔ Utf8.decodePart Utf8.escape octets = (cs, held) := by
  rw [decodePart]
  exact ⟨Except.ok.inj, congrArg Except.ok⟩

/-- What a chunk is decoded to and what the rest is decoded to make up what all is decoded to. -/
theorem Decodes.of_decodePart (hpart : decodePart handler octets = .ok (cs, held))
    (h : Decodes handler (held ++ more) rest) : Decodes handler (octets ++ more) (cs ++ rest) := by
  cases handler with
  | strict =>
      obtain ⟨chars, rfl, hread⟩ := decodePart_strict_eq_ok_iff.mp hpart
      obtain ⟨others, rfl, hothers⟩ := decodes_strict_iff.mp h
      have hoctets : octets = chars.flatMap encodeChar ++ held := hread.octets (by simp)
      refine decodes_strict_iff.mpr ⟨chars ++ others, by rw [List.map_append], ?_⟩
      rw [hoctets, List.append_assoc, hothers, List.flatMap_append]
  | escape =>
      rw [decodePart_escape_eq_ok_iff, Utf8.decodePart] at hpart
      rw [decodes_escape_iff, Utf8.decode] at h ⊢
      rw [Utf8.decodeFrom_append (by simp [Utf8.Reached]), hpart, h]

/-- A chunk of octets that are decoded is decoded, and so is the rest. -/
theorem Decodes.exists_decodePart (h : Decodes handler (octets ++ more) cs) :
    ∃ front held rest, decodePart handler octets = .ok (front, held) ∧ cs = front ++ rest ∧
      Decodes handler (held ++ more) rest := by
  cases handler with
  | strict =>
      obtain ⟨chars, rfl, hoctets⟩ := decodes_strict_iff.mp h
      obtain ⟨front, held, hread⟩ := Utf8.reads_of_append hoctets
      obtain ⟨rest, rfl, hrest⟩ := hread.rest hoctets
      exact ⟨_, held, _, decodePart_strict_eq_ok_iff.mpr ⟨front, rfl, hread⟩, List.map_append,
        decodes_strict_iff.mpr ⟨rest, rfl, hrest⟩⟩
  | escape =>
      rw [decodes_escape_iff, Utf8.decode, Utf8.decodeFrom_append (by simp [Utf8.Reached])] at h
      exact ⟨_, _, _, decodePart_escape_eq_ok_iff.mpr rfl, h.symm, decodes_escape_iff.mpr rfl⟩

theorem decodes_nil (handler : ErrorHandler) : Decodes handler [] [] := by
  cases handler with
  | strict => rfl
  | escape => exact .nil

/-- Octets are decoded to one text. -/
theorem Decodes.unique {others : List CodePoint} (h : Decodes handler octets cs)
    (hothers : Decodes handler octets others) : cs = others := by
  cases handler with
  | strict =>
      obtain ⟨chars, rfl, rfl⟩ := decodes_strict_iff.mp h
      obtain ⟨more, rfl, hmore⟩ := decodes_strict_iff.mp hothers
      have hread : Utf8.decode Utf8.replace (more.flatMap encodeChar) = _ :=
        Utf8.decode_flatMap_encodeChar more
      rw [← hmore, Utf8.decode_flatMap_encodeChar] at hread
      exact hread
  | escape => exact (decodes_escape_iff.mp h).symm.trans (decodes_escape_iff.mp hothers)

theorem eq_nil_of_decodes (h : Decodes handler [] cs) : cs = [] := h.unique (decodes_nil handler)

/-- What is held back is nothing, or a coder that lets octets pass waits for the rest of a character. -/
theorem held_of_decodePart (h : decodePart .escape octets = .ok (cs, held)) :
    held = [] ∨ ∃ p, Utf8.Held held p := by
  rw [decodePart_escape_eq_ok_iff, Utf8.decodePart] at h
  have hreached : Utf8.Reached none := by simp [Utf8.Reached]
  have hheld : (Utf8.decodePartFrom Utf8.escape none octets).2 = [] ∨
      ∃ p, Utf8.Held (Utf8.decodePartFrom Utf8.escape none octets).2 p :=
    Utf8.held_decodePartFrom hreached octets
  rwa [h] at hheld

theorem heldBack_of_decodePart (h : decodePart handler octets = .ok (cs, held)) :
    HeldBack handler held := by
  cases handler with
  | strict =>
      obtain ⟨chars, -, hread⟩ := decodePart_strict_eq_ok_iff.mp h
      exact decodePart_strict_eq_ok_iff.mpr ⟨[], rfl, hread.heldBack⟩
  | escape =>
      rw [HeldBack, decodePart_escape_eq_ok_iff, Utf8.decodePart]
      rcases held_of_decodePart h with rfl | ⟨p, hheld⟩
      · rfl
      · have hagain : Utf8.decodePartFrom Utf8.escape none (held ++ []) = _ := hheld.decodePartFrom_eq []
        rwa [List.append_nil, Utf8.decodePartFrom, hheld.valid.2] at hagain

theorem heldBack_nil (handler : ErrorHandler) : HeldBack handler [] := by
  cases handler <;> rfl

/-- When no more octets follow, what was held back is decoded as what it is alone. -/
theorem HeldBack.decodeHeld_eq_ok_iff (h : HeldBack handler held) :
    decodeHeld handler held = .ok cs ↔ Decodes handler held cs := by
  cases handler with
  | strict =>
      obtain ⟨chars, hnil, hread⟩ := decodePart_strict_eq_ok_iff.mp h
      obtain rfl : chars = [] := List.map_eq_nil_iff.mp hnil.symm
      rw [decodes_strict_iff]
      constructor
      · intro hdecode
        cases held with
        | nil => exact ⟨[], (Except.ok.inj hdecode).symm, rfl⟩
        | cons b bs =>
            obtain ⟨fault, hfault⟩ : ∃ fault, Utf8.cutOff? (b :: bs) = some fault := by
              rw [Utf8.cutOff?]
              split <;> exact ⟨_, rfl⟩
            simp only [decodeHeld, hfault] at hdecode
            cases hdecode
      · rintro ⟨chars, rfl, hoctets⟩
        obtain rfl := hread.eq_nil_of_heldBack hoctets
        obtain rfl := Utf8.eq_nil_of_octets hoctets
        rfl
  | escape =>
      have hdecode : decodeHeld .escape held = .ok (Utf8.escape held) := rfl
      have halone : Utf8.decodeFrom Utf8.escape none held = Utf8.escape held := by
        rcases held_of_decodePart h with rfl | ⟨p, hheld⟩
        · rfl
        · have hend : Utf8.decodeFrom Utf8.escape none (held ++ []) = _ := hheld.decodeFrom_eq []
          rwa [List.append_nil, Utf8.decodeFrom, hheld.valid.2] at hend
      rw [hdecode, decodes_escape_iff, Utf8.decode, halone]
      exact ⟨Except.ok.inj, congrArg Except.ok⟩

/-- There are at least as many octets as code points and octets held back. -/
theorem length_of_decodePart (h : decodePart handler octets = .ok (cs, held)) :
    cs.length + held.length ≤ octets.length := by
  cases handler with
  | strict =>
      obtain ⟨chars, rfl, hread⟩ := decodePart_strict_eq_ok_iff.mp h
      rw [List.length_map]
      exact hread.length_le
  | escape =>
      rw [decodePart_escape_eq_ok_iff, Utf8.decodePart] at h
      have hlength := Utf8.length_decodePartFrom (by simp [Utf8.Reached] : Utf8.Reached none) octets
      rw [h] at hlength
      simpa [Utf8.taken] using hlength

theorem length_of_decodeHeld (h : decodeHeld handler held = .ok cs) : cs.length ≤ held.length := by
  unfold decodeHeld at h
  split at h
  · cases h
  · obtain rfl := Except.ok.inj h
    simp [Utf8.escape]

end Playbook.Text
