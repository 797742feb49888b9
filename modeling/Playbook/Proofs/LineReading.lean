import Playbook.Proofs.Decodings
import Playbook.Reader

/-! # What a reader hands out

A reader hands out the lines of its medium one after another until nothing is left. As long as the
medium stays the same, it comes to the end just if the octets can be decoded, and then it hands out the
lines of the text that they are decoded to, whatever chunks the octets come in. It goes on only so many
times as thrice the number of octets, because every octet is taken once, is given up once if nothing
follows it, and is handed out once. -/

namespace Playbook

namespace Text

/-- Put a character in front of the first line. -/
def inFirstLine (c : CodePoint) : List (List CodePoint) → List (List CodePoint)
  | [] => [[c]]
  | line :: lines => (c :: line) :: lines

/-- The lines of a text without their ends; the last line need not have an end. -/
def splitLines (ends : LineEnds) : List CodePoint → List (List CodePoint)
  | [] => []
  | c :: cs =>
      if c = '\n' then [] :: splitLines ends cs
      else if ends.isReturn c then
        match cs with
        | [] => [[]]
        | d :: ds => [] :: if d = '\n' then splitLines ends ds else splitLines ends (d :: ds)
      else inFirstLine c (splitLines ends cs)

/-- The lines of a text. -/
def lines (ends : LineEnds) (text : Text) : List Text :=
  (splitLines ends text.toList).map Text.ofList

example : lines .universal "one\r\ntwo\rthree" = (["one", "two", "three"] : List Text) ∧
    lines .lineFeed "one\r\ntwo\rthree" = (["one\r", "two\rthree"] : List Text) := by
  decide +kernel

theorem splitLines_feed (ends : LineEnds) (cs : List CodePoint) :
    splitLines ends ('\n' :: cs) = [] :: splitLines ends cs := by
  cases cs <;> rfl

theorem splitLines_cons {ends : LineEnds} {c : CodePoint} (hfeed : c ≠ '\n')
    (hreturn : ¬ ends.isReturn c) (cs : List CodePoint) :
    splitLines ends (c :: cs) = inFirstLine c (splitLines ends cs) := by
  cases cs <;> simp only [splitLines, if_neg hfeed, if_neg hreturn]

end Text

namespace Reader

open Text (splitLines Decodes HeldBack)

variable {ends : LineEnds}

theorem cutLine_feed (cs : List CodePoint) : cutLine ends ('\n' :: cs) = some ([], cs) := by
  cases cs <;> rfl

/-- A character that ends no line comes first in the line. -/
theorem cutLine_cons {c : CodePoint} (hfeed : c ≠ '\n') (hreturn : ¬ ends.isReturn c)
    (cs : List CodePoint) :
    cutLine ends (c :: cs) = (cutLine ends cs).map fun cut => (c :: cut.1, cut.2) := by
  cases cs <;> simp only [cutLine, if_neg hfeed, if_neg hreturn]

/-- The line that is cut off is the first one of the text, whatever follows. -/
theorem splitLines_of_cutLine {cs line rest : List CodePoint}
    (h : cutLine ends cs = some (line, rest)) (more : List CodePoint) :
    splitLines ends (cs ++ more) = line :: splitLines ends (rest ++ more) ∧
      rest.length < cs.length := by
  induction cs using cutLine.induct ends generalizing line with
  | case1 => cases h
  | case2 cs =>
      rw [cutLine_feed] at h
      obtain ⟨rfl, rfl⟩ := Prod.mk.inj (Option.some.inj h)
      rw [List.cons_append, Text.splitLines_feed]
      exact ⟨rfl, Nat.lt_succ_self _⟩
  | case3 c hfeed hreturn =>
      rw [cutLine, if_neg hfeed, if_pos hreturn] at h
      cases h
  | case4 c hfeed hreturn d ds =>
      rw [cutLine, if_neg hfeed, if_pos hreturn] at h
      obtain ⟨rfl, rfl⟩ := Prod.mk.inj (Option.some.inj h)
      rw [List.cons_append, List.cons_append, splitLines, if_neg hfeed, if_pos hreturn]
      by_cases hd : d = '\n'
      · rw [if_pos hd, if_pos hd]
        exact ⟨rfl, by simp only [List.length_cons]; omega⟩
      · rw [if_neg hd, if_neg hd]
        exact ⟨rfl, Nat.lt_succ_self _⟩
  | case5 c cs hfeed hreturn ih =>
      rw [cutLine_cons hfeed hreturn] at h
      obtain ⟨⟨front, left⟩, hcut, hpair⟩ := Option.map_eq_some_iff.mp h
      obtain ⟨rfl, rfl⟩ := Prod.mk.inj hpair
      obtain ⟨hlines, hlength⟩ := ih hcut
      rw [List.cons_append, Text.splitLines_cons hfeed hreturn, hlines]
      exact ⟨rfl, Nat.lt_succ_of_lt hlength⟩

/-- The last line of a text is what stands before a carriage return that ends it. -/
def lastLine (ends : LineEnds) (cs : List CodePoint) : List CodePoint :=
  cs.takeWhile fun c => !ends.isReturn c

/-- A text without a complete line is one line, if there is any text. -/
theorem splitLines_of_not_cutLine {cs : List CodePoint} (h : cutLine ends cs = none) (hne : cs ≠ []) :
    splitLines ends cs = [lastLine ends cs] := by
  induction cs using cutLine.induct ends with
  | case1 => exact absurd rfl hne
  | case2 cs =>
      cases (cutLine_feed cs).symm.trans h
  | case3 c hfeed hreturn =>
      rw [splitLines, if_neg hfeed, if_pos hreturn, lastLine,
        List.takeWhile_cons_of_neg (by simp [hreturn])]
  | case4 c hfeed hreturn d ds =>
      rw [cutLine, if_neg hfeed, if_pos hreturn] at h
      cases h
  | case5 c cs hfeed hreturn ih =>
      rw [cutLine_cons hfeed hreturn] at h
      have hrest : cutLine ends cs = none := Option.map_eq_none_iff.mp h
      rw [Text.splitLines_cons hfeed hreturn, lastLine,
        List.takeWhile_cons_of_pos (by simpa using hreturn)]
      cases cs with
      | nil => rfl
      | cons d ds =>
          rw [ih hrest (List.cons_ne_nil d ds)]
          rfl

/-- What a reader comes to: it cuts off a line, takes a chunk that can be decoded, gives up octets that
nothing follows, hands out what is left as the last line, or has come to the end, unless the octets
cannot be decoded. -/
inductive Advanced (reader : Reader) (disk : Disk) : Advance → Prop
  | cut {line rest} (h : cutLine reader.format.ends reader.text = some (line, rest)) :
      Advanced reader disk (.line (Text.ofList line) { reader with text := rest })
  | taken {cs held} (hline : cutLine reader.format.ends reader.text = none)
      (hchunk : reader.chunk disk ≠ [])
      (hdecode : Text.decodePart reader.format.handler (reader.held ++ reader.chunk disk) =
        .ok (cs, held)) :
      Advanced reader disk
        (.more { reader with
          offset := reader.offset + (reader.chunk disk).length, held, text := reader.text ++ cs })
  | given {c cs} (hline : cutLine reader.format.ends reader.text = none)
      (hchunk : reader.chunk disk = [])
      (hdecode : Text.decodeHeld reader.format.handler reader.held = .ok (c :: cs)) :
      Advanced reader disk (.more { reader with held := [], text := reader.text ++ c :: cs })
  | last (hline : cutLine reader.format.ends reader.text = none) (hchunk : reader.chunk disk = [])
      (hdecode : Text.decodeHeld reader.format.handler reader.held = .ok [])
      (htext : reader.text ≠ []) :
      Advanced reader disk
        (.line (Text.ofList (lastLine reader.format.ends reader.text)) { reader with text := [] })
  | done (hchunk : reader.chunk disk = [])
      (hdecode : Text.decodeHeld reader.format.handler reader.held = .ok [])
      (htext : reader.text = []) : Advanced reader disk .done
  | broken (fault : Text.Utf8.Fault) : Advanced reader disk (.broken fault)

section Advance

variable {reader next : Reader} {disk : Disk} {line : Text}

theorem advance_of_cut {front rest : List CodePoint}
    (h : cutLine reader.format.ends reader.text = some (front, rest)) (disk : Disk) :
    reader.advance disk = .line (Text.ofList front) { reader with text := rest } := by
  rw [advance, h]

theorem advance_of_chunk (hline : cutLine reader.format.ends reader.text = none)
    (hchunk : reader.chunk disk ≠ []) :
    reader.advance disk = reader.take (reader.chunk disk) := by
  rw [advance, hline]
  exact if_neg (by simpa using hchunk)

theorem advance_of_end (hline : cutLine reader.format.ends reader.text = none)
    (hchunk : reader.chunk disk = []) :
    reader.advance disk = reader.finish := by
  rw [advance, hline]
  exact if_pos (by simpa using hchunk)

theorem finish_of_nothing (hdecode : Text.decodeHeld reader.format.handler reader.held = .ok []) :
    reader.finish =
      if reader.text.isEmpty then .done
      else
        .line (Text.ofList (lastLine reader.format.ends reader.text)) { reader with text := [] } := by
  rw [finish, hdecode]
  rfl

theorem advance_eq_done (hchunk : reader.chunk disk = [])
    (hdecode : Text.decodeHeld reader.format.handler reader.held = .ok [])
    (htext : reader.text = []) : reader.advance disk = .done := by
  have hcut : cutLine reader.format.ends reader.text = none := by rw [htext, cutLine]
  rw [advance_of_end hcut hchunk, finish_of_nothing hdecode, htext]
  rfl

/-- Every way to go on is one of these. -/
theorem advanced (reader : Reader) (disk : Disk) : Advanced reader disk (reader.advance disk) := by
  cases hline : cutLine reader.format.ends reader.text with
  | some cut =>
      rw [advance_of_cut hline]
      exact .cut hline
  | none =>
      by_cases hchunk : reader.chunk disk = []
      · rw [advance_of_end hline hchunk]
        cases hdecode : Text.decodeHeld reader.format.handler reader.held with
        | error fault =>
            rw [finish, hdecode]
            exact .broken fault
        | ok cs =>
            cases cs with
            | cons c cs =>
                rw [finish, hdecode]
                exact .given hline hchunk hdecode
            | nil =>
                rw [finish_of_nothing hdecode]
                split
                · rename_i htext
                  exact .done hchunk hdecode (List.isEmpty_iff.mp htext)
                · rename_i htext
                  exact .last hline hchunk hdecode (by simpa using htext)
      · rw [advance_of_chunk hline hchunk, take]
        split
        · exact .broken _
        · rename_i cs held hdecode
          exact .taken hline hchunk hdecode

/-- What is still ahead of a reader on a medium with a greatest number of octets. -/
def remaining (limit : Nat) (reader : Reader) : Nat :=
  3 * (limit - reader.offset) + 2 * reader.held.length + reader.text.length

theorem remaining_of_more {limit : Nat} (hlimit : (reader.medium.content disk).length ≤ limit)
    (h : reader.advance disk = .more next) :
    next.medium = reader.medium ∧ next.format = reader.format ∧
      next.remaining limit < reader.remaining limit := by
  have hadvanced := reader.advanced disk
  rw [h] at hadvanced
  cases hadvanced with
  | taken hline hchunk hdecode =>
      have hlength := Text.length_of_decodePart hdecode
      have htaken : 0 < (reader.chunk disk).length := List.length_pos_iff.mpr hchunk
      have hfits : (reader.chunk disk).length ≤ (reader.medium.content disk).length - reader.offset := by
        rw [chunk, List.length_take, List.length_drop]
        omega
      rw [List.length_append] at hlength
      refine ⟨rfl, rfl, ?_⟩
      simp only [remaining, List.length_append]
      omega
  | given hline hchunk hdecode =>
      have hlength := Text.length_of_decodeHeld hdecode
      refine ⟨rfl, rfl, ?_⟩
      simp only [remaining, List.length_append, List.length_cons, List.length_nil] at hlength ⊢
      omega

theorem remaining_of_line (limit : Nat) (h : reader.advance disk = .line line next) :
    next.medium = reader.medium ∧ next.format = reader.format ∧
      next.remaining limit < reader.remaining limit := by
  have hadvanced := reader.advanced disk
  rw [h] at hadvanced
  cases hadvanced with
  | cut hcut => exact ⟨rfl, rfl, Nat.add_lt_add_left (splitLines_of_cutLine hcut []).2 _⟩
  | last _ _ _ htext => exact ⟨rfl, rfl, Nat.add_lt_add_left (List.length_pos_iff.mpr htext) _⟩

end Advance

/-- A reader hands out lines and comes to the end. With each line stands the disk that the reader goes
on with when that line has been taken. -/
inductive Hands : Reader → Disk → List (Text × Disk) → Prop
  | done {reader disk} (h : reader.advance disk = .done) : Hands reader disk []
  | more {reader disk next schedule} (h : reader.advance disk = .more next)
      (rest : Hands next disk schedule) : Hands reader disk schedule
  | line {reader disk line next later schedule} (h : reader.advance disk = .line line next)
      (rest : Hands next later schedule) : Hands reader disk ((line, later) :: schedule)

section Hands

variable {reader : Reader} {disk : Disk} {schedule : List (Text × Disk)} {content : List UInt8}

theorem chunk_eq_nil_iff :
    reader.chunk disk = [] ↔ (reader.medium.content disk).drop reader.offset = [] :=
  List.take_eq_nil_iff.trans (or_iff_right (by decide))

theorem drop_of_chunk_eq_nil (hdisk : reader.medium.content disk = content)
    (hchunk : reader.chunk disk = []) : content.drop reader.offset = [] :=
  hdisk ▸ chunk_eq_nil_iff.mp hchunk

/-- What follows a chunk is what follows the octets that have then been taken. -/
theorem chunk_append_drop (reader : Reader) (disk : Disk) :
    reader.chunk disk ++ (reader.medium.content disk).drop
        (reader.offset + (reader.chunk disk).length) =
      (reader.medium.content disk).drop reader.offset := by
  rw [← List.drop_drop]
  exact List.prefix_iff_eq_append.mp (List.take_prefix _ _)

theorem hands_iff_of_done (h : reader.advance disk = .done) :
    Hands reader disk schedule ↔ schedule = [] := by
  constructor
  · intro hands
    cases hands with
    | done => rfl
    | more hmore => cases h.symm.trans hmore
    | line hline => cases h.symm.trans hline
  · rintro rfl
    exact .done h

theorem hands_iff_of_more {next : Reader} (h : reader.advance disk = .more next) :
    Hands reader disk schedule ↔ Hands next disk schedule := by
  constructor
  · intro hands
    cases hands with
    | done hdone => cases h.symm.trans hdone
    | more hmore rest =>
        obtain rfl := Advance.more.inj (h.symm.trans hmore)
        exact rest
    | line hline => cases h.symm.trans hline
  · exact .more h

theorem hands_iff_of_line {line : Text} {next : Reader} (h : reader.advance disk = .line line next) :
    Hands reader disk schedule ↔
      ∃ later rest, schedule = (line, later) :: rest ∧ Hands next later rest := by
  constructor
  · intro hands
    cases hands with
    | done hdone => cases h.symm.trans hdone
    | more hmore => cases h.symm.trans hmore
    | line hline rest =>
        obtain ⟨rfl, rfl⟩ := Advance.line.inj (h.symm.trans hline)
        exact ⟨_, _, rfl, rest⟩
  · rintro ⟨later, rest, rfl, hrest⟩
    exact .line h hrest

theorem not_hands_of_broken {fault : Text.Utf8.Fault} (h : reader.advance disk = .broken fault) :
    ¬ Hands reader disk schedule := by
  intro hands
  cases hands with
  | done hdone => cases h.symm.trans hdone
  | more hmore => cases h.symm.trans hmore
  | line hline => cases h.symm.trans hline

/-- The octets ahead of a reader that comes to the end can be decoded, and the lines that it hands out
are those of what they are decoded to behind the text that it holds. -/
theorem Hands.text (h : Hands reader disk schedule) (hdisk : reader.medium.content disk = content)
    (hsame : ∀ entry ∈ schedule, reader.medium.content entry.2 = content)
    (hheld : HeldBack reader.format.handler reader.held) :
    ∃ rest, Decodes reader.format.handler (reader.held ++ content.drop reader.offset) rest ∧
      schedule.map Prod.fst = (splitLines reader.format.ends (reader.text ++ rest)).map Text.ofList := by
  induction h with
  | @done reader disk hdone =>
      have hadvanced := reader.advanced disk
      rw [hdone] at hadvanced
      cases hadvanced with
      | done hchunk hdecode htext =>
          refine ⟨[], ?_, by rw [htext]; rfl⟩
          rw [drop_of_chunk_eq_nil hdisk hchunk, List.append_nil]
          exact hheld.decodeHeld_eq_ok_iff.mp hdecode
  | @more reader disk next schedule hmore _ ih =>
      have hadvanced := reader.advanced disk
      rw [hmore] at hadvanced
      cases hadvanced with
      | @taken cs held hline hchunk hdecode =>
          obtain ⟨rest, hrest, hlines⟩ := ih hdisk hsame (Text.heldBack_of_decodePart hdecode)
          dsimp only at hrest hlines
          refine ⟨cs ++ rest, ?_, by rw [hlines, List.append_assoc]⟩
          rw [← hdisk, ← chunk_append_drop, ← List.append_assoc]
          exact Decodes.of_decodePart hdecode (hdisk ▸ hrest)
      | @given c cs hline hchunk hdecode =>
          have hnothing := drop_of_chunk_eq_nil hdisk hchunk
          obtain ⟨rest, hrest, hlines⟩ := ih hdisk hsame (Text.heldBack_nil _)
          dsimp only at hrest hlines
          rw [hnothing] at hrest ⊢
          obtain rfl := Text.eq_nil_of_decodes hrest
          rw [List.append_nil] at hlines ⊢
          exact ⟨c :: cs, hheld.decodeHeld_eq_ok_iff.mp hdecode, hlines⟩
  | @line reader disk line next later schedule hline _ ih =>
      have hadvanced := reader.advanced disk
      have hnext := (remaining_of_line 0 hline).1
      obtain ⟨hlater, hleft⟩ := List.forall_mem_cons.mp hsame
      rw [hline] at hadvanced
      cases hadvanced with
      | cut hcut =>
          obtain ⟨rest, hrest, hlines⟩ := ih (hnext ▸ hlater) (hnext ▸ hleft) hheld
          refine ⟨rest, hrest, ?_⟩
          rw [List.map_cons, hlines, (splitLines_of_cutLine hcut rest).1]
          rfl
      | last hcut hchunk hdecode htext =>
          have hnothing := drop_of_chunk_eq_nil hdisk hchunk
          obtain ⟨rest, hrest, hlines⟩ := ih (hnext ▸ hlater) (hnext ▸ hleft) hheld
          refine ⟨rest, hrest, ?_⟩
          dsimp only at hrest hlines
          rw [hnothing, List.append_nil] at hrest
          obtain rfl := hrest.unique (hheld.decodeHeld_eq_ok_iff.mp hdecode)
          rw [List.append_nil, splitLines_of_not_cutLine hcut htext, List.map_cons, hlines]
          rfl

/-- When no octets follow and none are held back, what is left is handed out. -/
theorem hands_at_end (hcut : cutLine reader.format.ends reader.text = none)
    (hdecode : Text.decodeHeld reader.format.handler reader.held = .ok [])
    (hchunk : reader.chunk disk = []) (hsame : ∀ entry ∈ schedule, reader.chunk entry.2 = [])
    (hlines : schedule.map Prod.fst =
      (splitLines reader.format.ends reader.text).map Text.ofList) :
    Hands reader disk schedule := by
  by_cases htext : reader.text = []
  · rw [htext] at hlines
    obtain rfl := List.map_eq_nil_iff.mp hlines
    exact .done (advance_eq_done hchunk hdecode htext)
  · have hadvance := advance_of_end hcut hchunk
    rw [finish_of_nothing hdecode, if_neg (by simpa using htext)] at hadvance
    rw [splitLines_of_not_cutLine hcut htext] at hlines
    obtain ⟨⟨line, later⟩, schedule, rfl, hline, hleft⟩ := List.map_eq_cons_iff.mp hlines
    obtain rfl := List.map_eq_nil_iff.mp hleft
    dsimp only at hline
    subst hline
    have hlater : reader.chunk later = [] := hsame _ List.mem_cons_self
    exact .line hadvance (.done (advance_eq_done hlater hdecode rfl))

/-- A reader whose octets ahead can be decoded comes to the end and hands out the lines of the text. -/
theorem hands_of_decodes (hdisk : reader.medium.content disk = content)
    (hsame : ∀ entry ∈ schedule, reader.medium.content entry.2 = content)
    (hheld : HeldBack reader.format.handler reader.held) {rest : List CodePoint}
    (hdecodes : Decodes reader.format.handler (reader.held ++ content.drop reader.offset) rest)
    (hlines : schedule.map Prod.fst =
      (splitLines reader.format.ends (reader.text ++ rest)).map Text.ofList) :
    Hands reader disk schedule := by
  -- What is still ahead becomes less each time that the reader goes on.
  induction hahead : reader.remaining content.length using Nat.strongRecOn
    generalizing reader disk schedule rest with
  | _ ahead ih =>
      have hfits := Nat.le_of_eq (congrArg List.length hdisk)
      cases hcut : cutLine reader.format.ends reader.text with
      | some cut =>
          obtain ⟨front, left⟩ := cut
          have hadvance := advance_of_cut hcut disk
          have hless := (remaining_of_line content.length hadvance).2.2
          rw [(splitLines_of_cutLine hcut rest).1, List.map_cons] at hlines
          obtain ⟨⟨line, later⟩, schedule, rfl, hline, hleft⟩ := List.map_eq_cons_iff.mp hlines
          obtain ⟨hlater, hrest⟩ := List.forall_mem_cons.mp hsame
          dsimp only at hline
          subst hline
          exact .line hadvance (ih _ (hahead ▸ hless) hlater hrest hheld hdecodes hleft rfl)
      | none =>
          by_cases hchunk : reader.chunk disk = []
          · -- No octets follow, so that those held back are given up.
            have hnothing := drop_of_chunk_eq_nil hdisk hchunk
            rw [hnothing, List.append_nil] at hdecodes
            have hdecode := hheld.decodeHeld_eq_ok_iff.mpr hdecodes
            cases rest with
            | nil =>
                rw [List.append_nil] at hlines
                refine hands_at_end hcut hdecode hchunk (fun entry hentry => ?_) hlines
                rw [chunk_eq_nil_iff, hsame entry hentry, hnothing]
            | cons c cs =>
                have hadvance := advance_of_end hcut hchunk
                rw [finish, hdecode] at hadvance
                have hless := (remaining_of_more hfits hadvance).2.2
                have hend : Decodes reader.format.handler ([] ++ content.drop reader.offset) [] := by
                  rw [hnothing]
                  exact Text.decodes_nil _
                refine .more hadvance
                  (ih _ (hahead ▸ hless) hdisk hsame (Text.heldBack_nil _) hend ?_ rfl)
                rw [hlines, List.append_nil]
          · have hsplit : reader.held ++ content.drop reader.offset =
                (reader.held ++ reader.chunk disk) ++
                  content.drop (reader.offset + (reader.chunk disk).length) := by
              rw [← hdisk, ← chunk_append_drop reader disk, List.append_assoc]
            rw [hsplit] at hdecodes
            obtain ⟨cs, held, left, hdecode, rfl, hleft⟩ := hdecodes.exists_decodePart
            have hadvance := advance_of_chunk hcut hchunk
            rw [take, hdecode] at hadvance
            have hless := (remaining_of_more hfits hadvance).2.2
            rw [← List.append_assoc] at hlines
            exact .more hadvance
              (ih _ (hahead ▸ hless) hdisk hsame (Text.heldBack_of_decodePart hdecode) hleft hlines rfl)

/-- On a medium that stays the same, a reader at the beginning comes to the end just if the octets can be
decoded, and it hands out the lines of the text that they are decoded to. -/
theorem hands_new_iff {medium : Medium} {format : LineFormat} (hdisk : medium.content disk = content)
    (hsame : ∀ entry ∈ schedule, medium.content entry.2 = content) :
    Hands (new medium format) disk schedule ↔
      ∃ text : Text, Decodes format.handler content text.toList ∧
        schedule.map Prod.fst = Text.lines format.ends text := by
  constructor
  · intro h
    obtain ⟨rest, hdecodes, hlines⟩ := h.text hdisk hsame (Text.heldBack_nil _)
    exact ⟨Text.ofList rest, hdecodes, hlines⟩
  · rintro ⟨text, hdecodes, hlines⟩
    exact hands_of_decodes hdisk hsame (Text.heldBack_nil _) hdecodes hlines

end Hands

end Reader

end Playbook
