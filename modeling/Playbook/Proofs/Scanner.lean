import Playbook.Proofs.Outcome
import Playbook.Proofs.Pending

/-! # The scanner on texts that are read in pieces

Scanning a text in two pieces is scanning it at once, because the token in progress is all that the
scanner remembers. One character keeps the invariant that the characters read so far are the tokens
completed, blank characters between them and the characters held; by induction a whole text does.

## Implementation notes

The invariant names the position at which the characters held began, so that a step lemma speaks of
them alone and runs compose by appending tilings. -/

namespace Playbook.Token

open Text

variable {state next : Option Pending} {position start : Nat} {tokens more : List Token}

/-- Take characters: the tokens that they complete and the token left in progress. -/
def feedAll (state : Option Pending) (position : Nat) :
    List CodePoint → Except Unterminated (List Token × Option Pending)
  | [] => .ok ([], state)
  | c :: cs => do
      let (tokens, next) ← feed state position c
      let (more, last) ← feedAll next (position + 1) cs
      return (tokens ++ more, last)

/-- The tokens that a token in progress, if any, makes at the end of a text. -/
def settle : Option Pending → Except Unterminated (List Token)
  | none => .ok []
  | some p => p.finish.map ([·])

theorem scanFrom_nil (state : Option Pending) (position : Nat) :
    scanFrom state position [] = settle state := by
  cases state <;> rfl

theorem scanFrom_cons_of_ok {c : CodePoint} (h : feed state position c = .ok (tokens, next))
    (cs : List CodePoint) :
    scanFrom state position (c :: cs) = (scanFrom next (position + 1) cs).map (tokens ++ ·) := by
  simp only [scanFrom, h, ok_bind, pure_eq_ok, bind_ok_eq_map]

theorem scanFrom_cons_of_error {c : CodePoint} {fault : Unterminated}
    (h : feed state position c = .error fault) (cs : List CodePoint) :
    scanFrom state position (c :: cs) = .error fault := by
  simp only [scanFrom, h, error_bind]

theorem feed_of_grows {p q : Pending} {c : CodePoint} (h : p.effect c = .grows q) (position : Nat) :
    feed (some p) position c = .ok ([], some q) := by
  simp only [feed, h]

theorem feed_of_parts {p : Pending} {c : CodePoint} {token : Token} (h : p.effect c = .parts)
    (hfinish : p.finish = .ok token) (position : Nat) :
    feed (some p) position c = .ok (token :: (fresh position c).1, (fresh position c).2) := by
  simp only [feed, h, hfinish, ok_bind, pure_eq_ok]

theorem feed_of_breaks {p : Pending} {c : CodePoint} (h : p.effect c = .breaks) {fault : Unterminated}
    (hfinish : p.finish = .error fault) (position : Nat) :
    feed (some p) position c = .error fault := by
  simp only [feed, h, hfinish, map_error]

/-- A character that a token in progress takes along changes nothing else. -/
theorem scanFrom_of_grows {p q : Pending} {c : CodePoint} (h : p.effect c = .grows q)
    (cs : List CodePoint) :
    scanFrom (some p) position (c :: cs) = scanFrom (some q) (position + 1) cs := by
  rw [scanFrom_cons_of_ok (feed_of_grows h position)]
  exact map_id' _

/-- After a token was closed the rest is scanned afresh. -/
theorem scanFrom_of_closes {p : Pending} {c : CodePoint} {token : Token}
    (h : p.effect c = .closes token) (cs : List CodePoint) :
    scanFrom (some p) position (c :: cs) =
      (scanFrom none (position + 1) cs).map (token :: ·) := by
  have hfeed : feed (some p) position c = .ok ([token], none) := by simp only [feed, h]
  rw [scanFrom_cons_of_ok hfeed]
  rfl

/-- A token that ended before a character leaves that character to be scanned afresh. -/
theorem scanFrom_of_parts {p : Pending} {c : CodePoint} {token : Token} (h : p.effect c = .parts)
    (hfinish : p.finish = .ok token) (cs : List CodePoint) :
    scanFrom (some p) position (c :: cs) =
      (scanFrom none position (c :: cs)).map (token :: ·) := by
  have hfresh : feed none position c = .ok ((fresh position c).1, (fresh position c).2) := rfl
  rw [scanFrom_cons_of_ok (feed_of_parts h hfinish position), scanFrom_cons_of_ok hfresh, map_map]
  rfl

/-- What a character between two tokens begins is scanned on. -/
theorem scanFrom_of_fresh {c : CodePoint} {next : Option Pending} (h : fresh position c = ([], next))
    (cs : List CodePoint) : scanFrom none position (c :: cs) = scanFrom next (position + 1) cs := by
  have hfeed : feed none position c = .ok ([], next) := by rw [← h]; rfl
  rw [scanFrom_cons_of_ok hfeed]
  exact map_id' _

theorem feedAll_cons_eq_ok {c : CodePoint} {cs : List CodePoint} {last : Option Pending} :
    feedAll state position (c :: cs) = .ok (tokens, last) ↔
      ∃ first next rest, feed state position c = .ok (first, next) ∧
        feedAll next (position + 1) cs = .ok (rest, last) ∧ tokens = first ++ rest := by
  simp only [feedAll, pure_eq_ok, bind_eq_ok, Prod.exists, Except.ok.injEq, Prod.mk.injEq]
  constructor
  · rintro ⟨first, next, hfeed, rest, last', hrest, rfl, rfl⟩
    exact ⟨first, next, rest, hfeed, hrest, rfl⟩
  · rintro ⟨first, next, rest, hfeed, hrest, rfl⟩
    exact ⟨first, next, hfeed, rest, last, hrest, rfl, rfl⟩

/-- Once some characters were taken, a text is scanned from what they left. -/
theorem scanFrom_append {xs : List CodePoint} (h : feedAll state position xs = .ok (tokens, next))
    (ys : List CodePoint) :
    scanFrom state position (xs ++ ys) =
      (scanFrom next (position + xs.length) ys).map (tokens ++ ·) := by
  induction xs generalizing state position tokens with
  | nil =>
      obtain ⟨rfl, rfl⟩ := Prod.mk.inj (Except.ok.inj h)
      cases hscan : scanFrom state position ys <;> simp [hscan]
  | cons x xs ih =>
      obtain ⟨first, middle, rest, hfeed, hrest, rfl⟩ := feedAll_cons_eq_ok.mp h
      rw [List.cons_append, scanFrom_cons_of_ok hfeed, ih hrest, List.length_cons,
        Nat.add_comm xs.length, ← Nat.add_assoc]
      cases scanFrom next (position + 1 + xs.length) ys <;> simp

/-- A fault in the first piece of a text is the fault of the whole. -/
theorem scanFrom_append_of_error {xs : List CodePoint} {fault : Unterminated}
    (h : feedAll state position xs = .error fault) (ys : List CodePoint) :
    scanFrom state position (xs ++ ys) = .error fault := by
  induction xs generalizing state position with
  | nil => exact nomatch h
  | cons x xs ih =>
      rw [List.cons_append]
      cases hfeed : feed state position x with
      | error fault' =>
          simp only [feedAll, hfeed, error_bind] at h
          rw [scanFrom_cons_of_error hfeed, Except.error.inj h]
      | ok result =>
          obtain ⟨first, middle⟩ := result
          rw [scanFrom_cons_of_ok hfeed]
          cases hrest : feedAll middle (position + 1) xs with
          | error fault' =>
              simp only [feedAll, hfeed, hrest, ok_bind, error_bind] at h
              obtain rfl := Except.error.inj h
              rw [ih hrest, map_error]
          | ok result => simp [feedAll, hfeed, hrest] at h

/-- The characters that a token in progress, if any, holds. -/
def held (state : Option Pending) : List CodePoint := state.elim [] Pending.chars

@[simp] theorem held_none : held none = [] := rfl

@[simp] theorem held_some (p : Pending) : held (some p) = p.chars := rfl

/-- A token in progress, if any, is valid and began at `start`. -/
def Ready (start : Nat) (state : Option Pending) : Prop :=
  ∀ p ∈ state, p.Valid ∧ p.position = start

theorem ready_none (start : Nat) : Ready start none := fun _ hp => nomatch hp

theorem ready_some {p : Pending} : Ready start (some p) ↔ p.Valid ∧ p.position = start := by
  simp [Ready]

/-- What a character between two tokens makes: nothing, a token in progress, or a token. -/
inductive Makes (position : Nat) (c : CodePoint) : List Token × Option Pending → Prop
  | nothing (hblank : isBlank c = true) : Makes position c ([], none)
  | beginning {form} (hblank : isBlank c = false) (hvalid : Pending.Valid ⟨form, [c], position⟩) :
      Makes position c ([], some ⟨form, [c], position⟩)
  | whole {kind} (hblank : isBlank c = false) (hword : isWordStart c = false)
      (hlexeme : Lexeme kind [c]) (hkind : kind = .mark ∨ kind = .stray) :
      Makes position c ([single kind c position], none)

theorem fresh_makes (position : Nat) (c : CodePoint) : Makes position c (fresh position c) := by
  unfold fresh
  split
  · rename_i hblank
    exact .nothing hblank
  · rename_i hblank
    have hblank : isBlank c = false := Bool.eq_false_iff.mpr hblank
    split
    · rename_i hword
      have hidentifier : isIdentifier [c] = true := by simp [isIdentifier, hword]
      exact .beginning hblank hidentifier
    · rename_i hword
      have hword : isWordStart c = false := Bool.eq_false_iff.mpr hword
      split
      · rename_i delimiter hdelimiter
        obtain rfl := Delimiter.ofChar?_eq_some_iff.mp hdelimiter
        exact .beginning hblank ⟨[], .nil, rfl⟩
      · split
        · rename_i hdigit
          exact .beginning hblank ⟨c, [], rfl, .inl hdigit⟩
        · split
          · rename_i hpoint
            subst hpoint
            exact .beginning hblank rfl
          · split
            · rename_i hmark
              exact .whole hblank hword ⟨c, rfl, hmark⟩ (.inl rfl)
            · rename_i hmark
              exact .whole hblank hword ⟨c, rfl, Bool.eq_false_iff.mpr hmark⟩ (.inr rfl)

/-- A character between two tokens is blank, a token or the beginning of one. -/
theorem fresh_tiled (start : Nat) (c : CodePoint) :
    ∃ done, [c] = done ++ held (fresh start c).2 ∧ Tiled start (fresh start c).1 done ∧
      Ready (start + done.length) (fresh start c).2 := by
  have hmakes := fresh_makes start c
  generalize fresh start c = made at hmakes
  cases hmakes with
  | nothing hblank => exact ⟨[c], rfl, .blank (by simp [hblank]), ready_none _⟩
  | beginning _ hvalid => exact ⟨[], rfl, .blank rfl, ready_some.mpr ⟨hvalid, rfl⟩⟩
  | whole _ _ hlexeme => exact ⟨[c], rfl, .single start hlexeme, ready_none _⟩

/-- One character keeps the tiling: what is completed is tiled, what is held is valid. -/
theorem feed_tiled {c : CodePoint} (hs : Ready start state)
    (h : feed state (start + (held state).length) c = .ok (tokens, next)) :
    ∃ done, held state ++ [c] = done ++ held next ∧ Tiled start tokens done ∧
      Ready (start + done.length) next := by
  cases state with
  | none =>
      obtain rfl := congrArg Prod.fst (Except.ok.inj h)
      obtain rfl := congrArg Prod.snd (Except.ok.inj h)
      exact fresh_tiled start c
  | some p =>
      obtain ⟨hp, rfl⟩ := ready_some.mp hs
      simp only [feed, held_some] at h ⊢
      split at h
      · rename_i q heffect
        obtain ⟨rfl, rfl⟩ := Prod.mk.inj (Except.ok.inj h)
        obtain ⟨hq, hchars, hposition, -⟩ := p.effect_grows hp heffect
        exact ⟨[], hchars.symm, .blank rfl, ready_some.mpr ⟨hq, hposition⟩⟩
      · rename_i token heffect
        obtain ⟨rfl, rfl⟩ := Prod.mk.inj (Except.ok.inj h)
        obtain ⟨kind, rfl, hlexeme, -⟩ := p.effect_closes hp heffect
        exact ⟨p.chars ++ [c], (List.append_nil _).symm, .single _ hlexeme, ready_none _⟩
      · obtain ⟨token, hfinish, hnext⟩ := bind_eq_ok.mp h
        obtain ⟨rfl, rfl⟩ := Prod.mk.inj (Except.ok.inj hnext)
        obtain ⟨kind, rfl, hlexeme, -⟩ := p.finish_ok hp hfinish
        obtain ⟨done, hdone, htiled, hready⟩ := fresh_tiled (p.position + p.chars.length) c
        refine ⟨p.chars ++ done, ?_, (Tiled.single _ hlexeme).append htiled, ?_⟩
        · rw [List.append_assoc, ← hdone]
        · rw [List.length_append, ← Nat.add_assoc]
          exact hready
      · rename_i heffect
        obtain ⟨delimiter, hfinish⟩ := p.finish_of_breaks heffect
        rw [hfinish] at h
        exact nomatch h

/-- A run of characters keeps the tiling. -/
theorem feedAll_tiled {xs : List CodePoint} (hs : Ready start state)
    (h : feedAll state (start + (held state).length) xs = .ok (tokens, next)) :
    ∃ done, held state ++ xs = done ++ held next ∧ Tiled start tokens done ∧
      Ready (start + done.length) next := by
  induction xs generalizing state start tokens with
  | nil =>
      obtain ⟨rfl, rfl⟩ := Prod.mk.inj (Except.ok.inj h)
      exact ⟨[], by simp, .blank rfl, hs⟩
  | cons x xs ih =>
      obtain ⟨first, middle, rest, hfeed, hrest, rfl⟩ := feedAll_cons_eq_ok.mp h
      obtain ⟨done, hdone, htiled, hready⟩ := feed_tiled hs hfeed
      have hlength := congrArg List.length hdone
      simp only [List.length_append, List.length_singleton] at hlength
      have hposition : start + (held state).length + 1 =
          start + done.length + (held middle).length := by omega
      rw [hposition] at hrest
      obtain ⟨done', hdone', htiled', hready'⟩ := ih hready hrest
      refine ⟨done ++ done', ?_, htiled.append htiled', ?_⟩
      · rw [List.append_assoc, ← hdone', ← List.append_assoc, ← hdone, List.append_assoc]
        rfl
      · rw [List.length_append, ← Nat.add_assoc]
        exact hready'

/-- Scanning is taking all characters and settling the token in progress. -/
theorem scanFrom_eq_ok {cs : List CodePoint} (h : scanFrom state position cs = .ok tokens) :
    ∃ first next last, feedAll state position cs = .ok (first, next) ∧ settle next = .ok last ∧
      tokens = first ++ last := by
  cases hfeed : feedAll state position cs with
  | error fault =>
      rw [← List.append_nil cs, scanFrom_append_of_error hfeed] at h
      exact nomatch h
  | ok result =>
      obtain ⟨first, next⟩ := result
      rw [← List.append_nil cs, scanFrom_append hfeed, scanFrom_nil] at h
      obtain ⟨last, hlast, rfl⟩ := map_eq_ok.mp h
      exact ⟨first, next, last, rfl, hlast, rfl⟩

/-- What a token in progress settles to makes up the characters that it holds. -/
theorem settle_tiled (hs : Ready start state) (h : settle state = .ok tokens) :
    Tiled start tokens (held state) := by
  cases state with
  | none =>
      obtain rfl := Except.ok.inj h
      exact .blank rfl
  | some p =>
      obtain ⟨hp, rfl⟩ := ready_some.mp hs
      obtain ⟨token, hfinish, rfl⟩ := map_eq_ok.mp h
      obtain ⟨kind, rfl, hlexeme, -⟩ := p.finish_ok hp hfinish
      exact .single _ hlexeme

/-- A token in progress ends in the next token of the text, and what it leaves is scanned afresh. -/
theorem scanFrom_some_ends {p : Pending} {cs : List CodePoint}
    (h : scanFrom (some p) position cs = .ok tokens) :
    ∃ token rest more after, tokens = token :: more ∧ p.Ends cs token rest ∧
      after + rest.length = position + cs.length ∧ scanFrom none after rest = .ok more := by
  induction cs generalizing p position tokens with
  | nil =>
      rw [scanFrom_nil] at h
      obtain ⟨token, hfinish, rfl⟩ := map_eq_ok.mp h
      exact ⟨token, [], [], position, rfl, .finished hfinish, rfl, rfl⟩
  | cons c cs ih =>
      cases heffect : p.effect c with
      | grows q =>
          rw [scanFrom_of_grows heffect] at h
          obtain ⟨token, rest, more, after, rfl, hends, hafter, hmore⟩ := ih h
          refine ⟨token, rest, more, after, rfl, .grown heffect hends, ?_, hmore⟩
          rw [hafter, List.length_cons]
          omega
      | closes token =>
          rw [scanFrom_of_closes heffect] at h
          obtain ⟨more, hmore, rfl⟩ := map_eq_ok.mp h
          refine ⟨token, cs, more, position + 1, rfl, .closed heffect, ?_, hmore⟩
          rw [List.length_cons]
          omega
      | parts =>
          cases hfinish : p.finish with
          | error fault =>
              have hfeed : feed (some p) position c = .error fault := by
                simp only [feed, heffect, hfinish, error_bind]
              rw [scanFrom_cons_of_error hfeed] at h
              exact nomatch h
          | ok token =>
              rw [scanFrom_of_parts heffect hfinish] at h
              obtain ⟨more, hmore, rfl⟩ := map_eq_ok.mp h
              exact ⟨token, c :: cs, more, position, rfl, .parted heffect hfinish, rfl, hmore⟩
      | breaks =>
          obtain ⟨delimiter, hfinish⟩ := p.finish_of_breaks heffect
          rw [scanFrom_cons_of_error (feed_of_breaks heffect hfinish position)] at h
          exact nomatch h

/-- A token in progress becomes the next token of the text. -/
theorem scanFrom_some_eq_ok {p : Pending} {cs : List CodePoint} (hp : p.Valid)
    (h : scanFrom (some p) position cs = .ok tokens) :
    ∃ token rest, tokens = token :: rest ∧ p.Becomes token := by
  obtain ⟨token, _, more, _, htokens, hends, -, -⟩ := scanFrom_some_ends h
  exact ⟨token, more, htokens, hends.becomes hp⟩

/-- The tokens of a text make it up. -/
theorem scanFrom_tiled {cs : List CodePoint} (hs : Ready start state)
    (h : scanFrom state (start + (held state).length) cs = .ok tokens) :
    Tiled start tokens (held state ++ cs) := by
  obtain ⟨first, next, last, hfeed, hsettle, rfl⟩ := scanFrom_eq_ok h
  obtain ⟨done, hdone, htiled, hready⟩ := feedAll_tiled hs hfeed
  rw [hdone]
  exact htiled.append (settle_tiled hready hsettle)

theorem scan_tiled {text : Text} (h : scan text = .ok tokens) : Tiled 0 tokens text.toList :=
  scanFrom_tiled (ready_none 0) h

end Playbook.Token
