import Playbook.Proofs.BlankFront

/-! # Where the tokens of a text lie

The tokens of a text lie in it in order, each of them the slice that its position says, with
nothing but blank characters outside of them. Blank characters inside a token belong to a literal. A
token is a word exactly if it begins like one, and a word ends where no word character follows. The
scanner remembers nothing from one token to the next, so a text that is scanned from a token on
yields the same tokens.

## Implementation notes

`Tiled` tells where tokens lie, but not where each of them had to end. That is what `Pending.Ends`
adds: a token is followed from its first character to the one that ends it. -/

namespace Playbook

namespace Text

/-- No decimal digit is blank. -/
theorem isBlank_of_isDigit {c : CodePoint} (h : isDigit c = true) : isBlank c = false :=
  Ranges.contains_eq_false_of_apart (by decide +kernel) h

end Text

namespace Token

open Text

variable {start : Nat} {cs front rest : List CodePoint} {token : Token} {tokens first more : List Token}
  {text : Text}

/-- Unless it is a literal, a token holds no blank character. -/
def Solid (token : Token) : Prop :=
  (∀ delimiter : Delimiter, token.kind ≠ delimiter.tokenKind) →
    ∀ c ∈ token.text.toList, isBlank c = false

/-- The first character of a token may begin a word. -/
def BeginsWord (token : Token) : Prop := ∃ c ∈ token.text.toList.head?, isWordStart c = true

/-- Only a word becomes an identifier. -/
theorem Form.MayBecome.identifier_iff {form : Form} {kind : TokenKind} (h : form.MayBecome kind) :
    kind = .identifier ↔ form = .word := by
  cases form with
  | word => exact iff_of_true h rfl
  | number exponent =>
      obtain rfl : kind = .number := h
      simp
  | point => rcases h with rfl | rfl <;> simp
  | literal delimiter escaped =>
      obtain rfl : kind = delimiter.tokenKind := h
      cases delimiter <;> simp [Delimiter.tokenKind]

namespace Pending

variable {p q : Pending}

/-- Whether a token in progress is a word shows in its first character. -/
theorem Valid.form_eq_word_iff {form : Form} {c : CodePoint} (h : Valid ⟨form, [c], start⟩) :
    form = .word ↔ isWordStart c = true := by
  cases form with
  | word => exact iff_of_true rfl (isIdentifier_cons.mp h).1
  | number exponent =>
      obtain ⟨d, _, hchars, hd⟩ := h
      obtain ⟨rfl, -⟩ := List.cons.inj hchars
      rcases hd with hdigit | rfl
      · simp [isWordStart, hdigit]
      · simp [show isWordStart '.' = false by decide]
  | point =>
      obtain rfl := List.singleton_inj.mp (show [c] = [.scalar '.'] from h)
      simp [show isWordStart '.' = false by decide]
  | literal delimiter escaped =>
      obtain ⟨_, -, hchars⟩ := h
      obtain rfl := (List.cons.inj hchars).1
      have hword : isWordStart delimiter.char = false := by cases delimiter <;> decide
      simp [hword]

/-- A token in progress that may become anything but a literal holds no blank character. -/
def Solid (p : Pending) : Prop :=
  ∀ kind, p.form.MayBecome kind → (∀ delimiter : Delimiter, kind ≠ delimiter.tokenKind) →
    ∀ c ∈ p.chars, isBlank c = false

/-- Only a literal takes blank characters along. -/
theorem isBlank_of_grows {c : CodePoint} (h : p.effect c = .grows q)
    (hform : ∀ delimiter escaped, p.form ≠ .literal delimiter escaped) : isBlank c = false := by
  obtain ⟨form, chars, position⟩ := p
  cases form with
  | word =>
      simp only [effect] at h
      split at h
      · rename_i hword
        exact isBlank_of_isWord hword
      · simp at h
  | number exponent =>
      simp only [effect] at h
      split at h
      · rename_i hc
        rcases (Bool.or_eq_true _ _).mp hc with hword | hpoint
        · exact isBlank_of_isWord hword
        · obtain rfl := of_decide_eq_true hpoint
          rfl
      · split at h
        · rename_i hc
          simp only [Bool.and_eq_true, Bool.or_eq_true, decide_eq_true_eq] at hc
          rcases hc.2 with rfl | rfl <;> rfl
        · simp at h
  | point =>
      simp only [effect] at h
      split at h
      · rename_i hdigit
        exact isBlank_of_isDigit hdigit
      · simp at h
  | literal delimiter escaped => exact absurd rfl (hform delimiter escaped)

theorem Solid.grows {c : CodePoint} (hs : p.Solid) (hp : p.Valid) (h : p.effect c = .grows q) :
    q.Solid := by
  obtain ⟨-, hchars, -, hkinds⟩ := effect_grows hp h
  intro kind hmay hkind d hd
  have hform : ∀ delimiter escaped, p.form ≠ .literal delimiter escaped := by
    intro delimiter escaped hform
    have hliteral := hkinds kind hmay
    rw [hform] at hliteral
    exact hkind delimiter hliteral
  rw [hchars] at hd
  rcases List.mem_append.mp hd with hd | hd
  · exact hs kind (hkinds kind hmay) hkind d hd
  · obtain rfl := List.mem_singleton.mp hd
    exact isBlank_of_grows h hform

theorem Solid.finish (hs : p.Solid) (hp : p.Valid) (h : p.finish = .ok token) : token.Solid := by
  obtain ⟨kind, rfl, -, hmay⟩ := finish_ok hp h
  intro hkind c hc
  rw [Text.toList_ofList] at hc
  exact hs kind hmay hkind c hc

/-- A token that is closed by a character of its own is a literal. -/
theorem tokenKind_of_closes {c : CodePoint} (hp : p.Valid) (h : p.effect c = .closes token) :
    ∃ delimiter : Delimiter, token.kind = delimiter.tokenKind := by
  obtain ⟨delimiter, escaped, hform⟩ := p.form_of_stops c (by simp [h]) (by simp [h])
  obtain ⟨kind, rfl, -, hmay⟩ := effect_closes hp h
  rw [hform] at hmay
  exact ⟨delimiter, hmay⟩

namespace Ends

/-- A token takes the characters held and the first of those ahead, up to those that it leaves. -/
theorem split (h : p.Ends cs token rest) (hp : p.Valid) :
    p.chars ++ cs = token.text.toList ++ rest := by
  induction h with
  | finished hfinish | parted _ hfinish =>
      obtain ⟨kind, rfl, -⟩ := finish_ok hp hfinish
      rw [Text.toList_ofList]
  | closed heffect =>
      obtain ⟨kind, rfl, -⟩ := effect_closes hp heffect
      rw [Text.toList_ofList, List.append_assoc]
      rfl
  | grown heffect _ ih =>
      obtain ⟨hq, hchars, -⟩ := effect_grows hp heffect
      rw [← ih hq, hchars, List.append_assoc]
      rfl

theorem solid (h : p.Ends cs token rest) (hp : p.Valid) (hs : p.Solid) : token.Solid := by
  induction h with
  | finished hfinish | parted _ hfinish => exact hs.finish hp hfinish
  | closed heffect =>
      obtain ⟨delimiter, hliteral⟩ := tokenKind_of_closes hp heffect
      exact fun hkind => absurd hliteral (hkind delimiter)
  | grown heffect _ ih => exact ih (effect_grows hp heffect).1 (hs.grows hp heffect)

/-- A token begins with the first of the characters held. -/
theorem head {form : Form} {c : CodePoint} (h : Ends ⟨form, [c], start⟩ cs token rest)
    (hvalid : Valid ⟨form, [c], start⟩) : token.text.toList.head? = some c := by
  have hsplit : c :: cs = token.text.toList ++ rest := h.split hvalid
  have hlength : 1 ≤ token.text.length := (h.becomes hvalid).length
  cases htext : token.text.toList with
  | nil => simp [← Text.length_toList, htext] at hlength
  | cons d ds =>
      rw [htext] at hsplit
      rw [(List.cons.inj hsplit).1, List.head?_cons]

/-- A word takes all word characters along. -/
theorem head_not_word (h : p.Ends cs token rest) (hp : p.Valid)
    (hkind : token.kind = .identifier) : ∀ c ∈ rest.head?, isWord c = false := by
  induction h with
  | finished => simp
  | @parted p c cs token heffect hfinish =>
      have hword := (becomes_of_finish hp hfinish).kind.identifier_iff.mp hkind
      intro d hd
      obtain rfl : c = d := by simpa using hd
      simpa [effect, hword] using heffect
  | @closed p c cs token heffect =>
      have hword := (becomes_of_closes hp heffect).kind.identifier_iff.mp hkind
      simp only [effect, hword] at heffect
      split at heffect <;> cases heffect
  | grown heffect _ ih => exact ih (effect_grows hp heffect).1 hkind

end Ends

end Pending

/-- A token is found after the characters `front` of a text that begins at `start`. It ends where
it has to, and the tokens `more` are those of the characters `rest` behind it. -/
structure Found (start : Nat) (front : List CodePoint) (token : Token) (rest : List CodePoint)
    (more : List Token) : Prop where
  position : token.position = start + front.length
  solid : token.Solid
  identifier : token.kind = .identifier ↔ token.BeginsWord
  word : token.kind = .identifier → ∀ c ∈ rest.head?, isWord c = false
  scanned : scanFrom none token.position (token.text.toList ++ rest) = .ok (token :: more)
  tail : scanFrom none token.stop rest = .ok more

/-- A token that is begun by the first character of a text is found. -/
theorem exists_found_of_beginning {form : Form} {c : CodePoint} (hblank : isBlank c = false)
    (hvalid : Pending.Valid ⟨form, [c], start⟩)
    (hmade : fresh start c = ([], some ⟨form, [c], start⟩))
    (h : scanFrom none start (c :: cs) = .ok (token :: more)) :
    ∃ rest, c :: cs = token.text.toList ++ rest ∧ Found start [] token rest more := by
  obtain ⟨token', rest, more', after, htokens, hends, hafter, hmore⟩ :=
    scanFrom_some_ends ((scanFrom_of_fresh hmade cs).symm.trans h)
  obtain ⟨rfl, rfl⟩ := List.cons.inj htokens
  have hsolid : Pending.Solid ⟨form, [c], start⟩ := by
    intro _ _ _ d hd
    obtain rfl := List.mem_singleton.mp hd
    exact hblank
  have hsplit : c :: cs = token.text.toList ++ rest := hends.split hvalid
  have hposition : token.position = start := (hends.becomes hvalid).position
  have hstop : token.stop = after := by
    have hlength : cs.length + 1 = token.text.length + rest.length :=
      (congrArg List.length hsplit).trans List.length_append
    rw [stop]
    omega
  have hidentifier : token.kind = .identifier ↔ token.BeginsWord := by
    rw [(hends.becomes hvalid).kind.identifier_iff, hvalid.form_eq_word_iff, BeginsWord,
      hends.head hvalid]
    simp
  refine ⟨rest, hsplit, hposition, hends.solid hvalid hsolid, hidentifier,
    hends.head_not_word hvalid, ?_, ?_⟩
  · rw [hposition, ← hsplit]
    exact h
  · rw [hstop]
    exact hmore

/-- A token that is the first character of a text is found. -/
theorem exists_found_of_whole {kind : TokenKind} {c : CodePoint} (hblank : isBlank c = false)
    (hword : isWordStart c = false) (hkind : kind ≠ .identifier)
    (hmade : fresh start c = ([single kind c start], none))
    (h : scanFrom none start (c :: cs) = .ok (token :: more)) :
    ∃ rest, c :: cs = token.text.toList ++ rest ∧ Found start [] token rest more := by
  have hfeed : feed none start c = .ok ([single kind c start], none) := by rw [feed, hmade]
  obtain ⟨more', hmore, htokens⟩ := map_eq_ok.mp ((scanFrom_cons_of_ok hfeed cs).symm.trans h)
  obtain ⟨rfl, rfl⟩ := List.cons.inj htokens
  have hchars : (single kind c start).text.toList = [c] := Text.toList_singleton c
  have hstop : (single kind c start).stop = start + 1 := by
    rw [stop, ← Text.length_toList, hchars]
    rfl
  have hsolid : (single kind c start).Solid := by
    intro _ d hd
    rw [hchars] at hd
    obtain rfl := List.mem_singleton.mp hd
    exact hblank
  have hidentifier :
      (single kind c start).kind = .identifier ↔ (single kind c start).BeginsWord := by
    refine iff_of_false hkind ?_
    rw [BeginsWord, hchars]
    simp [hword]
  refine ⟨cs, by rw [hchars]; rfl, rfl, hsolid, hidentifier, fun h => absurd h hkind, ?_, ?_⟩
  · rw [hchars]
    exact h
  · rw [hstop]
    exact hmore

/-- The first token of a text is found. -/
theorem exists_found_first (h : scanFrom none start cs = .ok (token :: more)) :
    ∃ front rest, cs = front ++ (token.text.toList ++ rest) ∧
      Found start front token rest more := by
  induction cs generalizing start with
  | nil => exact nomatch h
  | cons c cs ih =>
      have hmakes := fresh_makes start c
      generalize hmade : fresh start c = made at hmakes
      cases hmakes with
      | nothing hblank =>
          rw [scanFrom_of_fresh hmade] at h
          obtain ⟨front, rest, rfl, hfound⟩ := ih h
          refine ⟨c :: front, rest, rfl, { hfound with position := ?_ }⟩
          rw [hfound.position, List.length_cons]
          omega
      | beginning hblank hvalid => exact ⟨[], exists_found_of_beginning hblank hvalid hmade h⟩
      | @whole kind hblank hword _ hkind =>
          have hidentifier : kind ≠ .identifier := by rcases hkind with rfl | rfl <;> decide
          exact ⟨[], exists_found_of_whole hblank hword hidentifier hmade h⟩

/-- Every token of a text is found. -/
theorem exists_found (h : scanFrom none start cs = .ok (first ++ token :: more)) :
    ∃ front rest, cs = front ++ (token.text.toList ++ rest) ∧
      Found start front token rest more := by
  induction first generalizing start cs with
  | nil => exact exists_found_first h
  | cons earlier first ih =>
      obtain ⟨front, rest, rfl, hearlier⟩ := exists_found_first h
      obtain ⟨middle, rest, rfl, hfound⟩ := ih hearlier.tail
      refine ⟨front ++ (earlier.text.toList ++ middle), rest, by simp only [List.append_assoc],
        { hfound with position := ?_ }⟩
      rw [hfound.position, stop, hearlier.position, List.length_append, List.length_append,
        (Text.length_toList : earlier.text.toList.length = _)]
      omega

/-- A place in a text is one of the characters of a token. -/
def Covers (token : Token) (n : Nat) : Prop := token.position ≤ n ∧ n < token.stop

/-- What no token covers is blank. -/
theorem Tiled.isBlank_of_uncovered (h : Tiled start tokens cs) {n : Nat} {c : CodePoint}
    (hc : cs[n]? = some c) (hn : ∀ token ∈ tokens, ¬ token.Covers (start + n)) :
    isBlank c = true := by
  induction h generalizing n with
  | blank hgap => exact List.all_eq_true.mp hgap c (List.mem_of_getElem? hc)
  | @token start gap kind lexeme tokens rest hgap _ _ ih =>
      by_cases hbefore : n < gap.length
      · rw [List.getElem?_append_left hbefore] at hc
        exact List.all_eq_true.mp hgap c (List.mem_of_getElem? hc)
      · have huncovered := hn _ List.mem_cons_self
        simp only [Covers, stop, Text.length_ofList] at huncovered
        have hafter : (gap ++ lexeme).length ≤ n := by
          rw [List.length_append]
          omega
        rw [← List.append_assoc, List.getElem?_append_right hafter] at hc
        apply ih hc
        intro token htoken
        rw [Nat.add_assoc, Nat.add_sub_of_le hafter]
        exact hn token (List.mem_cons_of_mem _ htoken)

/-- The part of a text between two positions. -/
def slice (text : Text) (first stop : Nat) : Text :=
  Text.ofList ((text.toList.take stop).drop first)

/-- The part of a text from a position on. -/
def restAt (text : Text) (n : Nat) : Text := Text.ofList (text.toList.drop n)

/-- How the tokens of a text lie in it. -/
structure Placement (text : Text) (tokens : List Token) : Prop where
  /-- Positions increase strictly, and a token ends before the next one begins. -/
  increasing : tokens.Pairwise fun a b => a.position < b.position ∧ a.stop ≤ b.position
  /-- A token is the slice of the text at its position. -/
  slices : ∀ token ∈ tokens, token.text = slice text token.position token.stop
  /-- A token is a lexeme of its class. -/
  lexemes : ∀ token ∈ tokens, Lexeme token.kind token.text.toList
  /-- Before, between and after the tokens there are blank characters only. -/
  gaps : ∀ n c, text.toList[n]? = some c → (∀ token ∈ tokens, ¬ token.Covers n) → isBlank c = true
  /-- A token that holds a blank character is a literal. -/
  solid : ∀ token ∈ tokens, token.Solid
  /-- A token is an identifier exactly if its first character may begin a word. -/
  identifiers : ∀ token ∈ tokens, token.kind = .identifier ↔ token.BeginsWord
  /-- No word character follows an identifier. -/
  words : ∀ token ∈ tokens, token.kind = .identifier →
    ∀ c, text.toList[token.stop]? = some c → isWord c = false
  /-- From a token on, the text is scanned to the same tokens, counted from there. -/
  suffixes : ∀ first token more, tokens = first ++ token :: more →
    ∃ found, scan (restAt text token.position) = .ok found ∧
      token :: more = found.map (moveBy token.position)

/-- In a whole text, the position of a token that is found is the number of characters before it. -/
theorem Found.position_eq (h : Found 0 front token rest more) : token.position = front.length := by
  rw [h.position, Nat.zero_add]

section Placed

variable (hsplit : text.toList = front ++ (token.text.toList ++ rest))
  (hfound : Found 0 front token rest more)

include hsplit hfound

/-- A token that is found is a slice of the text. -/
theorem Found.text_eq_slice : token.text = slice text token.position token.stop := by
  rw [slice, hsplit, stop, hfound.position_eq, ← Text.length_toList, List.take_length_add_append,
    List.drop_left, List.take_left, Text.ofList_toList]

/-- What follows a token that is found is what stands at its end. -/
theorem Found.getElem?_stop : text.toList[token.stop]? = rest.head? := by
  rw [hsplit, stop, hfound.position_eq, ← Text.length_toList, ← List.append_assoc,
    ← List.length_append, List.getElem?_append_right (Nat.le_refl _), Nat.sub_self,
    List.head?_eq_getElem?]

/-- From a token that is found on, the text is scanned to the same tokens. -/
theorem Found.scan_restAt : ∃ found, scan (restAt text token.position) = .ok found ∧
    token :: more = found.map (moveBy token.position) := by
  have hrest : restAt text token.position = Text.ofList (token.text.toList ++ rest) := by
    rw [restAt, hsplit, hfound.position_eq, List.drop_left]
  have hmoved := scanFrom_moveBy none 0 token.position (token.text.toList ++ rest)
  rw [Option.map_none, Nat.add_zero, hfound.scanned] at hmoved
  rw [hrest, scan, Text.toList_ofList]
  cases hscan : scanFrom none 0 (token.text.toList ++ rest) with
  | error literal =>
      rw [hscan] at hmoved
      cases hmoved
  | ok found =>
      rw [hscan] at hmoved
      exact ⟨found, rfl, Except.ok.inj hmoved⟩

end Placed

/-- A token is not empty. -/
theorem Tiled.position_lt_stop (h : Tiled start tokens cs) (ht : token ∈ tokens) :
    token.position < token.stop := by
  have hlength := List.length_pos_of_ne_nil (h.lexeme_of_mem ht).ne_nil
  rw [Text.length_toList] at hlength
  rw [stop]
  omega

/-- The tokens of a text lie in it as they have to. -/
theorem placement_of_scan (h : scan text = .ok tokens) : Placement text tokens := by
  have htiled := scan_tiled h
  have hfound {token : Token} (htoken : token ∈ tokens) :
      ∃ front rest more, text.toList = front ++ (token.text.toList ++ rest) ∧
        Found 0 front token rest more := by
    obtain ⟨first, more, rfl⟩ := List.append_of_mem htoken
    obtain ⟨front, rest, hsplit, hfound⟩ := exists_found h
    exact ⟨front, rest, more, hsplit, hfound⟩
  constructor
  case increasing =>
    apply htiled.pairwise.imp_of_mem
    intro a b ha _ hstop
    exact ⟨Nat.lt_of_lt_of_le (htiled.position_lt_stop ha) hstop, hstop⟩
  case slices =>
    intro token htoken
    obtain ⟨front, rest, more, hsplit, hfound⟩ := hfound htoken
    exact hfound.text_eq_slice hsplit
  case lexemes => exact fun _ htoken => htiled.lexeme_of_mem htoken
  case gaps =>
    intro n c hc huncovered
    apply htiled.isBlank_of_uncovered hc
    simpa using huncovered
  case solid =>
    intro token htoken
    obtain ⟨front, rest, more, hsplit, hfound⟩ := hfound htoken
    exact hfound.solid
  case identifiers =>
    intro token htoken
    obtain ⟨front, rest, more, hsplit, hfound⟩ := hfound htoken
    exact hfound.identifier
  case words =>
    intro token htoken hidentifier c hc
    obtain ⟨front, rest, more, hsplit, hfound⟩ := hfound htoken
    rw [hfound.getElem?_stop hsplit] at hc
    exact hfound.word hidentifier c hc
  case suffixes =>
    intro first token more htokens
    rw [htokens] at h
    obtain ⟨front, rest, hsplit, hfound⟩ := exists_found h
    exact hfound.scan_restAt hsplit

end Token

end Playbook
