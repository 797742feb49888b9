import Mathlib.Order.WellFounded
import Playbook.Proofs.LiteralCompletion
import Playbook.Proofs.TokenPlaces

/-! # Literals that are never closed

The only thing that the scanner objects to is a literal that is never closed, and it objects to the
first one. Which literals a text opens is said without the scanner: one goes through the text
character by character and passes over every closed literal as a whole.

## Implementation notes

Behind a literal that is never closed there may be others, so the places of `Outside` go on to the
end of every text, and the first of the literals is the one with the least position. -/

namespace Playbook.Token

open Text

/-- A closed literal stands at a place in a text. -/
def StandsAt (cs : List CodePoint) (n : Nat) (delimiter : Delimiter) (lexeme : List CodePoint) : Prop :=
  IsLiteral delimiter lexeme ∧ lexeme <+: cs.drop n

/-- The places in a text that lie outside of every closed literal before them. Where a closed
literal stands, the next of them is behind it; otherwise it is behind the next character. -/
inductive Outside (cs : List CodePoint) : Nat → Prop
  | start : Outside cs 0
  | literal {n delimiter lexeme} (before : Outside cs n)
      (hstands : StandsAt cs n delimiter lexeme) : Outside cs (n + lexeme.length)
  | character {n} (before : Outside cs n) (hn : n < cs.length)
      (hnone : ∀ delimiter lexeme, ¬ StandsAt cs n delimiter lexeme) : Outside cs (n + 1)

/-- A delimiter outside of every closed literal before it opens a literal that is never closed. -/
structure NeverClosed (cs : List CodePoint) (literal : Unterminated) : Prop where
  outside : Outside cs literal.position
  opens : cs[literal.position]? = some literal.delimiter.char
  unclosed : ∀ lexeme, ¬ StandsAt cs literal.position literal.delimiter lexeme

/-- The first literal of a text that is never closed. -/
def IsFirstUnclosed (cs : List CodePoint) (literal : Unterminated) : Prop :=
  NeverClosed cs literal ∧ ∀ other, NeverClosed cs other → literal.position ≤ other.position

variable {cs : List CodePoint} {n : Nat}

/-- From outside of the closed literals one comes to the end of a text. -/
theorem Outside.length (h : Outside cs n) (hn : n ≤ cs.length) : Outside cs cs.length := by
  induction hm : cs.length - n using Nat.strongRecOn generalizing n with
  | ind m ih =>
      rcases Nat.eq_or_lt_of_le hn with rfl | hlt
      · exact h
      · by_cases hstands : ∃ delimiter lexeme, StandsAt cs n delimiter lexeme
        · obtain ⟨delimiter, lexeme, hstands⟩ := hstands
          have hpositive : 0 < lexeme.length := by
            obtain ⟨⟨body, -, rfl⟩, -⟩ := hstands
            exact Nat.succ_pos _
          have hlength := hstands.2.length_le
          rw [List.length_drop] at hlength
          exact ih (cs.length - (n + lexeme.length)) (by omega) (.literal h hstands) (by omega) rfl
        · have hnone : ∀ delimiter lexeme, ¬ StandsAt cs n delimiter lexeme :=
            fun delimiter lexeme hlexeme => hstands ⟨delimiter, lexeme, hlexeme⟩
          exact ih (cs.length - (n + 1)) (by omega) (.character h hlt hnone) (by omega) rfl

/-- A delimiter ends every token but a literal. -/
theorem isDivider_char (delimiter : Delimiter) : isDivider delimiter.char = true := by
  cases delimiter <;> rfl

/-- A character that opens no literal leaves the scanner with what would be a token. -/
theorem feed_of_settled {state : Option Pending} {last : List Token} {c : CodePoint}
    (h : settle state = .ok last) (hc : ∀ delimiter : Delimiter, c ≠ delimiter.char)
    (position : Nat) :
    ∃ made next later, feed state position c = .ok (made, next) ∧ settle next = .ok later := by
  have hfresh : ∃ later, settle (fresh position c).2 = .ok later := by
    have hmakes := fresh_makes position c
    generalize fresh position c = made at hmakes
    cases hmakes with
    | nothing | whole => exact ⟨[], rfl⟩
    | @beginning form _ hvalid =>
        cases form with
        | word | number | point => exact ⟨_, rfl⟩
        | literal delimiter escaped =>
            obtain ⟨body, -, hchars⟩ := hvalid
            exact absurd (List.cons.inj hchars).1 (hc delimiter)
  cases state with
  | none =>
      obtain ⟨later, hlater⟩ := hfresh
      exact ⟨_, _, later, rfl, hlater⟩
  | some p =>
      obtain ⟨token, hfinish, -⟩ := map_eq_ok.mp h
      rcases p.effect_of_finish hfinish c with hparts | ⟨q, token, hgrows, hq⟩
      · obtain ⟨later, hlater⟩ := hfresh
        exact ⟨_, _, later, feed_of_parts hparts hfinish position, hlater⟩
      · refine ⟨[], some q, [token], feed_of_grows hgrows position, ?_⟩
        simp only [settle, hq, map_ok]

/-- Outside of the closed literals, and with none open before, the scanner is between two tokens or
has in progress what would be a token. -/
theorem Outside.scanned (h : Outside cs n)
    (hnone : ∀ literal, NeverClosed cs literal → n ≤ literal.position) :
    ∃ state first last, settle state = .ok last ∧
      scanFrom none 0 cs = (scanFrom state n (cs.drop n)).map (first ++ ·) := by
  induction h with
  | start => exact ⟨none, [], [], rfl, (map_id' _).symm⟩
  | @literal n delimiter lexeme before hstands ih =>
      obtain ⟨state, first, last, hsettle, hscan⟩ := ih fun literal hliteral =>
        Nat.le_trans (Nat.le_add_right n lexeme.length) (hnone literal hliteral)
      obtain ⟨hliteral, rest, hrest⟩ := hstands
      have hdrop : cs.drop (n + lexeme.length) = rest := by
        rw [← List.drop_drop, ← hrest, List.drop_left]
      have hlexeme : scanFrom none n (lexeme ++ rest) =
          (scanFrom none (n + lexeme.length) rest).map
            (⟨delimiter.tokenKind, Text.ofList lexeme, n⟩ :: ·) := by
        apply scanFrom_lexeme hliteral.lexeme
        · cases delimiter <;> decide
        · intro hidentifier
          cases delimiter <;> exact nomatch hidentifier
      have hsettled : scanFrom state n (lexeme ++ rest) =
          (scanFrom none n (lexeme ++ rest)).map (last ++ ·) := by
        obtain ⟨body, -, rfl⟩ := hliteral
        exact scanFrom_divider (isDivider_char delimiter) hsettle _
      refine ⟨none, first ++ (last ++ [⟨delimiter.tokenKind, Text.ofList lexeme, n⟩]), [], rfl,
        ?_⟩
      rw [hscan, ← hrest, hsettled, hlexeme, hdrop, map_map, map_map]
      simp only [List.append_assoc, List.singleton_append]
  | @character n before hn hstands ih =>
      obtain ⟨state, first, last, hsettle, hscan⟩ := ih fun literal hliteral =>
        Nat.le_trans (Nat.le_succ n) (hnone literal hliteral)
      have hquote : ∀ delimiter : Delimiter, cs[n] ≠ delimiter.char := by
        intro delimiter hc
        have hopens : cs[n]? = some delimiter.char := by rw [List.getElem?_eq_getElem hn, hc]
        have hlater := hnone ⟨delimiter, n⟩ ⟨before, hopens, hstands delimiter⟩
        exact absurd hlater (Nat.not_succ_le_self n)
      obtain ⟨made, next, later, hfeed, hlater⟩ := feed_of_settled hsettle hquote n
      refine ⟨next, first ++ made, later, hlater, ?_⟩
      rw [hscan, List.drop_eq_getElem_cons hn, scanFrom_cons_of_ok hfeed, map_map]
      simp only [List.append_assoc]

/-- None of the characters ahead closes a literal. -/
def LeftOpen (delimiter : Delimiter) (cs : List CodePoint) : Prop :=
  ∀ body rest, cs = body ++ delimiter.char :: rest → ¬ Body delimiter body

theorem LeftOpen.head_ne {delimiter : Delimiter} {c : CodePoint} (h : LeftOpen delimiter (c :: cs)) :
    c ≠ delimiter.char := by
  rintro rfl
  exact h [] cs rfl .nil

theorem LeftOpen.of_append {delimiter : Delimiter} (front : List CodePoint)
    (h : LeftOpen delimiter (front ++ cs))
    (hfront : ∀ {body}, Body delimiter body → Body delimiter (front ++ body)) :
    LeftOpen delimiter cs := by
  rintro body rest rfl hbody
  exact h (front ++ body) rest (List.append_assoc ..).symm (hfront hbody)

/-- A literal that is left open is scanned to the end of the text or of the line, and it is objected
to. -/
theorem LeftOpen.scanFrom_eq_error {delimiter : Delimiter} {chars : List CodePoint}
    {start position : Nat} (h : LeftOpen delimiter cs) :
    scanFrom (some ⟨.literal delimiter false, chars, start⟩) position cs =
      .error ⟨delimiter, start⟩ := by
  -- A backslash takes the next character along, so the induction is on the number of characters.
  induction hm : cs.length using Nat.strongRecOn generalizing cs chars position with
  | ind m ih =>
      cases cs with
      | nil => rfl
      | cons c cs =>
          have hshorter : cs.length < m := by rw [← hm, List.length_cons]; omega
          have hc := h.head_ne
          by_cases hback : delimiter = .back
          case pos =>
            subst hback
            rw [scanFrom_of_grows (Pending.effect_raw chars start hc)]
            exact ih cs.length hshorter (h.of_append [c] (.raw rfl hc)) rfl
          by_cases hline : c = '\n'
          case pos =>
            subst hline
            exact scanFrom_cons_of_error
              (feed_of_breaks (Pending.effect_line chars start hback) rfl position) cs
          by_cases hbackslash : c = '\\'
          case neg =>
            rw [scanFrom_of_grows (Pending.effect_plain chars start hc hbackslash hline)]
            exact ih cs.length hshorter (h.of_append [c] (.plain hc hbackslash hline)) rfl
          subst hbackslash
          rw [scanFrom_of_grows (Pending.effect_backslash chars start hback)]
          cases cs with
          | nil => rfl
          | cons d cs =>
              rw [scanFrom_of_grows (Pending.effect_escaped _ start hback d)]
              have hshorter : cs.length < m := by rw [List.length_cons] at hshorter; omega
              exact ih cs.length hshorter (h.of_append ['\\', d] (.escaped hback)) rfl

/-- The first literal that is never closed is objected to. -/
theorem IsFirstUnclosed.scanFrom_eq_error {literal : Unterminated}
    (h : IsFirstUnclosed cs literal) : scanFrom none 0 cs = .error literal := by
  obtain ⟨⟨houtside, hopens, hunclosed⟩, hfirst⟩ := h
  obtain ⟨state, first, last, hsettle, hscan⟩ := houtside.scanned hfirst
  obtain ⟨delimiter, n⟩ := literal
  obtain ⟨hn, hc⟩ := List.getElem?_eq_some_iff.mp hopens
  have hdrop : cs.drop n = delimiter.char :: cs.drop (n + 1) := by
    rw [List.drop_eq_getElem_cons hn, hc]
  have hopen : LeftOpen delimiter (cs.drop (n + 1)) := by
    intro body rest hrest hbody
    apply hunclosed (delimiter.char :: (body ++ [delimiter.char]))
    refine ⟨⟨body, hbody, rfl⟩, rest, ?_⟩
    rw [hdrop, hrest, List.cons_append, List.append_assoc, List.singleton_append]
  rw [hscan, hdrop, scanFrom_divider (isDivider_char delimiter) hsettle,
    scanFrom_of_fresh (fresh_delimiter n delimiter), hopen.scanFrom_eq_error]
  rfl

/-- A text without a literal that is never closed is scanned to tokens. -/
theorem exists_scanFrom_eq_ok (hnone : ∀ literal, ¬ NeverClosed cs literal) :
    ∃ tokens, scanFrom none 0 cs = .ok tokens := by
  have hlength := Outside.start.length (Nat.zero_le cs.length)
  obtain ⟨state, first, last, hsettle, hscan⟩ := hlength.scanned fun literal hliteral =>
    absurd hliteral (hnone literal)
  rw [List.drop_length, scanFrom_nil, hsettle] at hscan
  exact ⟨_, hscan⟩

/-- If a text opens a literal that is never closed, there is a first one. -/
theorem NeverClosed.exists_first {literal : Unterminated} (h : NeverClosed cs literal) :
    ∃ first, IsFirstUnclosed cs first := by
  obtain ⟨first, hfirst, hleast⟩ :=
    (measure Unterminated.position).wf.has_min {other | NeverClosed cs other} ⟨literal, h⟩
  exact ⟨first, hfirst, fun other hother => Nat.le_of_not_lt (hleast other hother)⟩

/-- The scanner objects to the first literal that is never closed, and to nothing else. -/
theorem scanFrom_eq_error_iff {literal : Unterminated} :
    scanFrom none 0 cs = .error literal ↔ IsFirstUnclosed cs literal := by
  constructor
  · intro h
    by_cases hnone : ∃ other, NeverClosed cs other
    · obtain ⟨other, hother⟩ := hnone
      obtain ⟨first, hfirst⟩ := hother.exists_first
      rw [hfirst.scanFrom_eq_error] at h
      rw [← Except.error.inj h]
      exact hfirst
    · obtain ⟨tokens, hscan⟩ := exists_scanFrom_eq_ok fun other hother => hnone ⟨other, hother⟩
      rw [hscan] at h
      exact nomatch h
  · exact IsFirstUnclosed.scanFrom_eq_error

/-- Every text is scanned to tokens that lie in it one after the other, or the scanner objects to it
and the reader names the column of a literal. It is the first literal that is never closed, and the
scanner objects wherever there is one. -/
theorem scan_tiles_or_objects (text : Text) :
    ((∃ tokens, scan text = .ok tokens ∧ Placement text tokens) ∨
        ∃ literal, scan text = .error literal ∧
          Record.ofLiteral text = .error (.unterminated literal) ∧
          (Fault.malformed (.unterminated literal)).className = "PlaybookSyntaxError" ∧
          (Fault.malformed (.unterminated literal)).message = literal.delimiter.literalName ++
            " not terminated at column " ++ toString (literal.position + 1)) ∧
      ∀ literal, scan text = .error literal ↔ IsFirstUnclosed text.toList literal := by
  constructor
  · cases hscan : scan text with
    | ok tokens => exact .inl ⟨tokens, rfl, placement_of_scan hscan⟩
    | error literal =>
        have hread : Record.ofLiteral text = .error (.unterminated literal) := by
          simp only [Record.ofLiteral, hscan]
        exact .inr ⟨literal, rfl, hread, rfl, rfl⟩
  · intro literal
    exact scanFrom_eq_error_iff

/-- A quote inside a closed literal opens none, and a backslash takes a line feed along. -/
example : scan "\"'\" 'a\\\nb' \x60c" = .error ⟨.back, 11⟩ := by decide

end Playbook.Token
