import Mathlib.Data.List.Chain
import Playbook.Proofs.Scanner

/-! # Lexemes are scanned to their tokens

Whatever a text holds at a place between two tokens, blank characters are skipped, a mark and a
closed literal are tokens at once, and a word is one if no word character follows. Hence a text that
is tiled by identifiers, literals and marks is scanned to exactly those tokens.

## Implementation notes

Numbers and stray characters are left out: a point that is a stray character before one text begins
a number before another. -/

namespace Playbook.Token

open Text

variable {position : Nat} {rest : List CodePoint}

/-- Blank characters between two tokens are skipped. -/
theorem scanFrom_blank {gap : List CodePoint} (hgap : gap.all isBlank = true) :
    scanFrom none position (gap ++ rest) = scanFrom none (position + gap.length) rest := by
  induction gap generalizing position with
  | nil => rfl
  | cons c gap ih =>
      rw [List.all_cons, Bool.and_eq_true] at hgap
      have hfresh : fresh position c = ([], none) := by simp [fresh, hgap.1]
      have hposition : position + 1 + gap.length = position + (c :: gap).length := by
        rw [List.length_cons]
        omega
      rw [List.cons_append, scanFrom_of_fresh hfresh, ih hgap.2, hposition]

/-- A word in progress takes word characters along and ends before any other. -/
theorem scanFrom_word {cs chars : List CodePoint} (start : Nat) (hcs : cs.all isWord = true)
    (hrest : ∀ c ∈ rest.head?, isWord c = false) :
    scanFrom (some ⟨.word, chars, start⟩) position (cs ++ rest) =
      (scanFrom none (position + cs.length) rest).map
        (⟨.identifier, Text.ofList (chars ++ cs), start⟩ :: ·) := by
  induction cs generalizing chars position with
  | nil =>
      rw [List.append_nil, List.nil_append]
      cases rest with
      | nil => rfl
      | cons c rest =>
          have hparts : Pending.effect ⟨.word, chars, start⟩ c = .parts := by
            simp [Pending.effect, hrest c rfl]
          exact scanFrom_of_parts hparts rfl rest
  | cons c cs ih =>
      rw [List.all_cons, Bool.and_eq_true] at hcs
      have hgrows : Pending.effect ⟨.word, chars, start⟩ c =
          .grows ⟨.word, chars ++ [c], start⟩ := by
        simp [Pending.effect, Pending.push, hcs.1]
      have hposition : position + 1 + cs.length = position + (c :: cs).length := by
        rw [List.length_cons]
        omega
      rw [List.cons_append, scanFrom_of_grows hgrows, ih hcs.2, hposition, List.append_assoc]
      rfl

/-- A literal in progress takes its body along and ends with its delimiter. -/
theorem scanFrom_body {delimiter : Delimiter} {body chars lexeme : List CodePoint} {stop : Nat}
    (start : Nat) (hbody : Body delimiter body)
    (hlexeme : lexeme = chars ++ body ++ [delimiter.char])
    (hstop : stop = position + body.length + 1) :
    scanFrom (some ⟨.literal delimiter false, chars, start⟩) position
        (body ++ delimiter.char :: rest) =
      (scanFrom none stop rest).map (⟨delimiter.tokenKind, Text.ofList lexeme, start⟩ :: ·) := by
  induction hbody generalizing chars position with
  | nil =>
      have hcloses := Pending.effect_delimiter chars start delimiter
      rw [List.append_nil] at hlexeme
      rw [← hlexeme] at hcloses
      rw [List.nil_append, scanFrom_of_closes hcloses, hstop]
      rfl
  | raw hd hc _ ih =>
      subst hd
      rw [List.cons_append, scanFrom_of_grows (Pending.effect_raw chars start hc)]
      exact ih (by simpa using hlexeme) (by rw [hstop, List.length_cons]; omega)
  | plain hc hbackslash hline _ ih =>
      rw [List.cons_append,
        scanFrom_of_grows (Pending.effect_plain chars start hc hbackslash hline)]
      exact ih (by simpa using hlexeme) (by rw [hstop, List.length_cons]; omega)
  | @escaped c cs hd _ ih =>
      rw [List.cons_append, List.cons_append,
        scanFrom_of_grows (Pending.effect_backslash chars start hd),
        scanFrom_of_grows (Pending.effect_escaped (chars ++ [CodePoint.scalar '\\']) start hd c)]
      exact ih (by simpa using hlexeme) (by rw [hstop, List.length_cons, List.length_cons]; omega)

/-- Between two tokens a delimiter begins a literal. -/
theorem fresh_delimiter (position : Nat) (delimiter : Delimiter) :
    fresh position delimiter.char =
      ([], some ⟨.literal delimiter false, [delimiter.char], position⟩) := by
  cases delimiter <;> rfl

/-- A lexeme at a place between two tokens is scanned to its token. -/
theorem scanFrom_lexeme {kind : TokenKind} {lexeme : List CodePoint} (h : Lexeme kind lexeme)
    (hkind : kind ≠ .number ∧ kind ≠ .stray)
    (hrest : kind = .identifier → ∀ c ∈ rest.head?, isWord c = false) :
    scanFrom none position (lexeme ++ rest) =
      (scanFrom none (position + lexeme.length) rest).map
        (⟨kind, Text.ofList lexeme, position⟩ :: ·) := by
  have hliteral (delimiter : Delimiter) (h : IsLiteral delimiter lexeme) :
      scanFrom none position (lexeme ++ rest) =
        (scanFrom none (position + lexeme.length) rest).map
          (⟨delimiter.tokenKind, Text.ofList lexeme, position⟩ :: ·) := by
    obtain ⟨body, hbody, rfl⟩ := h
    rw [List.cons_append, scanFrom_of_fresh (fresh_delimiter position delimiter),
      List.append_assoc, List.singleton_append]
    apply scanFrom_body position hbody rfl
    simp only [List.length_cons, List.length_append, List.length_nil]
    omega
  cases kind with
  | identifier =>
      cases lexeme with
      | nil => simp [Lexeme, isIdentifier] at h
      | cons c cs =>
          obtain ⟨hc, hcs⟩ := isIdentifier_cons.mp h
          have hfresh : fresh position c = ([], some ⟨.word, [c], position⟩) := by
            simp [fresh, isBlank_of_isWord (isWord_of_isWordStart hc), hc]
          have hposition : position + 1 + cs.length = position + (c :: cs).length := by
            rw [List.length_cons]
            omega
          rw [List.cons_append, scanFrom_of_fresh hfresh, scanFrom_word position hcs (hrest rfl),
            hposition]
          rfl
  | quoted => exact hliteral .double h
  | raw => exact hliteral .back h
  | rune => exact hliteral .single h
  | number => exact absurd rfl hkind.1
  | mark =>
      obtain ⟨c, rfl, hc⟩ := h
      have hfeed : feed none position c = .ok ([single .mark c position], none) := by
        rw [feed, fresh_of_isMark hc]
      rw [List.singleton_append, scanFrom_cons_of_ok hfeed]
      rfl
  | stray => exact absurd rfl hkind.2

/-- A text whose first token, if any, is a mark does not begin with a word character. -/
theorem Tiled.head_not_word {start : Nat} {cs : List CodePoint} {tokens : List Token}
    (h : Tiled start tokens cs) (hmark : ∀ token ∈ tokens.head?, token.kind = .mark) :
    ∀ c ∈ cs.head?, isWord c = false := by
  have hgap {gap rest : List CodePoint} (hgap : gap.all isBlank = true)
      (hrest : ∀ c ∈ rest.head?, isWord c = false) :
      ∀ c ∈ (gap ++ rest).head?, isWord c = false := by
    cases gap with
    | nil => exact hrest
    | cons d gap =>
        intro c hc
        obtain rfl : d = c := by simpa using hc
        rw [List.all_cons, Bool.and_eq_true] at hgap
        exact isWord_of_isBlank hgap.1
  cases h with
  | blank hall =>
      have hnil : ∀ c ∈ ([] : List CodePoint).head?, isWord c = false := by simp
      simpa using hgap hall hnil
  | @token _ gap kind lexeme tokens rest hall hlexeme _ =>
      obtain rfl : kind = .mark := hmark _ rfl
      obtain ⟨c, rfl, hc⟩ := hlexeme
      apply hgap hall
      intro d hd
      obtain rfl : c = d := by simpa using hd
      exact isWord_of_isMark hc

/-- An identifier is followed by a mark. -/
def NameThenMark (a b : Token) : Prop := a.kind = .identifier → b.kind = .mark

/-- Any token but an identifier may be followed by anything. -/
theorem isChain_cons {token : Token} {tokens : List Token} (htoken : token.kind ≠ .identifier)
    (h : tokens.IsChain NameThenMark) : (token :: tokens).IsChain NameThenMark := by
  cases tokens with
  | nil => exact .singleton token
  | cons next tokens => exact .cons_cons (fun hidentifier => absurd hidentifier htoken) h

/-- Identifiers that are followed by marks, literals and marks are found wherever they tile a
text. -/
theorem scanFrom_of_tiled {start : Nat} {cs : List CodePoint} {tokens : List Token}
    (h : Tiled start tokens cs)
    (hkinds : ∀ token ∈ tokens, token.kind ≠ .number ∧ token.kind ≠ .stray)
    (hchain : tokens.IsChain NameThenMark) :
    scanFrom none start cs = .ok tokens := by
  induction h with
  | @blank start gap hgap =>
      rw [← List.append_nil gap, scanFrom_blank hgap]
      rfl
  | @token start gap kind lexeme tokens rest hgap hlexeme tail ih =>
      have hrest : kind = .identifier → ∀ c ∈ rest.head?, isWord c = false := by
        intro hidentifier
        apply tail.head_not_word
        intro token htoken
        cases tokens with
        | nil => simp at htoken
        | cons first tokens =>
            obtain rfl : first = token := by simpa using htoken
            exact hchain.rel hidentifier
      have hlater : scanFrom none (start + (gap ++ lexeme).length) rest = .ok tokens := by
        apply ih
        · intro token htoken
          exact hkinds token (List.mem_cons_of_mem _ htoken)
        · exact hchain.of_cons
      rw [scanFrom_blank hgap, scanFrom_lexeme hlexeme (hkinds _ List.mem_cons_self) hrest,
        Nat.add_assoc, ← List.length_append, hlater]
      rfl

end Playbook.Token
