import Playbook.Proofs.Characters

/-! # Lexemes and tilings

What a token of each class looks like, said without the scanner, and what it means that tokens make
up a text: they stand in order, each at its position, and everything between them is blank.

## Implementation notes

The lexemes of numbers are described by their first character alone. No record holds a number, so it
is enough to tell them from the tokens that records do hold. -/

namespace Playbook.Token

open Text

/-- What may stand between the delimiters of a literal. Between back quotes only a back quote is
refused. Between other delimiters a backslash takes the next character along, and neither the
delimiter nor a line feed stands without one. -/
inductive Body (delimiter : Delimiter) : List CodePoint → Prop
  | nil : Body delimiter []
  | raw {c cs} (hd : delimiter = .back) (hc : c ≠ delimiter.char) (tail : Body delimiter cs) :
      Body delimiter (c :: cs)
  | plain {c cs} (hc : c ≠ delimiter.char) (hbackslash : c ≠ '\\') (hline : c ≠ '\n')
      (tail : Body delimiter cs) : Body delimiter (c :: cs)
  | escaped {c cs} (hd : delimiter ≠ .back) (tail : Body delimiter cs) :
      Body delimiter ('\\' :: c :: cs)

theorem Body.append {delimiter : Delimiter} {cs ds : List CodePoint} (hcs : Body delimiter cs)
    (hds : Body delimiter ds) : Body delimiter (cs ++ ds) := by
  induction hcs with
  | nil => exact hds
  | raw hd hc _ ih => exact .raw hd hc ih
  | plain hc hbackslash hline _ ih => exact .plain hc hbackslash hline ih
  | escaped hd _ ih => exact .escaped hd ih

/-- A closed literal: a body between two delimiters. -/
def IsLiteral (delimiter : Delimiter) (cs : List CodePoint) : Prop :=
  ∃ body, Body delimiter body ∧ cs = delimiter.char :: (body ++ [delimiter.char])

/-- The texts of the tokens of a class. -/
def Lexeme : TokenKind → List CodePoint → Prop
  | .identifier, cs => isIdentifier cs = true
  | .quoted, cs => IsLiteral .double cs
  | .raw, cs => IsLiteral .back cs
  | .rune, cs => IsLiteral .single cs
  | .number, cs => ∃ c rest, cs = c :: rest ∧ (isDigit c = true ∨ c = '.')
  | .mark, cs => ∃ c, cs = [c] ∧ isMark c = true
  | .stray, cs => ∃ c, cs = [c] ∧ isMark c = false

/-- A closed literal is the text of a token of its class. -/
theorem IsLiteral.lexeme {delimiter : Delimiter} {cs : List CodePoint} (h : IsLiteral delimiter cs) :
    Lexeme delimiter.tokenKind cs := by
  cases delimiter <;> exact h

/-- The text of a token is never empty. -/
theorem Lexeme.ne_nil {kind : TokenKind} {cs : List CodePoint} (h : Lexeme kind cs) : cs ≠ [] := by
  rintro rfl
  cases kind with
  | identifier => simp [Lexeme, isIdentifier] at h
  | quoted | raw | rune | number | mark | stray => simp [Lexeme, IsLiteral] at h

/-- A token whose text is a mark of the grammar is of the class of marks. -/
theorem Lexeme.eq_mark {kind : TokenKind} {c : CodePoint} (h : Lexeme kind [c])
    (hc : isMark c = true) : kind = .mark := by
  cases kind with
  | identifier =>
      have hword := isWord_of_mem_isIdentifier h (List.mem_singleton.mpr rfl)
      rw [isWord_of_isMark hc] at hword
      exact Bool.noConfusion hword
  | quoted | raw | rune => obtain ⟨body, -, hcs⟩ := h; simp at hcs
  | number =>
      obtain ⟨d, rest, hcs, hd⟩ := h
      obtain ⟨rfl, -⟩ := List.cons.inj hcs
      rcases isMark_eq_true_iff.mp hc with rfl | rfl | rfl | rfl <;> revert hd <;> decide
  | mark => rfl
  | stray =>
      obtain ⟨d, hcs, hd⟩ := h
      obtain ⟨rfl, -⟩ := List.cons.inj hcs
      rw [hc] at hd
      exact Bool.noConfusion hd

/-- The position after the last character of a token. -/
def stop (token : Token) : Nat := token.position + token.text.length

/-- A token that stands further on. -/
def moveBy (n : Nat) (token : Token) : Token := { token with position := n + token.position }

/-- The tokens make up the text that begins at `start`: in order, each at its position and a lexeme
of its class, with nothing but blank characters before, between and after them. -/
inductive Tiled : Nat → List Token → List CodePoint → Prop
  | blank {start gap} (hgap : gap.all isBlank = true) : Tiled start [] gap
  | token {start gap kind lexeme tokens rest} (hgap : gap.all isBlank = true)
      (hlexeme : Lexeme kind lexeme) (tail : Tiled (start + (gap ++ lexeme).length) tokens rest) :
      Tiled start (⟨kind, Text.ofList lexeme, start + gap.length⟩ :: tokens)
        (gap ++ (lexeme ++ rest))

namespace Tiled

/-- Blank characters may be put in front. -/
theorem blank_append {start : Nat} {gap cs : List CodePoint} {tokens : List Token}
    (hgap : gap.all isBlank = true) (h : Tiled (start + gap.length) tokens cs) :
    Tiled start tokens (gap ++ cs) := by
  cases h with
  | blank hgap' => exact .blank (by rw [List.all_append, hgap, hgap', Bool.and_self])
  | @token _ gap' kind lexeme tokens rest hgap' hlexeme tail =>
      have hall : (gap ++ gap').all isBlank = true := by
        rw [List.all_append, hgap, hgap', Bool.and_self]
      have htail : Tiled (start + ((gap ++ gap') ++ lexeme).length) tokens rest := by
        simpa only [List.append_assoc, List.length_append, Nat.add_assoc] using tail
      simpa only [List.append_assoc, List.length_append, Nat.add_assoc] using
        Tiled.token hall hlexeme htail

/-- Two texts that follow one another are made up by the tokens of both. -/
theorem append {start : Nat} {cs ds : List CodePoint} {tokens more : List Token}
    (h : Tiled start tokens cs) (hmore : Tiled (start + cs.length) more ds) :
    Tiled start (tokens ++ more) (cs ++ ds) := by
  induction h with
  | blank hgap => exact hmore.blank_append hgap
  | @token start gap kind lexeme tokens rest hgap hlexeme tail ih =>
      have hrest : Tiled (start + (gap ++ lexeme).length + rest.length) more ds := by
        simpa only [List.length_append, Nat.add_assoc] using hmore
      simpa only [List.append_assoc, List.cons_append] using
        Tiled.token hgap hlexeme (ih hrest)

/-- One token makes up its own text. -/
theorem single {kind : TokenKind} {lexeme : List CodePoint} (start : Nat) (h : Lexeme kind lexeme) :
    Tiled start [⟨kind, Text.ofList lexeme, start⟩] lexeme := by
  have htail : Tiled (start + (([] : List CodePoint) ++ lexeme).length) [] [] := .blank rfl
  have hsingle : Tiled start [⟨kind, Text.ofList lexeme, start + 0⟩] ([] ++ (lexeme ++ [])) :=
    .token rfl h htail
  simpa using hsingle

theorem lexeme_of_mem {start : Nat} {cs : List CodePoint} {tokens : List Token}
    (h : Tiled start tokens cs) {token : Token} (ht : token ∈ tokens) :
    Lexeme token.kind token.text.toList := by
  induction h with
  | blank => simp at ht
  | token _ hlexeme _ ih =>
      rcases List.mem_cons.mp ht with rfl | ht
      · simpa using hlexeme
      · exact ih ht

/-- Every token lies within the text. -/
theorem bounds {start : Nat} {cs : List CodePoint} {tokens : List Token} (h : Tiled start tokens cs)
    {token : Token} (ht : token ∈ tokens) :
    start ≤ token.position ∧ token.stop ≤ start + cs.length := by
  induction h with
  | blank => simp at ht
  | token _ _ _ ih =>
      rcases List.mem_cons.mp ht with rfl | ht
      · simp only [stop, Text.length_ofList, List.length_append]
        omega
      · have := ih ht
        simp only [List.length_append] at this ⊢
        omega

/-- The tokens of a text keep their order and distances wherever the text begins. -/
theorem moved {start : Nat} {cs : List CodePoint} {tokens : List Token} (h : Tiled start tokens cs)
    (n : Nat) : Tiled (n + start) (tokens.map (moveBy n)) cs := by
  induction h with
  | blank hgap => exact .blank hgap
  | @token start gap kind lexeme tokens rest hgap hlexeme _ ih =>
      rw [← Nat.add_assoc] at ih
      have htoken := Tiled.token hgap hlexeme ih
      rw [Nat.add_assoc] at htoken
      exact htoken

/-- Blank characters in front move the tokens of a text. -/
theorem after_blank {gap cs : List CodePoint} {tokens : List Token} (h : Tiled 0 tokens cs)
    (hgap : gap.all isBlank = true) : Tiled 0 (tokens.map (moveBy gap.length)) (gap ++ cs) := by
  apply blank_append hgap
  rw [Nat.zero_add]
  exact h.moved gap.length

/-- Nothing but blank characters follows the last token. -/
theorem exists_after_last {start : Nat} {cs : List CodePoint} {tokens : List Token} {last : Token}
    (h : Tiled start (tokens ++ [last]) cs) :
    ∃ front gap, cs = front ++ gap ∧ gap.all isBlank = true ∧
      start + front.length = last.stop := by
  generalize hall : tokens ++ [last] = all at h
  induction h generalizing tokens with
  | blank => simp at hall
  | @token start gap kind lexeme more rest _ _ tail ih =>
      cases tokens with
      | nil =>
          obtain ⟨rfl, rfl⟩ := List.cons.inj hall
          cases tail with
          | blank hgap =>
              refine ⟨gap ++ lexeme, rest, (List.append_assoc ..).symm, hgap, ?_⟩
              simp only [stop, Text.length_ofList, List.length_append]
              omega
      | cons first tokens =>
          obtain ⟨front, after, hrest, hafter, hstop⟩ := ih (List.cons.inj hall).2
          refine ⟨gap ++ lexeme ++ front, after, by simp [hrest], hafter, ?_⟩
          simp only [List.length_append] at hstop ⊢
          omega

/-- A token ends before the next one begins. -/
theorem pairwise {start : Nat} {cs : List CodePoint} {tokens : List Token} (h : Tiled start tokens cs) :
    tokens.Pairwise fun a b => a.stop ≤ b.position := by
  induction h with
  | blank => exact .nil
  | @token start gap kind lexeme tokens rest _ _ tail ih =>
      apply List.Pairwise.cons _ ih
      intro b hb
      have := (tail.bounds hb).1
      simp only [stop, Text.length_ofList, List.length_append] at this ⊢
      omega

end Tiled

end Playbook.Token
