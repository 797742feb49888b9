import Playbook.Proofs.Lexeme

/-! # Tokens in progress

Whatever the scanner holds back suits the form that it remembers. A character that belongs to the
token keeps this so, and a token that is closed or ends is a lexeme of its class. -/

namespace Playbook.Token

open Text

namespace Pending

variable {delimiter : Delimiter} {c : CodePoint} (chars : List CodePoint) (start : Nat)

theorem effect_delimiter (delimiter : Delimiter) :
    effect ⟨.literal delimiter false, chars, start⟩ delimiter.char =
      .closes ⟨delimiter.tokenKind, Text.ofList (chars ++ [delimiter.char]), start⟩ := by
  cases delimiter <;> rfl

theorem effect_raw (hc : c ≠ Delimiter.back.char) :
    effect ⟨.literal .back false, chars, start⟩ c =
      .grows ⟨.literal .back false, chars ++ [c], start⟩ := by
  simp [effect, push, hc]

theorem effect_plain (hc : c ≠ delimiter.char) (hbackslash : c ≠ '\\') (hline : c ≠ '\n') :
    effect ⟨.literal delimiter false, chars, start⟩ c =
      .grows ⟨.literal delimiter false, chars ++ [c], start⟩ := by
  cases delimiter <;> simp [effect, push, hc, hbackslash, hline]

theorem effect_backslash (hd : delimiter ≠ .back) :
    effect ⟨.literal delimiter false, chars, start⟩ '\\' =
      .grows ⟨.literal delimiter true, chars ++ [.scalar '\\'], start⟩ := by
  cases delimiter with
  | back => exact absurd rfl hd
  | double | single => rfl

theorem effect_escaped (hd : delimiter ≠ .back) (c : CodePoint) :
    effect ⟨.literal delimiter true, chars, start⟩ c =
      .grows ⟨.literal delimiter false, chars ++ [c], start⟩ := by
  cases delimiter with
  | back => exact absurd rfl hd
  | double | single => rfl

theorem effect_line (hd : delimiter ≠ .back) :
    effect ⟨.literal delimiter false, chars, start⟩ '\n' = .breaks := by
  cases delimiter with
  | back => exact absurd rfl hd
  | double | single => rfl

end Pending

/-- What follows the opening delimiter of a literal in progress. -/
def Opened (delimiter : Delimiter) : Bool → List CodePoint → Prop
  | false, cs => Body delimiter cs
  | true, cs => delimiter ≠ .back ∧ ∃ body, Body delimiter body ∧ cs = body ++ [.scalar '\\']

/-- The characters of a token in progress suit its form. -/
def Pending.Valid (p : Pending) : Prop :=
  match p.form with
  | .word => isIdentifier p.chars = true
  | .number _ => Lexeme .number p.chars
  | .point => p.chars = [.scalar '.']
  | .literal delimiter escaped => ∃ cs, Opened delimiter escaped cs ∧ p.chars = delimiter.char :: cs

theorem Pending.Valid.ne_nil {p : Pending} (h : p.Valid) : p.chars ≠ [] := by
  obtain ⟨form, chars, position⟩ := p
  cases form with
  | word =>
      have hlexeme : Lexeme .identifier chars := h
      exact hlexeme.ne_nil
  | number _ =>
      have hlexeme : Lexeme .number chars := h
      exact hlexeme.ne_nil
  | point =>
      have hchars : chars = [.scalar '.'] := h
      simp [hchars]
  | literal delimiter escaped =>
      obtain ⟨cs, -, rfl⟩ := h
      exact List.cons_ne_nil _ _

/-- The classes that a token in progress may end up in. -/
def Form.MayBecome : Form → TokenKind → Prop
  | .word, kind => kind = .identifier
  | .number _, kind => kind = .number
  | .point, kind => kind = .number ∨ kind = .stray
  | .literal delimiter _, kind => kind = delimiter.tokenKind

theorem opened_plain {delimiter : Delimiter} {cs : List CodePoint} {c : CodePoint}
    (h : Opened delimiter false cs) (hback : delimiter ≠ .back) (hc : c ≠ delimiter.char)
    (hline : c ≠ '\n') : Opened delimiter (c = '\\') (cs ++ [c]) := by
  by_cases hbackslash : c = '\\'
  · simp only [hbackslash, decide_true]
    exact ⟨hback, cs, h, rfl⟩
  · simp only [hbackslash, decide_false]
    exact h.append (.plain hc hbackslash hline .nil)

theorem opened_escaped {delimiter : Delimiter} {cs : List CodePoint}
    (h : Opened delimiter true cs) (c : CodePoint) : Opened delimiter false (cs ++ [c]) := by
  obtain ⟨hback, body, hbody, rfl⟩ := h
  rw [List.append_assoc]
  exact hbody.append (.escaped hback .nil)

/-- A character that belongs to a token in progress is put at its end. -/
theorem Pending.effect_grows {p q : Pending} {c : CodePoint} (hp : p.Valid)
    (h : p.effect c = .grows q) :
    q.Valid ∧ q.chars = p.chars ++ [c] ∧ q.position = p.position ∧
      ∀ kind, q.form.MayBecome kind → p.form.MayBecome kind := by
  obtain ⟨form, chars, position⟩ := p
  cases form with
  | word =>
      simp only [effect] at h
      split at h
      · rename_i hc
        obtain rfl := Effect.grows.inj h
        exact ⟨isIdentifier_append hp (by simpa using hc), rfl, rfl, fun _ hk => hk⟩
      · simp at h
  | number exponent =>
      have hgrown : Lexeme .number (chars ++ [c]) := by
        obtain ⟨d, rest, rfl, hd⟩ := hp
        exact ⟨d, rest ++ [c], rfl, hd⟩
      simp only [effect] at h
      split at h
      · obtain rfl := Effect.grows.inj h
        exact ⟨hgrown, rfl, rfl, fun _ hk => hk⟩
      · split at h
        · obtain rfl := Effect.grows.inj h
          exact ⟨hgrown, rfl, rfl, fun _ hk => hk⟩
        · simp at h
  | point =>
      simp only [effect] at h
      split at h
      · obtain rfl := Effect.grows.inj h
        have hchars : chars = [.scalar '.'] := hp
        exact ⟨⟨'.', [c], by simp [push, hchars], .inr rfl⟩, rfl, rfl, fun _ hk => .inl hk⟩
      · simp at h
  | literal delimiter escaped =>
      obtain ⟨cs, hopened, hchars⟩ := hp
      simp only at hchars
      subst hchars
      cases delimiter with
      | back =>
          cases escaped with
          | true => exact absurd rfl hopened.1
          | false =>
              simp only [effect] at h
              split at h
              · simp at h
              · rename_i hc
                obtain rfl := Effect.grows.inj h
                have hnext : Body .back (cs ++ [c]) :=
                  Body.append hopened (.raw rfl hc .nil)
                exact ⟨⟨cs ++ [c], hnext, rfl⟩, rfl, rfl, fun _ hk => hk⟩
      | double | single =>
          cases escaped with
          | true =>
              obtain rfl := Effect.grows.inj h
              exact ⟨⟨cs ++ [c], opened_escaped hopened c, rfl⟩, rfl, rfl, fun _ hk => hk⟩
          | false =>
              simp only [effect] at h
              split at h
              · simp at h
              · rename_i hc
                split at h
                · simp at h
                · rename_i hline
                  obtain rfl := Effect.grows.inj h
                  exact ⟨⟨cs ++ [c], opened_plain hopened (by decide) hc hline, rfl⟩, rfl, rfl,
                    fun _ hk => hk⟩

/-- A character that meets what would be a token at the end of a text belongs to it, and then it
still would be one, or comes after it. -/
theorem Pending.effect_of_finish {p : Pending} {token : Token} (h : p.finish = .ok token)
    (c : CodePoint) :
    p.effect c = .parts ∨ ∃ q later, p.effect c = .grows q ∧ q.finish = .ok later := by
  obtain ⟨form, chars, position⟩ := p
  cases form with
  | word | point =>
      simp only [effect]
      split
      · exact .inr ⟨_, _, rfl, rfl⟩
      · exact .inl rfl
  | number exponent =>
      simp only [effect]
      split
      · exact .inr ⟨_, _, rfl, rfl⟩
      · split
        · exact .inr ⟨_, _, rfl, rfl⟩
        · exact .inl rfl
  | literal delimiter escaped => simp [finish] at h

/-- Only a literal may be closed or broken. -/
theorem Pending.form_of_stops (p : Pending) (c : CodePoint) (hgrows : ∀ q, p.effect c ≠ .grows q)
    (hparts : p.effect c ≠ .parts) :
    ∃ delimiter escaped, p.form = .literal delimiter escaped := by
  cases hform : p.form with
  | literal delimiter escaped => exact ⟨delimiter, escaped, rfl⟩
  | word | number | point =>
      have hfinish : ∃ token, p.finish = .ok token := by simp [finish, hform]
      obtain ⟨token, hfinish⟩ := hfinish
      rcases effect_of_finish hfinish c with heffect | ⟨q, _, heffect, -⟩
      · exact absurd heffect hparts
      · exact absurd heffect (hgrows q)

/-- Only a literal is closed by a character of its own. -/
theorem Pending.effect_closes {p : Pending} {c : CodePoint} {token : Token} (hp : p.Valid)
    (h : p.effect c = .closes token) :
    ∃ kind, token = ⟨kind, Text.ofList (p.chars ++ [c]), p.position⟩ ∧
      Lexeme kind (p.chars ++ [c]) ∧ p.form.MayBecome kind := by
  obtain ⟨delimiter, escaped, hform⟩ := p.form_of_stops c (by simp [h]) (by simp [h])
  obtain ⟨form, chars, position⟩ := p
  obtain rfl : form = .literal delimiter escaped := hform
  obtain ⟨cs, hopened, rfl⟩ : ∃ cs, Opened delimiter escaped cs ∧ chars = delimiter.char :: cs := hp
  cases escaped with
  | true =>
      rw [effect_escaped _ _ hopened.1] at h
      exact nomatch h
  | false =>
      by_cases hc : c = delimiter.char
      · subst hc
        rw [effect_delimiter] at h
        obtain rfl := Effect.closes.inj h
        have hliteral : IsLiteral delimiter (delimiter.char :: cs ++ [delimiter.char]) :=
          ⟨cs, hopened, rfl⟩
        exact ⟨delimiter.tokenKind, rfl, hliteral.lexeme, rfl⟩
      · cases delimiter with
        | back => simp [effect, hc] at h
        | double | single =>
            simp only [effect, if_neg hc] at h
            split at h <;> exact nomatch h

/-- A token in progress that is no literal is a token when nothing more belongs to it. -/
theorem Pending.finish_ok {p : Pending} {token : Token} (hp : p.Valid) (h : p.finish = .ok token) :
    ∃ kind, token = ⟨kind, Text.ofList p.chars, p.position⟩ ∧ Lexeme kind p.chars ∧
      p.form.MayBecome kind := by
  obtain ⟨form, chars, position⟩ := p
  cases form with
  | word => exact ⟨.identifier, (Except.ok.inj h).symm, hp, rfl⟩
  | number exponent => exact ⟨.number, (Except.ok.inj h).symm, hp, rfl⟩
  | point =>
      have hchars : chars = [.scalar '.'] := hp
      exact ⟨.stray, (Except.ok.inj h).symm, ⟨'.', hchars, rfl⟩, .inr rfl⟩
  | literal delimiter escaped => simp [finish] at h

/-- Nothing that is broken is a token. -/
theorem Pending.finish_of_breaks {p : Pending} {c : CodePoint} (h : p.effect c = .breaks) :
    ∃ delimiter, p.finish = .error ⟨delimiter, p.position⟩ := by
  obtain ⟨delimiter, escaped, hform⟩ := p.form_of_stops c (by simp [h]) (by simp [h])
  exact ⟨delimiter, by simp [finish, hform]⟩

/-- A token in progress may become a token: it keeps its position and the characters read, its class
suits its form, and a literal takes at least one character more. -/
structure Pending.Becomes (p : Pending) (token : Token) : Prop where
  position : token.position = p.position
  kind : p.form.MayBecome token.kind
  length : p.chars.length ≤ token.text.length
  longer : ∀ delimiter escaped, p.form = .literal delimiter escaped →
    p.chars.length < token.text.length

theorem Pending.becomes_of_finish {p : Pending} {token : Token} (hp : p.Valid)
    (h : p.finish = .ok token) : p.Becomes token := by
  obtain ⟨kind, rfl, -, hkind⟩ := p.finish_ok hp h
  refine ⟨rfl, hkind, by simp, fun delimiter escaped hform => ?_⟩
  simp [finish, hform] at h

theorem Pending.becomes_of_closes {p : Pending} {c : CodePoint} {token : Token} (hp : p.Valid)
    (h : p.effect c = .closes token) : p.Becomes token := by
  obtain ⟨kind, rfl, -, hkind⟩ := p.effect_closes hp h
  exact ⟨rfl, hkind, by simp, fun _ _ _ => by simp⟩

theorem Pending.becomes_of_grows {p q : Pending} {c : CodePoint} {token : Token} (hp : p.Valid)
    (h : p.effect c = .grows q) (hq : q.Becomes token) : p.Becomes token := by
  obtain ⟨-, hchars, hposition, hkinds⟩ := p.effect_grows hp h
  have hlength := hq.length
  rw [hchars, List.length_append, List.length_singleton] at hlength
  exact ⟨hq.position.trans hposition, hkinds _ hq.kind, by omega, fun _ _ _ => by omega⟩

/-- How a token in progress ends in the characters ahead of it, and which of them it leaves. -/
inductive Pending.Ends : Pending → List CodePoint → Token → List CodePoint → Prop
  /-- The text ends. -/
  | finished {p token} (hfinish : p.finish = .ok token) : Ends p [] token []
  /-- A character does not belong to it. -/
  | parted {p c cs token} (heffect : p.effect c = .parts) (hfinish : p.finish = .ok token) :
      Ends p (c :: cs) token (c :: cs)
  /-- A character closes it. -/
  | closed {p c cs token} (heffect : p.effect c = .closes token) : Ends p (c :: cs) token cs
  /-- A character belongs to it, and it ends in those after that one. -/
  | grown {p q c cs token rest} (heffect : p.effect c = .grows q) (tail : Ends q cs token rest) :
      Ends p (c :: cs) token rest

/-- What a token in progress ends in is a token that it may become. -/
theorem Pending.Ends.becomes {p : Pending} {cs rest : List CodePoint} {token : Token}
    (h : p.Ends cs token rest) (hp : p.Valid) : p.Becomes token := by
  induction h with
  | finished hfinish | parted _ hfinish => exact becomes_of_finish hp hfinish
  | closed heffect => exact becomes_of_closes hp heffect
  | grown heffect _ ih => exact becomes_of_grows hp heffect (ih (effect_grows hp heffect).1)

/-- Tokens that a reader takes alike: names, or tokens that no record holds and that may grow. -/
inductive Alike (a b : Token) : Prop
  | names (ha : a.kind = .identifier) (hb : b.kind = .identifier)
  | others (ha : a.kind = .number ∨ a.kind = .stray) (hb : b.kind = .number ∨ b.kind = .stray)

theorem Alike.symm {a b : Token} (h : Alike a b) : Alike b a := by
  cases h with
  | names ha hb => exact .names hb ha
  | others ha hb => exact .others hb ha

/-- What a token in progress is at the end of a text and what it is with more behind it are taken
alike. -/
theorem Pending.alike_of_finish {p : Pending} {last token : Token} (hp : p.Valid)
    (hfinish : p.finish = .ok last) (h : p.Becomes token) : Alike last token := by
  obtain ⟨kind, rfl, -, hkind⟩ := p.finish_ok hp hfinish
  have hbecomes := h.kind
  obtain ⟨form, chars, position⟩ := p
  cases form with
  | word => exact .names hkind hbecomes
  | number exponent => exact .others (.inl hkind) (.inl hbecomes)
  | point => exact .others hkind hbecomes
  | literal delimiter escaped => simp [finish] at hfinish

end Playbook.Token
