import Playbook.Proofs.LexemeScan
import Playbook.Step

/-! # Texts with blank characters in front

Blank characters in front of a text are skipped, so that its tokens are the same, only further on.
What the reader takes of a token does not depend on where the token stands. Hence blank characters in
front change nothing about what a text is read as, except for the place that a fault names. -/

namespace Playbook

namespace Token

variable {state : Option Pending} {position : Nat}

/-- A token in progress that began further on. -/
def Pending.moveBy (n : Nat) (p : Pending) : Pending := { p with position := n + p.position }

/-- A literal that is not closed, further on. -/
def Unterminated.moveBy (n : Nat) (literal : Unterminated) : Unterminated :=
  { literal with position := n + literal.position }

/-- The effect of a character on a token in progress that began further on. -/
def Effect.moveBy (n : Nat) : Effect → Effect
  | grows p => grows (p.moveBy n)
  | closes t => closes (t.moveBy n)
  | parts => parts
  | breaks => breaks

/-- Tokens further on, or the literal that is not closed further on. -/
def moveAll (n : Nat) : Except Unterminated (List Token) → Except Unterminated (List Token)
  | .ok tokens => .ok (tokens.map (moveBy n))
  | .error literal => .error (literal.moveBy n)

theorem Pending.finish_moveBy (p : Pending) (n : Nat) :
    (p.moveBy n).finish.map ([·]) = moveAll n (p.finish.map ([·])) := by
  obtain ⟨form, chars, start⟩ := p
  cases form <;> rfl

/-- The effect of a character does not depend on where the token began. -/
theorem Pending.effect_moveBy (p : Pending) (c : CodePoint) (n : Nat) :
    (p.moveBy n).effect c = (p.effect c).moveBy n := by
  obtain ⟨form, chars, start⟩ := p
  cases form with
  | word | point =>
      simp only [moveBy, effect]
      split <;> rfl
  | number exponent =>
      simp only [moveBy, effect]
      split
      · rfl
      · split <;> rfl
  | literal delimiter escaped =>
      cases delimiter with
      | back =>
          simp only [moveBy, effect]
          split <;> rfl
      | double | single =>
          cases escaped with
          | true => rfl
          | false =>
              simp only [moveBy, effect]
              split
              · rfl
              · split <;> rfl

theorem fresh_moveBy (position : Nat) (c : CodePoint) (n : Nat) :
    fresh (n + position) c =
      ((fresh position c).1.map (moveBy n), (fresh position c).2.map (Pending.moveBy n)) := by
  unfold fresh
  repeat' split
  all_goals rfl

/-- A character between or in tokens does the same further on. -/
theorem feed_moveBy (state : Option Pending) (position : Nat) (c : CodePoint) (n : Nat) :
    feed (state.map (Pending.moveBy n)) (n + position) c =
      match feed state position c with
      | .ok (tokens, next) => .ok (tokens.map (moveBy n), next.map (Pending.moveBy n))
      | .error literal => .error (literal.moveBy n) := by
  cases state with
  | none => exact congrArg Except.ok (fresh_moveBy position c n)
  | some p =>
      have hfinish := p.finish_moveBy n
      simp only [Option.map_some, feed, p.effect_moveBy c n]
      cases p.effect c with
      | grows q => rfl
      | closes t => rfl
      | parts | breaks =>
          cases hp : p.finish <;> cases hmoved : (p.moveBy n).finish <;>
            simp_all [moveAll, Effect.moveBy, fresh_moveBy]

/-- Characters further on are scanned to the same tokens further on. -/
theorem scanFrom_moveBy (state : Option Pending) (position n : Nat) (cs : List CodePoint) :
    scanFrom (state.map (Pending.moveBy n)) (n + position) cs =
      moveAll n (scanFrom state position cs) := by
  induction cs generalizing state position with
  | nil =>
      rw [scanFrom_nil, scanFrom_nil]
      cases state with
      | none => rfl
      | some p => exact p.finish_moveBy n
  | cons c cs ih =>
      have hfeed := feed_moveBy state position c n
      cases hstep : feed state position c with
      | error literal =>
          rw [hstep] at hfeed
          rw [scanFrom_cons_of_error hfeed, scanFrom_cons_of_error hstep]
          rfl
      | ok result =>
          obtain ⟨tokens, next⟩ := result
          rw [hstep] at hfeed
          rw [scanFrom_cons_of_ok hfeed, scanFrom_cons_of_ok hstep, Nat.add_assoc, ih]
          cases scanFrom next (position + 1) cs <;> simp [moveAll]

/-- Blank characters in front of a text move its tokens. -/
theorem scan_blank_append {gap : Text} (hgap : Text.isBlankText gap = true) (text : Text) :
    scan (gap ++ text) = moveAll gap.length (scan text) := by
  have hmoved := scanFrom_moveBy none 0 gap.length text.toList
  rw [scan, Text.toList_append, scanFrom_blank hgap, Text.length_toList, Nat.zero_add]
  exact hmoved

end Token

/-- A fault that names a place, further on. -/
def RecordFault.moveBy (n : Nat) : RecordFault → RecordFault
  | unterminated literal => unterminated (literal.moveBy n)
  | fault => fault

namespace Record

open Token

namespace Progress

/-- How far a record has been read whose tokens stand further on. -/
def moveBy (n : Nat) : Progress → Progress
  | keyed kind fields key => keyed kind fields (key.moveBy n)
  | progress => progress

theorem record?_moveBy (n : Nat) (progress : Progress) :
    (progress.moveBy n).record? = progress.record? := by
  cases progress <;> rfl

/-- What is taken of a token does not depend on where it stands. -/
theorem take_moveBy (n : Nat) (progress : Progress) (token : Token) :
    (progress.moveBy n).take (token.moveBy n) = (progress.take token).map (moveBy n) := by
  cases progress with
  | start | named | listing | valued =>
      simp only [moveBy, take, apply_ite (Except.map _), map_ok, map_error]
      rfl
  | keyed =>
      simp only [moveBy, take, Token.moveBy, apply_ite (Except.map _), map_ok, map_error]
  | awaiting =>
      simp only [moveBy, take, takeValue, Token.moveBy, apply_ite (Except.map _), map_error]
      cases TextLiteral.decode token.text <;> rfl
  | closed => rfl

theorem foldlM_take_moveBy (n : Nat) (tokens : List Token) (progress : Progress) :
    (tokens.map (Token.moveBy n)).foldlM take (progress.moveBy n) =
      (tokens.foldlM take progress).map (moveBy n) := by
  induction tokens generalizing progress with
  | nil => rfl
  | cons token tokens ih =>
      rw [List.map_cons, List.foldlM_cons, List.foldlM_cons, take_moveBy]
      cases progress.take token with
      | error fault => rfl
      | ok next => exact ih next

/-- The reader of tokens names no places. -/
theorem moveBy_of_take {n : Nat} {progress : Progress} {token : Token} {fault : RecordFault}
    (h : progress.take token = .error fault) : fault.moveBy n = fault := by
  cases progress with
  | start | named | listing | keyed | valued | closed =>
      simp only [take] at h
      repeat' split at h
      all_goals cases h
      all_goals rfl
  | awaiting =>
      simp only [take, takeValue] at h
      repeat' split at h
      all_goals cases h
      all_goals rfl

theorem moveBy_of_foldlM {n : Nat} {tokens : List Token} {progress : Progress}
    {fault : RecordFault} (h : tokens.foldlM take progress = .error fault) :
    fault.moveBy n = fault := by
  induction tokens generalizing progress with
  | nil => cases h
  | cons token tokens ih =>
      rw [List.foldlM_cons] at h
      cases htake : progress.take token with
      | error other =>
          rw [htake] at h
          obtain rfl := Except.error.inj h
          exact moveBy_of_take htake
      | ok next =>
          rw [htake] at h
          exact ih h

end Progress

/-- Blank characters in front of a text do not change the record that it is read as, and a fault only
in the place that it names. -/
theorem ofLiteral_blank_append {gap : Text} (hgap : Text.isBlankText gap = true) (text : Text) :
    ofLiteral (gap ++ text) =
      match ofLiteral text with
      | .ok record => .ok record
      | .error fault => .error (fault.moveBy gap.length) := by
  rw [ofLiteral, scan_blank_append hgap, ofLiteral]
  cases scan text with
  | error literal => rfl
  | ok tokens =>
      have hfold := Progress.foldlM_take_moveBy gap.length tokens .start
      have hmoved : (tokens.map (Token.moveBy gap.length)).foldlM Progress.take .start =
          (tokens.foldlM Progress.take .start).map (Progress.moveBy gap.length) := hfold
      simp only [moveAll, hmoved]
      cases hread : tokens.foldlM Progress.take .start with
      | error fault => simp [Progress.moveBy_of_foldlM hread]
      | ok progress => simp [Progress.record?_moveBy]

end Record

/-- Blank characters in front of a composite literal do not change the step that it makes. -/
theorem Step.parse_blank_append (vocabulary : Vocabulary) {gap : Text}
    (hgap : Text.isBlankText gap = true) (text : Text) :
    Step.parse vocabulary .literal (gap ++ text) =
      match Step.parse vocabulary .literal text with
      | .error (.malformed fault) => .error (.malformed (fault.moveBy gap.length))
      | result => result := by
  simp only [Step.parse, Dialect.read, Record.ofLiteral_blank_append hgap]
  cases Record.ofLiteral text with
  | error fault => rfl
  | ok record =>
      cases record with
      | none => rfl
      | some record =>
          dsimp only
          cases Step.ofRecord vocabulary record <;> rfl

end Playbook
