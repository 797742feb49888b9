import Playbook.Proofs.Effects
import Playbook.Proofs.LiteralCompletion
import Playbook.Proofs.LiteralCuts
import Playbook.Proofs.LiteralFaults

/-! # A text that was refused stays refused

The reader takes one token at a time, so what it objects to stands when more text follows. Only the
last token of a text may still become another, and what the reader refuses of one it refuses of the
other. A literal that is not closed is the exception: more text may close it. Hence lines that make
a record are refused on the way only where a line ends inside a value. -/

namespace Playbook.Record

open Token

variable {text more : Text} {record : Record} {fault : RecordFault}

namespace Progress

/-- Tokens that are refused are refused whatever follows them. -/
theorem foldlM_append_of_error {tokens rest : List Token} {progress : Progress}
    (h : tokens.foldlM take progress = .error fault) :
    (tokens ++ rest).foldlM take progress = .error fault := by
  rw [List.foldlM_append, h, error_bind]

/-- What is refused of one token is refused of any that is alike. -/
theorem take_error_of_alike {progress : Progress} {token other : Token}
    (h : progress.take token = .error fault) (halike : Alike other token)
    (hlexeme : Lexeme token.kind token.text.toList)
    (hother : Lexeme other.kind other.text.toList) :
    ∃ later, progress.take other = .error later ∧ later.isSyntax = true := by
  cases htake : progress.take other with
  | error later =>
      refine ⟨later, rfl, ?_⟩
      by_contra hsyntax
      obtain ⟨_, _, _, _, -, hkind, -⟩ := awaiting_of_take_eq_error htake (by simpa using hsyntax)
      cases halike with
      | names ha _ => simp [ha] at hkind
      | others ha _ => rcases ha with ha | ha <;> simp [ha] at hkind
  | ok next =>
      obtain ⟨reached, hreached, -⟩ := (takes_of_take htake).exists_of_alike halike hother hlexeme
      rw [hreached.take_eq] at h
      cases h

end Progress

/-- A text whose tokens are refused is refused with more behind it, and for its form if it was before. -/
theorem ofLiteral_append_of_error {tokens : List Token} (hscan : scan text = .ok tokens)
    (hfold : tokens.foldlM Progress.take .start = .error fault) (more : Text) :
    ∃ later, ofLiteral (text ++ more) = .error later ∧
      (fault.isSyntax = true → later.isSyntax = true) := by
  rw [ofLiteral]
  cases hall : scan (text ++ more) with
  | error literal => exact ⟨.unterminated literal, rfl, fun _ => rfl⟩
  | ok all =>
      suffices hlater : ∃ later, all.foldlM Progress.take .start = .error later ∧
          (fault.isSyntax = true → later.isSyntax = true) by
        obtain ⟨later, hlater, hsyntax⟩ := hlater
        exact ⟨later, by simp only [hlater, map_error], hsyntax⟩
      rcases scan_append_cases hscan hall with
        ⟨rest, rfl⟩ | ⟨first, last, token, rest, rfl, rfl, halike⟩
      · exact ⟨fault, Progress.foldlM_append_of_error hfold, id⟩
      · cases hfirst : first.foldlM Progress.take .start with
        | error earlier =>
            rw [Progress.foldlM_append_of_error hfirst] at hfold
            obtain rfl := Except.error.inj hfold
            exact ⟨earlier, Progress.foldlM_append_of_error hfirst, id⟩
        | ok progress =>
            have hlast : progress.take last = .error fault := by
              rw [List.foldlM_append, hfirst, ok_bind, List.foldlM_cons] at hfold
              cases htake : progress.take last with
              | error earlier => rw [htake] at hfold; exact hfold
              | ok next => rw [htake] at hfold; cases hfold
            obtain ⟨later, htoken, hsyntax⟩ := Progress.take_error_of_alike hlast halike.symm
              ((scan_tiled hscan).lexeme_of_mem (by simp))
              ((scan_tiled hall).lexeme_of_mem (by simp))
            refine ⟨later, ?_, fun _ => hsyntax⟩
            rw [List.foldlM_append, hfirst, ok_bind, List.foldlM_cons, htoken, error_bind]

/-- A beginning of a record that is refused ends inside a value. -/
theorem Layout.exists_inside_of_error {n : Nat} (layout : Layout text record)
    (hn : n ≤ text.length) (h : ofLiteral (cutAt text n) = .error fault) :
    ∃ literal, layout.IsValue literal ∧ Inside n literal := by
  by_contra hvalues
  by_cases hclosing : layout.closing.position < n
  · rw [layout.ofLiteral_cutAt_closed hn hclosing] at h
    cases h
  · have hopen : ofLiteral (cutAt text n) = .ok none := by
      apply layout.ofLiteral_cutAt_open (Nat.le_of_not_lt hclosing) hn
      intro delimiter token htoken hkind hinside
      exact hvalues ⟨token, layout.isValue_of_literal htoken hkind, hinside⟩
    rw [hopen] at h
    cases h

variable {τ : Type} [TimeScale τ] {production : Production}

/-- Literals go on from line to line. -/
theorem exists_foldl_addLine (hdialect : production.dialect = .literal) (lines : List Text)
    (text : Text) : ∃ more, lines.foldl production.addLine text = text ++ more := by
  induction lines generalizing text with
  | nil => exact ⟨"", (Text.append_empty text).symm⟩
  | cons line lines ih =>
      obtain ⟨more, hmore⟩ := ih (production.addLine text line)
      refine ⟨Text.trimLineEnd line ++ more, ?_⟩
      rw [List.foldl_cons, hmore, Production.addLine, hdialect, Text.append_assoc]

/-- A line that makes a text which is refused ends the run with that fault. -/
theorem upshot_takeLine_of_error {buffer line : Text}
    (h : production.dialect.read (production.addLine buffer line) = .error fault)
    (state : RunState τ) :
    upshot (production.takeLine buffer line) state = (.error (.malformed fault), state) := by
  simp [Production.takeLine, Step.parse, h, Fault.ofParse]

/-- What is refused for anything but a literal that is not closed is refused with any text behind it,
and for its form if it was before. Where lines are taken one by one, a line after which the text is
refused ends the run, and if more lines make a record of the text, that line ended inside a value. -/
theorem ofLiteral_rejects_finally (h : ofLiteral text = .error fault) :
    ((∀ literal, fault ≠ .unterminated literal) → ∀ more, ∃ later,
        ofLiteral (text ++ more) = .error later ∧
          ((Fault.malformed fault).className = "PlaybookSyntaxError" →
            (Fault.malformed later).className = "PlaybookSyntaxError")) ∧
      ∀ production : Production, production.dialect = .literal → ∀ buffer line,
        production.addLine buffer line = text →
          (∀ state : RunState τ,
            upshot (production.takeLine buffer line) state = (.error (.malformed fault), state)) ∧
          ∀ (lines : List Text) record,
            ofLiteral (lines.foldl production.addLine text) = .ok (some record) →
            ∃ (layout : Layout (lines.foldl production.addLine text) record) (literal : Token),
              layout.IsValue literal ∧ Inside text.length literal := by
  constructor
  · intro hclosed more
    rcases ofLiteral_eq_error h with ⟨literal, hliteral⟩ | ⟨tokens, hscan, hfold⟩
    · exact absurd hliteral (hclosed literal)
    · obtain ⟨later, hlater, hsyntax⟩ := ofLiteral_append_of_error hscan hfold more
      exact ⟨later, hlater, by rwa [className_eq_iff, className_eq_iff]⟩
  · intro production hdialect buffer line htext
    constructor
    · apply upshot_takeLine_of_error
      rw [hdialect, htext]
      exact h
    · intro lines record hread
      obtain ⟨more, hmore⟩ := exists_foldl_addLine hdialect lines text
      rw [hmore] at hread ⊢
      obtain ⟨layout⟩ := layout_of_ofLiteral hread
      have hlength : text.length ≤ (text ++ more).length := by
        rw [Text.length_append]
        exact Nat.le_add_right _ _
      have hcut : ofLiteral (cutAt (text ++ more) text.length) = .error fault := by
        rw [cutAt_append]
        exact h
      exact ⟨layout, layout.exists_inside_of_error hlength hcut⟩

/-- A point in place of a value is refused for good, although a digit behind it makes another token.
A value that is broken by the end of a line is refused too, and there more lines would make a
record. -/
theorem point_for_value_is_rejected_finally :
    ofLiteral "click\x7ba:." = .error (.notText "a" "click" ".") ∧
      (∃ later, ofLiteral ("click\x7ba:." ++ "5\x7d") = .error later ∧
        (Fault.malformed later).className = "PlaybookSyntaxError") ∧
      (∀ state : RunState Float,
        upshot ((⟨.builtin, .literal, none, ""⟩ : Production).takeLine "click\x7b" "a:.\n") state =
          (.error (.malformed (.notText "a" "click" ".")), state)) ∧
      ∃ (layout : Layout "click\x7ba:\"xy\"\x7d" ⟨"click", [("a", "xy")]⟩) (literal : Token),
        layout.IsValue literal ∧ Inside "click\x7ba:\"x".length literal := by
  have hpoint : ofLiteral "click\x7ba:." = .error (.notText "a" "click" ".") := by decide
  have hbroken : ofLiteral "click\x7ba:\"x" = .error (.unterminated ⟨.double, 8⟩) := by decide
  obtain ⟨hfinal, hline⟩ := ofLiteral_rejects_finally (τ := Float) hpoint
  obtain ⟨-, hmended⟩ := ofLiteral_rejects_finally (τ := Float) hbroken
  obtain ⟨later, hlater, hclass⟩ := hfinal (by simp) "5\x7d"
  refine ⟨hpoint, ⟨later, hlater, hclass rfl⟩, ?_, ?_⟩
  · exact (hline ⟨.builtin, .literal, none, ""⟩ rfl "click\x7b" "a:.\n" (by decide)).1
  · obtain ⟨-, hvalues⟩ :=
      hmended ⟨.builtin, .literal, none, ""⟩ rfl "" "click\x7ba:\"x\n" (by decide)
    have hjoined : [("y\"\x7d" : Text)].foldl
        (Production.addLine ⟨.builtin, .literal, none, ""⟩) "click\x7ba:\"x" =
          "click\x7ba:\"xy\"\x7d" := by decide
    have hread := hvalues ["y\"\x7d"] ⟨"click", [("a", "xy")]⟩ (by rw [hjoined]; decide)
    rw [hjoined] at hread
    exact hread

end Playbook.Record
