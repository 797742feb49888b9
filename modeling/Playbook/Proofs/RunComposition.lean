import Playbook.Proofs.BlankFront
import Playbook.Proofs.DialectAgreement
import Playbook.Proofs.SideBySide

/-! # Runs one after another

Where no report is asked for, a run hands on nothing but its state, and nothing that is done while
lines are taken depends on whether the report was attempted. So a run over some lines and then a run
over others are one run over all of them, except that the blank text which the first lines leave over
stands in front of what is read next. It changes only the places and texts that messages name.

## Implementation notes

The readings with and without that text are compared line by line. They are alike from the first step
on that is performed, because nothing is left over then. -/

namespace Playbook

open Text

variable {τ : Type}

/-- A run after its report has been attempted. -/
def RunState.marked (state : RunState τ) : RunState τ := { state with reported := true }

namespace Running

variable {α β : Type} {run : Running τ α}

/-- A part of a run does the same whether or not the report has been attempted. -/
def Heedless (run : Running τ α) : Prop :=
  ∀ state, upshot run state.marked = ((upshot run state).1, (upshot run state).2.marked)

/-- So does what goes alike in two runs of which one has attempted its report. -/
theorem heedless_of_alike (h : Alike (fun s t => t = s.marked) run run) : Heedless run := by
  intro state
  obtain ⟨hresult, hstate⟩ := h state _ rfl
  exact Prod.ext hresult hstate

theorem unnoticed_marked [TimeScale τ] : Unnoticed fun s t : RunState τ => t = s.marked where
  play action := by
    rintro state _ rfl
    exact ⟨rfl, rfl⟩
  printErr line := by
    rintro state _ rfl
    exact ⟨rfl, rfl⟩
  addOutcome outcome := by
    rintro state _ rfl
    exact ⟨rfl, rfl⟩
  clock := by
    rintro state _ rfl
    rfl
  cancelled := by
    rintro state _ rfl
    rfl
  disk := by
    rintro state _ rfl
    rfl

end Running

namespace Production

variable [TimeScale τ] {production : Production}

/-- End with the fault of the source, if there is one; otherwise only blank text may be left over. -/
def finish (fault : Option Fault) (buffer : Text) : Running τ Unit :=
  match fault with
  | some fault => throw (Source.raised fault)
  | none => if isBlankText buffer then pure () else throw (.malformed (.unfinished buffer))

omit [TimeScale τ] in
theorem alike_finish {R : RunState τ → RunState τ → Prop} (fault : Option Fault) (buffer : Text) :
    Alike R (finish fault buffer) (finish fault buffer) := by
  cases fault with
  | some fault => exact .throw _
  | none =>
      rw [finish]
      split
      · exact .pure ()
      · exact .throw _

omit [TimeScale τ] in
theorem finish_state (fault : Option Fault) (buffer : Text) (state : RunState τ) :
    (upshot (finish fault buffer) state).2 = state := by
  cases fault with
  | some fault => rfl
  | none =>
      rw [finish]
      split <;> rfl

/-- Following lines is taking them and finishing. -/
theorem follow_listed (production : Production) (lines : List Text) (fault : Option Fault) :
    (production.follow (.listed lines fault) : Running τ Unit) =
      production.takeLines "" lines >>= finish fault := by
  rw [follow, takeSource, bind_assoc]
  refine congrArg _ (funext fun buffer => ?_)
  cases fault with
  | some fault => rfl
  | none => rw [pure_bind, finish]

/-- Without a path for the report only the attempt is noted. -/
theorem upshot_report_of_no_report (h : production.reportPath = none) (state : RunState τ) :
    upshot production.report state = (.ok (), state.marked) := by
  rw [report, upshot_bind_of_ok (upshot_get state)]
  split
  · rename_i hreported
    rw [upshot_pure, RunState.marked, ← hreported]
  · rw [h]
    rfl

/-- Without a report a run is what follows its source, and the attempt is noted. -/
theorem upshot_run_of_no_report (h : production.reportPath = none) (source : Source)
    (state : RunState τ) :
    upshot (production.run source) state =
      ((upshot (production.follow source) state).1,
        (upshot (production.follow source) state).2.marked) := by
  rw [run, Running.upshot_endingWith, upshot_report_of_no_report h]

/-- What taking lines comes to with a blank text in front and without it: the same, or what is left
over with that text in front, or a fault that names a place further on. -/
inductive BehindGap (gap : Text) : Except Fault Text → Except Fault Text → Prop
  | alike (result : Except Fault Text) : BehindGap gap result result
  | left (buffer : Text) : BehindGap gap (.ok (gap ++ buffer)) (.ok buffer)
  | moved (fault : RecordFault) :
      BehindGap gap (.error (.malformed (fault.moveBy gap.length))) (.error (.malformed fault))

/-- A blank text in front of composite literals changes nothing that is done. -/
theorem takeLines_behind_gap (hdialect : production.dialect = .literal) {gap : Text}
    (hgap : isBlankText gap = true) (buffer : Text) (lines : List Text) (state : RunState τ) :
    (upshot (production.takeLines (gap ++ buffer) lines) state).2 =
        (upshot (production.takeLines buffer lines) state).2 ∧
      BehindGap gap (upshot (production.takeLines (gap ++ buffer) lines) state).1
        (upshot (production.takeLines buffer lines) state).1 := by
  induction lines generalizing buffer with
  | nil => exact ⟨rfl, .left buffer⟩
  | cons line lines ih =>
      have hadd : production.addLine (gap ++ buffer) line = gap ++ production.addLine buffer line := by
        simp only [addLine, hdialect, Text.append_assoc]
      have hparse := Step.parse_blank_append production.vocabulary hgap (production.addLine buffer line)
      rw [takeLines, takeLines, takeLine, takeLine, hadd, hdialect, hparse]
      cases Step.parse production.vocabulary .literal (production.addLine buffer line) with
      | error fault =>
          cases fault with
          | malformed fault => exact ⟨rfl, .moved fault⟩
          | unbuildable fault => exact ⟨rfl, .alike _⟩
      | ok step =>
          cases step with
          | none => exact ih (production.addLine buffer line)
          | some step => exact ⟨rfl, .alike _⟩

/-- Where flat lines are taken, what was left over before plays no part, unless no line is taken. -/
theorem takeLines_flat (hdialect : production.dialect = .flat) (gap buffer : Text)
    {lines : List Text} (hlines : lines ≠ []) :
    (production.takeLines gap lines : Running τ Text) = production.takeLines buffer lines := by
  cases lines with
  | nil => exact absurd rfl hlines
  | cons line lines =>
      have hadd : production.addLine gap line = production.addLine buffer line := by
        simp only [addLine, hdialect]
      rw [takeLines, takeLines, takeLine, takeLine, hadd]

/-- A fault that is met further on is of the same class. -/
theorem className_moveBy (n : Nat) (fault : RecordFault) :
    (Fault.malformed (fault.moveBy n)).className = (Fault.malformed fault).className := by
  cases fault <;> rfl

omit [TimeScale τ] in
/-- A blank text in front of what is left over does not decide whether that is a fault. -/
theorem className_finish_behind_gap {gap : Text} (hgap : isBlankText gap = true)
    (fault : Option Fault) (buffer : Text) (state : RunState τ) :
    (upshot (finish fault (gap ++ buffer)) state).1.mapError Fault.className =
      (upshot (finish fault buffer) state).1.mapError Fault.className := by
  cases fault with
  | some fault => rfl
  | none =>
      have hblank : isBlankText (gap ++ buffer) = isBlankText buffer := by
        rw [Bool.eq_iff_iff, isBlankText_append]
        exact and_iff_right hgap
      rw [finish, finish, hblank]
      split <;> rfl

/-- Behind a blank text all ends in the same state, and in a fault of the same class if in any; where
flat lines are taken, in the same fault. -/
theorem finish_behind_gap (production : Production) {gap : Text}
    (hgap : isBlankText gap = true) (lines : List Text) (fault : Option Fault)
    (state : RunState τ) :
    let behind := upshot (production.takeLines gap lines >>= finish fault) state
    let before := upshot (production.takeLines "" lines >>= finish fault) state
    behind.2 = before.2 ∧ behind.1.mapError Fault.className = before.1.mapError Fault.className ∧
      (production.dialect = .flat → behind.1 = before.1) := by
  intro behind before
  cases hdialect : production.dialect with
  | literal =>
      suffices h : behind.2 = before.2 ∧
          behind.1.mapError Fault.className = before.1.mapError Fault.className from
        ⟨h.1, h.2, by simp⟩
      obtain ⟨hstate, hresult⟩ := takeLines_behind_gap hdialect hgap "" lines state
      rw [Text.append_empty] at hstate hresult
      dsimp only [behind, before]
      rw [upshot_bind, upshot_bind]
      revert hstate hresult
      cases upshot (production.takeLines gap lines) state with
      | mk result after =>
          cases upshot (production.takeLines "" lines) state with
          | mk result' after' =>
              rintro rfl hresult
              cases hresult with
              | alike => exact ⟨rfl, rfl⟩
              | moved fault => exact ⟨rfl, congrArg Except.error (className_moveBy gap.length fault)⟩
              | left buffer =>
                  refine ⟨?_, className_finish_behind_gap hgap fault buffer _⟩
                  simp only [finish_state]
  | flat =>
      suffices h : behind = before from ⟨by rw [h], by rw [h], fun _ => by rw [h]⟩
      cases lines with
      | nil =>
          have hnothing : (finish fault gap : Running τ Unit) = finish fault "" := by
            cases fault with
            | some fault => rfl
            | none =>
                rw [finish, if_pos hgap]
                rfl
          simp only [behind, before, takeLines, pure_bind, hnothing]
      | cons line lines =>
          simp only [behind, before, takeLines_flat hdialect gap "" (List.cons_ne_nil line lines)]

/-- Without a report, a run over lines that ends well and then a run over more lines leave the state
that one run over all of them leaves, and end in a fault of the same class if in any. The fault is the
same where nothing is left over in between or lines are flat. A run that fails before its end fails in
the same way whatever lines follow. -/
theorem run_append (hreport : production.reportPath = none) (first rest : List Text)
    (fault : Option Fault) (state : RunState τ) :
    let single := upshot (production.run (.listed (first ++ rest) fault)) state
    let double := upshot (do
      production.run (.listed first none)
      production.run (.listed rest fault)) state
    ((upshot (production.run (.listed first none)) state).1 = .ok () →
      single.2 = double.2 ∧ single.1.mapError Fault.className = double.1.mapError Fault.className ∧
        (production.dialect = .flat ∨
            (upshot (production.takeLines "" first) state).1 = .ok "" →
          single.1 = double.1)) ∧
    ∀ early, (upshot (production.run (.listed first none)) state).1 = .error early →
      (∀ buffer, early ≠ .malformed (.unfinished buffer)) →
      single = upshot (production.run (.listed first none)) state := by
  intro single double
  have hsingle : single = upshot (production.run (.listed (first ++ rest) fault)) state := rfl
  have hdouble : double = upshot (do
      production.run (.listed first none)
      production.run (.listed rest fault)) state := rfl
  clear_value single double
  rw [upshot_run_of_no_report hreport, follow_listed, takeLines_append, bind_assoc] at hsingle
  rw [upshot_bind, upshot_run_of_no_report hreport, follow_listed] at hdouble
  rw [upshot_run_of_no_report hreport, follow_listed]
  cases htake : upshot (production.takeLines "" first) state with
  | mk result middle =>
      cases result with
      | error earlier =>
          rw [upshot_bind_of_error htake] at hsingle hdouble ⊢
          exact ⟨by simp, fun _ _ _ => hsingle⟩
      | ok gap =>
          rw [upshot_bind_of_ok htake] at hsingle hdouble ⊢
          by_cases hgap : isBlankText gap = true
          · have hdone : upshot (finish none gap) middle = (.ok (), middle) := by
              rw [finish, if_pos hgap]
              rfl
            refine ⟨fun _ => ?_, fun early hearly => by simp [hdone] at hearly⟩
            have hheedless := Running.heedless_of_alike
              ((Running.unnoticed_marked.takeLines production "" rest).bind fun left =>
                alike_finish fault left) middle
            rw [hdone] at hdouble
            dsimp only at hdouble
            rw [upshot_run_of_no_report hreport, follow_listed, hheedless] at hdouble
            obtain ⟨hstate, hclass, hflat⟩ := finish_behind_gap production hgap rest fault middle
            rw [hsingle, hdouble]
            refine ⟨(congrArg RunState.marked hstate :), hclass, ?_⟩
            rintro (hdialect | hempty)
            · exact hflat hdialect
            · obtain rfl : gap = "" := Except.ok.inj hempty
              rfl
          · have hleft : upshot (finish none gap) middle =
                (.error (.malformed (.unfinished gap)), middle) := by
              rw [finish, if_neg hgap]
              rfl
            refine ⟨fun hdone => by simp [hleft] at hdone, fun early hearly hnot => ?_⟩
            rw [hleft] at hearly
            exact absurd (Except.error.inj hearly).symm (hnot gap)

/-- A production without a report and without pictures of failures. -/
def unreported (dialect : Dialect) : Production := ⟨.builtin, dialect, none, ""⟩

/-- A state before a run in which no page is open. -/
def closedPage : RunState Float := Program.start Settings.default [] [] none .empty .strict

/-- A step and a line with a blank: behind these, a line that breaks a value is refused at a place
further on. -/
theorem run_append_behind_blank :
    (unreported .literal).reportPath = none ∧
      (upshot ((unreported .literal).run (.listed ["noop\x7b\x7d\n", " \n"] none)) closedPage).1 =
        .ok () ∧
      (let single := upshot ((unreported .literal).run
          (.listed ((["noop\x7b\x7d\n", " \n"] : List Text) ++
            (["click\x7ba:\"b\n"] : List Text)) none)) closedPage
        let double := upshot (do
          (unreported .literal).run (.listed ["noop\x7b\x7d\n", " \n"] none)
          (unreported .literal).run (.listed ["click\x7ba:\"b\n"] none)) closedPage
        single.2 = double.2 ∧
          single.1.mapError Fault.className = double.1.mapError Fault.className ∧
          single.1 = .error (.malformed (.unterminated ⟨.double, 9⟩)) ∧
          double.1 = .error (.malformed (.unterminated ⟨.double, 8⟩))) := by
  have hended : (upshot ((unreported .literal).run (.listed ["noop\x7b\x7d\n", " \n"] none))
      closedPage).1 = .ok () := by decide +kernel
  have hreport : (unreported .literal).reportPath = none := rfl
  obtain ⟨hafter, -⟩ := run_append hreport ["noop\x7b\x7d\n", " \n"] ["click\x7ba:\"b\n"] none
    closedPage
  obtain ⟨hstate, hclass, -⟩ := hafter hended
  exact ⟨hreport, hended, hstate, hclass, by decide +kernel, by decide +kernel⟩

end Production

end Playbook
