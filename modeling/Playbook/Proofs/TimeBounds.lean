import Mathlib.Algebra.Order.Field.Rat
import Mathlib.Tactic.Linarith
import Playbook.Proofs.PlannedCalls
import Playbook.Proofs.StandardOutput

/-! # The time that a step takes

When time is counted in exact numbers, an action ends at the latest when its bound has passed, whatever
the page does. All its calls draw on the one bound. If a call needs more than what is left of it, the
clock stops just there, and what the rule would make happen after the delay does not happen. A step that
fails takes at most the ten seconds of the last picture on top of that.

## Implementation notes

What is said of calls and of plays on the page is said of a stage on which the limit is still ahead, since
an action whose bound is not positive comes to no call. -/

namespace Playbook

/-- Exact seconds. -/
instance : TimeScale ℚ where
  before a b := decide (a < b)
  ofDecimal digits places := digits / 10 ^ places
  fixed places time := Decimal.fixed places (decide (time < 0)) time.num.natAbs time.den

theorem TimeScale.before_iff {a b : ℚ} : TimeScale.before a b = true ↔ a < b := decide_eq_true_iff

theorem TimeScale.before_none_iff {a : ℚ} : TimeScale.before TimeScale.none a = true ↔ 0 < a := by
  have hzero : (TimeScale.none : ℚ) = 0 := by decide +kernel
  rw [before_iff, hzero]

theorem Duration.tenSeconds_eq : (Duration.tenSeconds : ℚ) = 10 := by decide +kernel

/-- The time that a rule takes: its delay, if that is positive. -/
def Rule.span (rule : Rule ℚ) : ℚ := max (rule.delay.getD 0) 0

namespace Stage

/-- The time that a call takes on a stage if nothing cuts it off: that of the rule that answers it. -/
def span (stage : Stage ℚ) (request : Call ℚ) : ℚ :=
  match Rule.pick request stage.rules with
  | none => 0
  | some (rule, _) => rule.span

/-- What is left when calls were made on a stage and a further one, which was reached, is cut off at a
limit: the clock stands there, no file and nothing on the standard output has been written, and the call
that was cut off has cancelled nothing. -/
structure CutOff (limit : ℚ) (before reached after : Stage ℚ) : Prop where
  clock : after.clock = limit
  disk : after.disk = before.disk
  written : after.written = before.written
  cancelled : after.cancelled = reached.cancelled

/-- Calls are made one after the other under a limit, and all are answered: the times that they take, and
the stage that they lead to. -/
inductive Answers (limit : ℚ) : Stage ℚ → List (Call ℚ) → List ℚ → Stage ℚ → Prop
  | nil {stage} : Answers limit stage [] [] stage
  | cons {stage middle after request answer requests spans}
      (hcall : upshot (Play.call (some limit) request) stage = (.ok answer, middle))
      (hrest : Answers limit middle requests spans after) :
      Answers limit stage (request :: requests) (stage.span request :: spans) after

/-- A line on the error output does not change that. -/
theorem CutOff.told {limit : ℚ} {before reached after : Stage ℚ} (h : CutOff limit before reached after)
    (text : Text) : CutOff limit before reached (after.noting (.err text)) where
  clock := h.clock
  disk := h.disk
  written := by
    rw [written_noting, ← h.written]
    exact List.append_nil _
  cancelled := h.cancelled

end Stage

namespace Play

variable {limit : ℚ} {stage : Stage ℚ}

/-- A delay passes if it ends before the limit, and is cut off there if not. -/
theorem upshot_pass_limited (hahead : stage.clock < limit) (delay : ℚ) :
    upshot (pass (some limit) delay) stage =
      if stage.clock + max delay 0 < limit then
        (.ok (), { stage with clock := stage.clock + max delay 0 })
      else (.error .timedOut, { stage with clock := limit }) := by
  rw [pass]
  by_cases hpositive : 0 < delay
  case pos =>
    rw [if_pos (TimeScale.before_none_iff.mpr hpositive),
      upshot_bind_of_ok (upshot_get stage), max_eq_left hpositive.le]
    dsimp only
    by_cases hfits : stage.clock + delay < limit
    · rw [if_pos hfits, if_pos (TimeScale.before_iff.mpr hfits)]
      rfl
    · rw [if_neg hfits, if_neg (TimeScale.before_iff.not.mpr hfits)]
      rfl
  case neg =>
    rw [if_neg (TimeScale.before_none_iff.not.mpr hpositive),
      max_eq_right (not_lt.mp hpositive), add_zero, if_pos hahead]
    rfl

/-- Without a limit every delay passes. -/
theorem clock_pass (delay : ℚ) (stage : Stage ℚ) :
    (upshot (pass none delay) stage).2.clock = stage.clock + max delay 0 := by
  rw [pass]
  by_cases hpositive : 0 < delay
  · rw [if_pos (TimeScale.before_none_iff.mpr hpositive),
      max_eq_left hpositive.le]
    rfl
  · rw [if_neg (TimeScale.before_none_iff.not.mpr hpositive),
      max_eq_right (not_lt.mp hpositive), add_zero]
    rfl

/-- What a rule makes happen after its delay takes no time. -/
theorem clock_of_rest (rule : Rule ℚ) (stage : Stage ℚ) :
    (upshot ((if rule.cancels then cancel else pure ()) >>= fun _ =>
      match rule.fault with
      | some fault => throw fault
      | none => pure ()) stage).2.clock = stage.clock := by
  cases rule.fault <;> split <;> rfl

/-- A rule takes its time, or the limit cuts it off before anything but its dialog has happened. -/
theorem obey_cases (hahead : stage.clock < limit) (rule : Rule ℚ) :
    (stage.clock + rule.span < limit ∧
        (upshot (obey (some limit) rule) stage).2.clock = stage.clock + rule.span) ∨
      limit ≤ stage.clock + rule.span ∧ ∃ after, after.clock = limit ∧
        after.cancelled = stage.cancelled ∧
        upshot (obey (some limit) rule) stage = (.error .timedOut, after) := by
  obtain ⟨told, hclock, hcancelled, -, hobey⟩ := upshot_obey_of_dialog (some limit) rule stage
  rw [hobey, obey_eq, pure_bind]
  dsimp only
  cases hdelay : rule.delay with
  | none =>
      have hspan : rule.span = 0 := by rw [Rule.span, hdelay, Option.getD_none, max_self]
      rw [hspan, add_zero, pure_bind]
      exact .inl ⟨hahead, (clock_of_rest rule told).trans hclock⟩
  | some delay =>
      have hspan : rule.span = max delay 0 := by rw [Rule.span, hdelay, Option.getD_some]
      have hpass := upshot_pass_limited (hclock ▸ hahead) delay
      rw [hclock, ← hspan] at hpass
      dsimp only
      by_cases hfits : stage.clock + rule.span < limit
      · rw [if_pos hfits] at hpass
        rw [upshot_bind_of_ok hpass]
        exact .inl ⟨hfits, clock_of_rest rule _⟩
      · rw [if_neg hfits] at hpass
        rw [upshot_bind_of_error hpass]
        exact .inr ⟨not_lt.mp hfits, { told with clock := limit }, rfl, hcancelled, rfl⟩

/-- Calling the browser puts nothing on the standard output. -/
theorem written_call (limit : Option ℚ) (request : Call ℚ) (stage : Stage ℚ) :
    (upshot (call limit request) stage).2.written = stage.written :=
  Mute.written (.browserCall limit request) stage

/-- A call takes its time, or it is cut off at the limit. -/
theorem call_cases (hahead : stage.clock < limit) (request : Call ℚ) :
    (stage.clock + stage.span request < limit ∧
        (upshot (call (some limit) request) stage).2.clock = stage.clock + stage.span request) ∨
      limit ≤ stage.clock + stage.span request ∧ ∃ after, Stage.CutOff limit stage stage after ∧
        upshot (call (some limit) request) stage = (.error .timedOut, after) := by
  have hdisk := disk_call (some limit) request stage
  have hwritten := written_call (some limit) request stage
  have hcall := upshot_call (some limit) request stage
  cases hpick : Rule.pick request stage.rules with
  | none =>
      have hspan : stage.span request = 0 := by rw [Stage.span, hpick]
      rw [hpick] at hcall
      rw [hcall, hspan, add_zero]
      exact .inl ⟨hahead, rfl⟩
  | some found =>
      obtain ⟨rule, rules⟩ := found
      have hspan : stage.span request = rule.span := by rw [Stage.span, hpick]
      rw [hpick] at hcall
      dsimp only at hcall
      rw [hspan]
      have hnoted : { stage.noting (.call request) with rules := rules }.clock < limit := hahead
      rcases obey_cases hnoted rule with ⟨hfits, hclock⟩ | ⟨hlate, after, hclock, hcancelled, hobey⟩
      · refine .inl ⟨hfits, ?_⟩
        rw [upshot_bind] at hcall
        cases hobey : upshot (obey (some limit) rule)
            { stage.noting (.call request) with rules := rules } with
        | mk result obeyed =>
            rw [hobey] at hcall hclock
            cases result <;> rw [hcall] <;> exact hclock
      · rw [upshot_bind_of_error hobey] at hcall
        rw [hcall] at hdisk hwritten
        exact .inr ⟨hlate, after, ⟨hclock, hdisk, hwritten, hcancelled⟩, hcall⟩

/-- A call that is answered has taken its time. -/
theorem clock_of_answered (hahead : stage.clock < limit) {request : Call ℚ} {answer after}
    (h : upshot (call (some limit) request) stage = (.ok answer, after)) :
    after.clock = stage.clock + stage.span request ∧ after.clock < limit := by
  rcases call_cases hahead request with ⟨hfits, hclock⟩ | ⟨-, cut, -, hcut⟩
  · rw [h] at hclock
    exact ⟨hclock, hclock ▸ hfits⟩
  · cases h.symm.trans hcut

end Play

namespace Stage.Answers

variable {limit : ℚ} {stage after : Stage ℚ} {requests : List (Call ℚ)} {spans : List ℚ}

/-- Calls that are answered take the times that they need, and the limit stays ahead. -/
theorem clock (h : Answers limit stage requests spans after) (hahead : stage.clock < limit) :
    after.clock = stage.clock + spans.sum ∧ after.clock < limit := by
  induction h with
  | nil => exact ⟨by rw [List.sum_nil, add_zero], hahead⟩
  | cons hcall _ ih =>
      obtain ⟨hclock, hmiddle⟩ := Play.clock_of_answered hahead hcall
      obtain ⟨hafter, hlimit⟩ := ih hmiddle
      exact ⟨by rw [hafter, hclock, List.sum_cons, add_assoc], hlimit⟩

/-- What every call keeps is kept. -/
theorem keeps {P : Stage ℚ → Prop} (h : Answers limit stage requests spans after)
    (hcall : ∀ stage request, P stage → P (upshot (Play.call (some limit) request) stage).2)
    (hstage : P stage) : P after := by
  induction h with
  | nil => exact hstage
  | @cons stage _ _ request _ _ _ hanswer _ ih =>
      have hmiddle := hcall stage request hstage
      rw [hanswer] at hmiddle
      exact ih hmiddle

theorem opened (h : Answers limit stage requests spans after) (hopened : stage.browser.opened = true) :
    after.browser.opened = true :=
  h.keeps (P := fun middle => middle.browser.opened = true)
    (fun _ request hmiddle => Play.opened_call hmiddle (some limit) request) hopened

theorem disk (h : Answers limit stage requests spans after) : after.disk = stage.disk :=
  h.keeps (P := fun middle => middle.disk = stage.disk)
    (fun middle request hmiddle => (Play.disk_call (some limit) request middle).trans hmiddle) rfl

theorem written (h : Answers limit stage requests spans after) : after.written = stage.written :=
  h.keeps (P := fun middle => middle.written = stage.written)
    (fun middle request hmiddle => (Play.written_call (some limit) request middle).trans hmiddle) rfl

end Stage.Answers

theorem Stage.span_nonneg (stage : Stage ℚ) (request : Call ℚ) : 0 ≤ stage.span request := by
  rw [span]
  split
  · exact le_refl 0
  · exact le_max_right _ _

namespace Enacts

variable {α : Type} {limit : ℚ} {stage : Stage ℚ} {plan : List (Call ℚ)} {play : Play ℚ α}

/-- The clock does not go back while a plan is carried out, nor does it go beyond the limit. -/
theorem clock_between (h : Enacts limit plan play) (hahead : stage.clock < limit) :
    stage.clock ≤ (upshot play stage).2.clock ∧ (upshot play stage).2.clock ≤ limit := by
  induction h generalizing stage with
  | rest h =>
      rw [h.clock]
      exact ⟨le_refl _, hahead.le⟩
  | @call request _ _ _ _ ih =>
      have hspan := stage.span_nonneg request
      have hcases := Play.call_cases hahead request
      rw [upshot_bind, Play.upshot_onPage]
      by_cases hopened : stage.browser.opened = true
      case neg =>
        rw [if_neg hopened]
        exact ⟨le_refl _, hahead.le⟩
      case pos =>
        rw [if_pos hopened]
        cases hcall : upshot (Play.call (some limit) request) stage with
        | mk result middle =>
            cases result with
            | ok answer =>
                obtain ⟨hclock, hmiddle⟩ := Play.clock_of_answered hahead hcall
                obtain ⟨honward, hlimit⟩ := ih answer hmiddle
                exact ⟨by linarith, hlimit⟩
            | error fault =>
                rw [hcall] at hcases
                rcases hcases with ⟨hfits, hclock⟩ | ⟨-, cut, hcut, heq⟩
                · exact ⟨by linarith, by linarith⟩
                · obtain rfl := (Prod.mk.inj heq).2
                  rw [hcut.clock]
                  exact ⟨hahead.le, le_refl _⟩

/-- Once the calls at the front of a plan have been answered, the rest of it is carried out. -/
theorem after_answers {front rest : List (Call ℚ)} {spans : List ℚ} {reached : Stage ℚ}
    (h : Enacts limit (front ++ rest) play) (hanswers : stage.Answers limit front spans reached)
    (hopened : stage.browser.opened = true) :
    ∃ next : Play ℚ α, Enacts limit rest next ∧ upshot play stage = upshot next reached := by
  induction hanswers generalizing play with
  | nil => exact ⟨play, h, rfl⟩
  | @cons stage middle _ request answer _ _ hcall _ ih =>
      have hmiddle := Play.opened_call hopened (some limit) request
      rw [hcall] at hmiddle
      cases h with
      | call _ hnext =>
          obtain ⟨last, hlast, hupshot⟩ := ih (hnext answer) hmiddle
          refine ⟨last, hlast, ?_⟩
          rw [upshot_bind, Play.upshot_onPage, if_pos hopened, hcall]
          exact hupshot

/-- A call that does not fit ends all at the limit. -/
theorem cut_off {front back : List (Call ℚ)} {request : Call ℚ} {spans : List ℚ} {reached : Stage ℚ}
    (h : Enacts limit (front ++ request :: back) play)
    (hanswers : stage.Answers limit front spans reached) (hopened : stage.browser.opened = true)
    (hahead : stage.clock < limit) (hlate : limit ≤ reached.clock + reached.span request) :
    ∃ after, Stage.CutOff limit stage reached after ∧ upshot play stage = (.error .timedOut, after) := by
  obtain ⟨next, hnext, hupshot⟩ := h.after_answers hanswers hopened
  obtain ⟨-, hreached⟩ := hanswers.clock hahead
  cases hnext with
  | call _ _ =>
      rw [hupshot, upshot_bind, Play.upshot_onPage, if_pos (hanswers.opened hopened)]
      rcases Play.call_cases hreached request with ⟨hfits, -⟩ | ⟨-, after, hcut, hcall⟩
      · exact absurd hlate (not_le.mpr hfits)
      · rw [hcall]
        exact ⟨after, ⟨hcut.clock, hcut.disk.trans hanswers.disk, hcut.written.trans hanswers.written,
          hcut.cancelled⟩, rfl⟩

/-- The last call takes its time or what is left of it. -/
theorem clock_of_last {front : List (Call ℚ)} {request : Call ℚ} {spans : List ℚ} {reached : Stage ℚ}
    (h : Enacts limit (front ++ [request]) play)
    (hanswers : stage.Answers limit front spans reached) (hopened : stage.browser.opened = true)
    (hahead : stage.clock < limit) :
    (upshot play stage).2.clock = min (reached.clock + reached.span request) limit := by
  obtain ⟨next, hnext, hupshot⟩ := h.after_answers hanswers hopened
  obtain ⟨-, hreached⟩ := hanswers.clock hahead
  have hcall : (upshot (Play.call (some limit) request) reached).2.clock =
      min (reached.clock + reached.span request) limit := by
    rcases Play.call_cases hreached request with ⟨hfits, hclock⟩ | ⟨hlate, after, hcut, hcall⟩
    · rw [hclock, min_eq_left hfits.le]
    · rw [hcall, hcut.clock, min_eq_right hlate]
  cases hnext with
  | call _ hrest =>
      rw [hupshot, upshot_bind, Play.upshot_onPage, if_pos (hanswers.opened hopened)]
      cases hanswer : upshot (Play.call (some limit) request) reached with
      | mk result middle =>
          rw [hanswer] at hcall
          cases result with
          | error fault => exact hcall
          | ok answer =>
              cases hrest answer with
              | rest hoffstage => exact (hoffstage.clock middle).trans hcall

end Enacts

namespace Action

variable {action : Action} {seconds : ℚ}

/-- How an action with a bound of some seconds takes its time when it is played on a stage. -/
structure KeepsTime (action : Action) (seconds : ℚ) (before : Stage ℚ) (result : Except Fault Unit)
    (after : Stage ℚ) : Prop where
  onward : before.clock ≤ after.clock
  bounded : after.clock ≤ before.clock + max seconds 0
  /-- A pause takes the whole bound. -/
  whole : action.deed.takesWholeBound = true → after.clock = before.clock + max seconds 0
  /-- A call that needs all that the calls before it have left of the bound, or more, ends the action when
  the bound has passed. A debug action only reports that. -/
  cutOff : ∀ front request back spans reached, 0 < seconds → before.browser.opened = true →
    action.deed.plan (TimeScale.milliseconds seconds) = front ++ request :: back →
    before.Answers (before.clock + seconds) front spans reached →
    seconds ≤ spans.sum + reached.span request →
    Stage.CutOff (before.clock + seconds) before reached after ∧
      result = if action.deed = .debug then .ok () else .error .timedOut
  /-- When only one call is left, the clock goes on by the sum of the times that the calls take, or by the
  bound. So the two calls of a wait share it. -/
  shared : ∀ front request spans reached, 0 < seconds → before.browser.opened = true →
    action.deed.plan (TimeScale.milliseconds seconds) = front ++ [request] →
    before.Answers (before.clock + seconds) front spans reached →
    after.clock = before.clock + min (spans.sum + reached.span request) seconds

/-- An action that plans no calls only has to keep within its bound. -/
theorem KeepsTime.of_plan_nil {before after : Stage ℚ} {result : Except Fault Unit}
    (hplan : action.deed.plan (TimeScale.milliseconds seconds) = [])
    (honward : before.clock ≤ after.clock) (hbounded : after.clock ≤ before.clock + max seconds 0)
    (hwhole : action.deed.takesWholeBound = true → after.clock = before.clock + max seconds 0) :
    action.KeepsTime seconds before result after where
  onward := honward
  bounded := hbounded
  whole := hwhole
  cutOff front request back _ _ _ _ hfront := by simp [hplan] at hfront
  shared front request _ _ _ _ hfront := by simp [hplan] at hfront

/-- An action that does nothing but pass its bound keeps its time. -/
theorem keepsTime_of_whole (hbound : action.bound = .ok seconds)
    (hdeed : action.deed.takesWholeBound = true) (before : Stage ℚ) :
    action.KeepsTime seconds before (upshot action.play before).1 (upshot action.play before).2 := by
  have hplay : (action.play : Play ℚ Unit) = action.playSleep := by
    rw [play]
    split
    case h_1 hnoop => cases hnoop ▸ hdeed
    case h_2 hdebug => cases hdebug ▸ hdeed
    case h_3 => exact if_pos hdeed
  have hclock : (upshot action.play before).2.clock = before.clock + max seconds 0 := by
    rw [hplay, playSleep, hbound, upshot_bind_of_ok (Play.upshot_ofExcept _ before), Play.clock_pass]
  have hpositive : 0 ≤ max seconds 0 := le_max_right _ _
  exact .of_plan_nil (Deed.plan_of_takesWholeBound hdeed _) (by linarith) hclock.le fun _ => hclock

/-- A report takes no time. -/
theorem clock_play_of_planned (hdeed : action.deed.takesWholeBound = false)
    (hbusy : action.deed ≠ .noop) (stage : Stage ℚ) :
    (upshot action.play stage).2.clock = (upshot action.playBounded stage).2.clock := by
  rw [upshot_play_of_planned hdeed hbusy]
  cases upshot action.playBounded stage with
  | mk result ended =>
      cases result with
      | ok => rfl
      | error fault =>
          dsimp only
          split <;> rfl

/-- An action that plans calls but has no time for them keeps its time. -/
theorem keepsTime_of_hasty (hbound : action.bound = .ok seconds) (hhasty : ¬ 0 < seconds)
    (hdeed : action.deed.takesWholeBound = false) (hbusy : action.deed ≠ .noop) (before : Stage ℚ) :
    action.KeepsTime seconds before (upshot action.play before).1 (upshot action.play before).2 := by
  have hclock : (upshot action.play before).2.clock = before.clock := by
    rw [clock_play_of_planned hdeed hbusy, upshot_playBounded hbound,
      if_neg (TimeScale.before_none_iff.not.mpr hhasty)]
  constructor
  case onward => exact hclock.ge
  case bounded => rw [hclock, max_eq_right (not_lt.mp hhasty), add_zero]
  case whole => exact fun hwhole => Bool.noConfusion (hdeed.symm.trans hwhole)
  case cutOff => exact fun _ _ _ _ _ hpositive => absurd hpositive hhasty
  case shared => exact fun _ _ _ _ hpositive => absurd hpositive hhasty

/-- An action that plans calls and has time for them keeps it. -/
theorem keepsTime_of_planned (hbound : action.bound = .ok seconds) (hpositive : 0 < seconds)
    (hdeed : action.deed.takesWholeBound = false) (hbusy : action.deed ≠ .noop) (before : Stage ℚ) :
    action.KeepsTime seconds before (upshot action.play before).1 (upshot action.play before).2 := by
  have hplay := upshot_play_of_planned hdeed hbusy before
  have hclock := clock_play_of_planned hdeed hbusy before
  have hbounded := upshot_playBounded hbound before
  rw [if_pos (TimeScale.before_none_iff.mpr hpositive)] at hbounded
  have henacts := Deed.enacts_plan hdeed (before.clock + seconds) (TimeScale.milliseconds seconds)
  have hahead : before.clock < before.clock + seconds := lt_add_of_pos_right _ hpositive
  have hbetween := henacts.clock_between hahead
  rw [← hbounded, ← hclock] at hbetween
  constructor
  case onward => exact hbetween.1
  case bounded =>
    rw [max_eq_left hpositive.le]
    exact hbetween.2
  case whole => exact fun hwhole => Bool.noConfusion (hdeed.symm.trans hwhole)
  case cutOff =>
    intro front request back spans reached _ hopened hplan hanswers hlate
    rw [hplan] at henacts
    have hlimit : before.clock + seconds ≤ reached.clock + reached.span request := by
      obtain ⟨hreached, -⟩ := hanswers.clock hahead
      linarith
    obtain ⟨after, hcut, hend⟩ := henacts.cut_off hanswers hopened hahead hlimit
    rw [hbounded, hend] at hplay
    dsimp only at hplay
    by_cases hdebug : action.deed = .debug
    · rw [if_pos ⟨hdebug, rfl⟩] at hplay
      rw [hplay, if_pos hdebug]
      exact ⟨hcut.told _, rfl⟩
    · rw [if_neg fun h => hdebug h.1] at hplay
      rw [hplay, if_neg hdebug]
      exact ⟨hcut, rfl⟩
  case shared =>
    intro front request spans reached _ hopened hplan hanswers
    rw [hplan] at henacts
    obtain ⟨hreached, -⟩ := hanswers.clock hahead
    calc (upshot action.play before).2.clock
        = (upshot (action.deed.act (before.clock + seconds) (TimeScale.milliseconds seconds))
            before).2.clock := by rw [hclock, hbounded]
      _ = min (reached.clock + reached.span request) (before.clock + seconds) :=
          henacts.clock_of_last hanswers hopened hahead
      _ = before.clock + min (spans.sum + reached.span request) seconds := by
          rw [hreached, add_assoc, min_add_add_left]

/-- Every action keeps its time. -/
theorem keepsTime_play (hbound : action.bound = .ok seconds) (before : Stage ℚ) :
    action.KeepsTime seconds before (upshot action.play before).1 (upshot action.play before).2 := by
  cases hdeed : action.deed.takesWholeBound with
  | true => exact keepsTime_of_whole hbound hdeed before
  | false =>
      by_cases hnoop : action.deed = .noop
      case neg =>
        by_cases hpositive : 0 < seconds
        · exact keepsTime_of_planned hbound hpositive hdeed hnoop before
        · exact keepsTime_of_hasty hbound hpositive hdeed hnoop before
      case pos =>
        have hplay : (action.play : Play ℚ Unit) = pure () := by rw [play, hnoop]
        have hpositive : 0 ≤ max seconds 0 := le_max_right _ _
        rw [hplay]
        refine .of_plan_nil (by rw [hnoop]; rfl) (le_refl _) ?_ fun hwhole => ?_
        · exact le_add_of_nonneg_right hpositive
        · cases hdeed.symm.trans hwhole

end Action

namespace Production

/-- The picture after a failure takes ten seconds at most. -/
theorem clock_capture (production : Production) (state : RunState ℚ) :
    state.stage.clock ≤ (upshot production.capture state).2.stage.clock ∧
      (upshot production.capture state).2.stage.clock ≤ state.stage.clock + 10 := by
  rw [capture]
  split
  case isTrue => exact ⟨le_refl _, by rw [upshot_pure]; linarith⟩
  case isFalse =>
    have hbound : production.diagnosticAction.bound = .ok (10 : ℚ) := by
      rw [← Duration.tenSeconds_eq, bound_diagnosticAction]
    have hpicture := Action.keepsTime_play hbound state.stage
    have honward := hpicture.onward
    have hlimit : (upshot production.diagnosticAction.play state.stage).2.clock ≤
        state.stage.clock + 10 :=
      calc (upshot production.diagnosticAction.play state.stage).2.clock
          ≤ state.stage.clock + max 10 0 := hpicture.bounded
        _ = state.stage.clock + 10 := by rw [max_eq_left (by norm_num)]
    rw [upshot_bind_of_ok (Running.upshot_attempt ..), Running.upshot_onStage]
    cases hplay : upshot production.diagnosticAction.play state.stage with
    | mk result ended =>
        rw [hplay] at honward hlimit
        cases result with
        | ok => exact ⟨honward, hlimit⟩
        | error fault =>
            dsimp only
            split
            · exact ⟨honward, hlimit⟩
            · exact ⟨honward, hlimit⟩

/-- A step ends at the latest ten seconds after its bound. -/
theorem clock_perform (production : Production) {step : Step} {seconds : ℚ}
    (hbound : step.action.bound = .ok seconds) (before : RunState ℚ) :
    before.stage.clock ≤ (upshot (production.perform step) before).2.stage.clock ∧
      (upshot (production.perform step) before).2.stage.clock ≤
        before.stage.clock + max seconds 0 + 10 := by
  have hstep := Action.keepsTime_play hbound before.stage
  have honward := hstep.onward
  have hlimit := hstep.bounded
  rw [upshot_perform, hbound]
  dsimp only
  cases hplay : upshot step.action.play before.stage with
  | mk result ended =>
      rw [hplay] at honward hlimit
      cases result with
      | ok =>
          have hclock : (upshot (succeed step (ended.clock - before.stage.clock))
              { before with stage := ended }).2.stage.clock = ended.clock := rfl
          rw [hclock]
          exact ⟨honward, by linarith⟩
      | error cause =>
          dsimp only
          split
          case isFalse => exact ⟨honward, by linarith⟩
          case isTrue =>
            have hpicture := production.clock_capture
              (faulted step (ended.clock - before.stage.clock) cause { before with stage := ended })
            have hfaulted : (faulted step (ended.clock - before.stage.clock) cause
              { before with stage := ended }).stage.clock = ended.clock := rfl
            rw [hfaulted] at hpicture
            rw [upshot_fail, upshot_bind_throw_state]
            exact ⟨honward.trans hpicture.1, by linarith⟩

/-- A step with a bound keeps its time, whatever the page does: its action ends when the bound has passed
at the latest, and just then if it is a pause or if its calls do not fit, and the whole step takes at most
the time for a picture more. -/
theorem steps_keep_time {step : Step} {seconds : ℚ} (hbound : step.action.bound = .ok seconds) :
    (∀ before : Stage ℚ, step.action.KeepsTime seconds before (upshot step.action.play before).1
      (upshot step.action.play before).2) ∧
    ∀ (production : Production) (before : RunState ℚ),
      before.stage.clock ≤ (upshot (production.perform step) before).2.stage.clock ∧
        (upshot (production.perform step) before).2.stage.clock ≤
          before.stage.clock + max seconds 0 + 10 :=
  ⟨fun before => Action.keepsTime_play hbound before, fun production before =>
    production.clock_perform hbound before⟩

/-- A wait on a page that takes six seconds for each of its two calls. -/
def steadyPage : Stage ℚ where
  browser := { Browser.new true "" with opened := true }
  rules :=
    [⟨.waitVisible, none, none, none, some 6, false, none, none, none⟩,
      ⟨.waitAttached, none, none, none, some 6, false, none, none, none⟩]
  texts := []
  text := none
  clock := 0
  cancelled := none
  disk := .empty
  console := .strict
  trace := []

/-- The first call is answered after six seconds, and the second one is cut off after ten. -/
theorem second_wait_is_cut_off :
    Action.longWait.bound = .ok (10 : ℚ) ∧
      ∃ reached, steadyPage.Answers 10 [.waitVisible "#a" 10000] [6] reached ∧
        Stage.CutOff 10 steadyPage reached (upshot Action.longWait.play steadyPage).2 ∧
        (upshot Action.longWait.play steadyPage).1 = .error .timedOut := by
  have hbound : Action.longWait.bound = .ok (10 : ℚ) := by
    rw [← Duration.tenSeconds_eq, Action.bound, Action.longWait, Duration.parse_tenSeconds]
  have hplan : Action.longWait.deed.plan (TimeScale.milliseconds (10 : ℚ)) =
      [.waitVisible "#a" 10000] ++ [.waitAttached "#a" 10000] := by decide +kernel
  have hfirst : (upshot (Play.call (some 10) (.waitVisible "#a" 10000)) steadyPage).1 =
      .ok steadyPage.rules.head? := by decide +kernel
  have hspan : steadyPage.span (.waitVisible "#a" 10000) = 6 := by decide +kernel
  have hanswers : steadyPage.Answers 10 [.waitVisible "#a" 10000] [6]
      (upshot (Play.call (some 10) (.waitVisible "#a" 10000)) steadyPage).2 :=
    hspan ▸ .cons (Prod.ext hfirst rfl) .nil
  have hlimit : steadyPage.clock + 10 = 10 := zero_add 10
  have hkeeps := (@steps_keep_time ⟨"wait", Action.longWait⟩ 10 hbound).1 steadyPage
  obtain ⟨hcut, hresult⟩ := hkeeps.cutOff _ _ [] _ _ (by norm_num) rfl hplan (hlimit ▸ hanswers)
    (by decide +kernel)
  exact ⟨hbound, _, hanswers, hlimit ▸ hcut, hresult⟩

end Production

end Playbook
