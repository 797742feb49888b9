import Mathlib.Data.List.Infix
import Playbook.Proofs.Course
import Playbook.Proofs.PolitePages

/-! # Planned calls

What an action calls on the page is laid down by its deed: the calls of its plan are made in order, each
with the bound of the action in milliseconds, and there are no others. An action whose bound is not
positive makes none of them. Otherwise calls are left out only behind one that fails or is cut off at the
bound, and an action that ends well has left out none, unless it is a debug action.

## Implementation notes

How a deed makes its calls is said once, by `Enacts`: the calls of its plan in turn, and behind them what
needs no page and no time. What follows from that, for the calls and for the clock, is shown by induction
along the plan. -/

namespace Playbook

variable {τ : Type}

/-- The calls on the page that a deed plans, each with the same limit in milliseconds. -/
def Deed.plan (timeout : τ) : Deed → List (Call τ)
  | idle | noop | sleep => []
  | load url => [.goto url timeout]
  | click selector => [.click selector timeout]
  | type selector text => [.press selector text timeout]
  | submit selector => [.submit selector timeout]
  | value selector v => [.setValue selector v timeout]
  | wait selector =>
      if selector = "" then [] else [.waitVisible selector timeout, .waitAttached selector timeout]
  | scroll selector => [.scroll selector timeout]
  | compare selector _ | record selector => [.textContent selector timeout]
  | screenshot _ | debug => [.screenshot timeout]

/-- A deed that takes its whole bound plans no calls. -/
theorem Deed.plan_of_takesWholeBound {deed : Deed} (h : deed.takesWholeBound = true) (timeout : τ) :
    deed.plan timeout = [] := by
  cases deed with
  | sleep => rfl
  | wait selector => exact if_pos (by simpa [takesWholeBound] using h)
  | _ => cases h

/-- A call that is noted is the one call on the page that is added. -/
theorem Stage.Adds.noting_call {request : Call τ}
    (hrequest : (Event.call request).pageCall? = some request) (stage : Stage τ) :
    stage.Adds [request] (stage.noting (.call request)) := by
  have hadds := noting stage (.call request)
  rwa [hrequest] at hadds

/-- What a rule makes happen at once: a dialog is told of and dismissed. -/
def Rule.dialogEvents (rule : Rule τ) : List (Event τ) :=
  match rule.dialog with
  | some (type, message) =>
      [.err ("[session] Dismissing " ++ type ++ " dialog: " ++ message ++ "\n"), .call .dismiss]
  | none => []

section Effects

variable [TimeScale τ]

/-- A call is one call, whatever comes of it. -/
theorem Stage.Adds.call {request : Call τ} (hrequest : (Event.call request).pageCall? = some request)
    (limit : Option τ) (stage : Stage τ) :
    stage.Adds [request] (upshot (Play.call limit request) stage).2 := by
  rw [Play.call_eq, upshot_bind_of_ok (Play.upshot_note ..)]
  exact ((unaffected stage [request]).answer _ _ _ (noting_call hrequest stage)).1

/-- How a call that is made on a stage under a limit comes to end in a fault: the rule that answers it
reports that fault, or its delay does not pass before the limit. -/
inductive Stage.Stops (limit : τ) (request : Call τ) (stage : Stage τ) : Fault → Prop
  | reported {rule rules fault} (hpick : Rule.pick request stage.rules = some (rule, rules))
      (hfault : rule.fault = some fault) : Stops limit request stage fault
  | cutOff {rule rules delay} (hpick : Rule.pick request stage.rules = some (rule, rules))
      (hdelay : rule.delay = some delay) (hpositive : TimeScale.before TimeScale.none delay = true)
      (hlate : TimeScale.before (stage.clock + delay) limit = false) : Stops limit request stage .timedOut

namespace Play

/-- A delay fails just by not passing before the limit. -/
theorem late_of_pass {limit delay : τ} {stage after : Stage τ} {fault : Fault}
    (h : upshot (pass (some limit) delay) stage = (.error fault, after)) :
    fault = .timedOut ∧ TimeScale.before TimeScale.none delay = true ∧
      TimeScale.before (stage.clock + delay) limit = false := by
  rw [pass] at h
  split at h
  · rename_i hpositive
    rw [upshot_bind_of_ok (upshot_get stage)] at h
    dsimp only at h
    split at h
    · cases (Prod.mk.inj h).1
    · rename_i hlate
      obtain ⟨hfault, -⟩ := Prod.mk.inj h
      exact ⟨(Except.error.inj hfault).symm, hpositive, by simpa using hlate⟩
  · cases (Prod.mk.inj h).1

/-- A dialog is told of and dismissed before anything else happens; no time passes, and nothing is
cancelled. -/
theorem upshot_obey_of_dialog (limit : Option τ) (rule : Rule τ) (stage : Stage τ) :
    ∃ told : Stage τ, told.clock = stage.clock ∧ told.cancelled = stage.cancelled ∧
      told.trace = stage.trace ++ rule.dialogEvents ∧
      upshot (obey limit rule) stage = upshot (obey limit { rule with dialog := none }) told := by
  rw [Rule.dialogEvents]
  cases hdialog : rule.dialog with
  | none => exact ⟨stage, rfl, rfl, (List.append_nil _).symm, by rw [obey_eq, obey_eq, hdialog]⟩
  | some dialog =>
      obtain ⟨type, message⟩ := dialog
      refine ⟨(upshot (dismiss type message) stage).2, rfl, rfl, List.append_assoc .., ?_⟩
      rw [obey_eq, obey_eq, hdialog]
      rfl

omit [TimeScale τ] in
/-- What is left when the delay of a rule has passed ends in the fault that the rule reports. -/
theorem fault_of_rest {rule : Rule τ} {stage after : Stage τ} {fault : Fault}
    (h : upshot ((if rule.cancels then cancel else pure ()) >>= fun _ =>
      match rule.fault with
      | some fault => throw fault
      | none => pure ()) stage = (.error fault, after)) : rule.fault = some fault := by
  cases hfault : rule.fault with
  | none =>
      rw [hfault] at h
      split at h <;> cases (Prod.mk.inj h).1
  | some other =>
      rw [hfault] at h
      split at h <;> rw [Except.error.inj (Prod.mk.inj h).1]

/-- A rule that is obeyed ends in a fault by its delay or by reporting it. -/
theorem fault_of_obey {limit : τ} {rule : Rule τ} {stage after : Stage τ} {fault : Fault}
    (h : upshot (obey (some limit) rule) stage = (.error fault, after)) :
    rule.fault = some fault ∨ fault = .timedOut ∧ ∃ delay, rule.delay = some delay ∧
      TimeScale.before TimeScale.none delay = true ∧
      TimeScale.before (stage.clock + delay) limit = false := by
  obtain ⟨told, hclock, -, -, hobey⟩ := upshot_obey_of_dialog (some limit) rule stage
  rw [hobey, obey_eq, pure_bind] at h
  dsimp only at h
  cases hdelay : rule.delay with
  | none =>
      rw [hdelay, pure_bind] at h
      exact .inl (fault_of_rest h)
  | some delay =>
      rw [hdelay] at h
      dsimp only at h
      rw [upshot_bind] at h
      cases hpass : upshot (pass (some limit) delay) told with
      | mk result passed =>
          rw [hpass] at h
          cases result with
          | ok => exact .inl (fault_of_rest h)
          | error other =>
              obtain rfl := Except.error.inj (Prod.mk.inj h).1
              obtain ⟨rfl, hpositive, hlate⟩ := late_of_pass hpass
              exact .inr ⟨rfl, delay, rfl, hpositive, hclock ▸ hlate⟩

/-- So these are the ways in which a call ends in a fault. -/
theorem stops_of_call {limit : τ} {request : Call τ} {stage after : Stage τ} {fault : Fault}
    (h : upshot (call (some limit) request) stage = (.error fault, after)) :
    stage.Stops limit request fault := by
  rw [upshot_call] at h
  cases hpick : Rule.pick request stage.rules with
  | none =>
      rw [hpick] at h
      cases (Prod.mk.inj h).1
  | some found =>
      obtain ⟨rule, rules⟩ := found
      rw [hpick] at h
      dsimp only at h
      rw [upshot_bind] at h
      cases hobey : upshot (obey (some limit) rule)
          { stage.noting (.call request) with rules := rules } with
      | mk result obeyed =>
          rw [hobey] at h
          cases result with
          | ok => cases (Prod.mk.inj h).1
          | error other =>
              obtain rfl := Except.error.inj (Prod.mk.inj h).1
              rcases fault_of_obey hobey with hfault | ⟨rfl, delay, hdelay, hpositive, hlate⟩
              · exact .reported hpick hfault
              · exact .cutOff hpick hdelay hpositive hlate

end Play

/-- The last of the calls that were made since some stage ended in a fault, and nothing was called on the
page after it. -/
inductive Stage.Interrupted (limit : τ) (before : Stage τ) : List (Call τ) → Stage τ → Prop
  | intro {front last stage stopped after fault} (hfront : before.Adds front stage)
      (hcall : upshot (Play.call (some limit) last) stage = (.error fault, stopped))
      (hstops : stage.Stops limit last fault) (hafter : stopped.Adds [] after) :
      Interrupted limit before (front ++ [last]) after

namespace Stage.Interrupted

variable {limit : τ} {before middle after later : Stage τ} {calls more : List (Call τ)}

theorem single {last : Call τ} {fault : Fault}
    (hcall : upshot (Play.call (some limit) last) before = (.error fault, after))
    (hstops : before.Stops limit last fault) : before.Interrupted limit [last] after :=
  intro (Stage.Adds.refl before) hcall hstops (.refl after)

theorem prepend (h : middle.Interrupted limit more after) (hcalls : before.Adds calls middle) :
    before.Interrupted limit (calls ++ more) after := by
  cases h with
  | intro hfront hcall hstops hafter =>
      rw [← List.append_assoc]
      exact .intro (hcalls.trans hfront) hcall hstops hafter

theorem trans (h : before.Interrupted limit calls after) (hquiet : after.Adds [] later) :
    before.Interrupted limit calls later := by
  cases h with
  | intro hfront hcall hstops hafter => exact .intro hfront hcall hstops (hafter.trans hquiet)

end Stage.Interrupted

/-- What a play has made of its plan when it ends under a limit. -/
structure Makes {α : Type} (limit : τ) (plan made : List (Call τ)) (before : Stage τ)
    (result : Except Fault α) (after : Stage τ) : Prop where
  planned : made <+: plan
  added : before.Adds made after
  whole : ∀ a, result = .ok a → made = plan
  stopped : before.browser.opened = true → made ≠ plan → before.Interrupted limit made after

/-- A play goes about a plan under a limit, from whatever stage. -/
def GoesAbout {α : Type} (limit : τ) (plan : List (Call τ)) (play : Play τ α) : Prop :=
  ∀ stage, ∃ made, Makes limit plan made stage (upshot play stage).1 (upshot play stage).2

/-- Calling the browser leaves an open page open. -/
theorem Play.opened_call {stage : Stage τ} (h : stage.browser.opened = true) (limit : Option τ)
    (request : Call τ) : (upshot (call limit request) stage).2.browser.opened = true := by
  have hready : Engaged (Stage.Ready fun _ => True : Stage τ → Prop) fun _ => True :=
    Stage.ready_engaged (fun _ _ => trivial) trivial
  have hcall := hready.call limit request fun _ h => ⟨h.told, h.opened⟩
  exact (hcall stage ⟨fun _ _ _ _ => trivial, h⟩).1.opened

namespace GoesAbout

variable {α : Type} {limit : τ} {plan : List (Call τ)}

/-- What makes no call on the page goes about the empty plan. -/
theorem nil {play : Play τ α} (h : Quiet play) : GoesAbout limit [] play := fun stage =>
  ⟨[], List.prefix_rfl, (h stage [] stage (.refl stage)).1, fun _ _ => rfl, fun _ hne => absurd rfl hne⟩

/-- What first calls the open page and then goes about a plan goes about that call and the plan. -/
theorem cons {request : Call τ} (hrequest : (Event.call request).pageCall? = some request)
    {next : Option (Rule τ) → Play τ α} (hnext : ∀ answer, GoesAbout limit plan (next answer)) :
    GoesAbout limit (request :: plan) (Play.onPage (some limit) request >>= next) := by
  intro stage
  rw [upshot_bind, Play.upshot_onPage]
  by_cases hopened : stage.browser.opened = true
  case neg =>
    rw [if_neg hopened]
    exact ⟨[], List.nil_prefix, .refl stage, by simp, fun h => absurd h hopened⟩
  case pos =>
    rw [if_pos hopened]
    have hadds := Stage.Adds.call hrequest (some limit) stage
    have hstays := Play.opened_call hopened (some limit) request
    cases hcall : upshot (Play.call (some limit) request) stage with
    | mk result middle =>
        rw [hcall] at hadds hstays
        cases result with
        | error fault =>
            refine ⟨[request], List.prefix_append [request] plan, hadds, by simp, fun _ _ => ?_⟩
            exact .single hcall (Play.stops_of_call hcall)
        | ok answer =>
            obtain ⟨made, hmade⟩ := hnext answer middle
            refine ⟨request :: made, List.prefix_cons_inj request |>.mpr hmade.planned,
              hadds.trans hmade.added, fun a ha => by rw [hmade.whole a ha], fun _ hne => ?_⟩
            exact (hmade.stopped hstays (by simpa using hne)).prepend hadds

end GoesAbout

/-- A play that at most notes events other than calls on the page, and writes files. So it calls nothing,
and it takes no time. -/
def Offstage {α : Type} (play : Play τ α) : Prop :=
  ∀ I : Stage τ → Prop,
    (∀ stage event, event.pageCall? = none → I stage → I (stage.noting event)) →
    (∀ stage disk, I stage → I { stage with disk := disk }) → Keeps I (fun _ => True) play

namespace Offstage

variable {α β : Type} {play : Play τ α} {next : α → Play τ β}

omit [TimeScale τ]

theorem pure (a : α) : Offstage (Pure.pure a : Play τ α) := fun _ _ _ => keeps_pure a

theorem throw (fault : Fault) : Offstage (MonadExcept.throw fault : Play τ α) :=
  fun _ _ _ => keeps_throw trivial

theorem bind (h : Offstage play) (hnext : ∀ a, Offstage (next a)) : Offstage (play >>= next) :=
  fun I hevent hdisk => (h I hevent hdisk).bind fun a => hnext a I hevent hdisk

theorem look {next : Stage τ → Play τ α} (h : ∀ stage, Offstage (next stage)) :
    Offstage (MonadState.get >>= next) :=
  fun I hevent hdisk => keeps_get_bind fun stage _ => h stage I hevent hdisk

theorem printOut (line : Text) : Offstage (Play.printOut line : Play τ Unit) := by
  refine look fun stage => ?_
  split
  · exact fun _ hevent _ => keeps_modify fun stage => hevent stage _ rfl
  · exact throw _

theorem writeFile (path : Text) (content : List UInt8) :
    Offstage (Play.writeFile path content : Play τ Unit) := by
  refine look fun stage => ?_
  split
  · exact fun _ _ hdisk => keeps_modify fun stage => hdisk stage _
  · exact throw _

theorem quiet (h : Offstage play) : Quiet play := fun stage calls =>
  h _ (Stage.Adds.unaffected stage calls).event (Stage.Adds.unaffected stage calls).disk

theorem clock (h : Offstage play) (stage : Stage τ) : (upshot play stage).2.clock = stage.clock :=
  (h (fun after => after.clock = stage.clock) (fun _ _ _ => id) (fun _ _ => id) stage rfl).1

end Offstage

/-- A play that makes the calls of a plan on the open page, one after the other and all under one limit,
and has nothing more to do on the page. -/
inductive Enacts (limit : τ) {α : Type} : List (Call τ) → Play τ α → Prop
  | rest {play} (h : Offstage play) : Enacts limit [] play
  | call {request plan} {next : Option (Rule τ) → Play τ α}
      (hrequest : (Event.call request).pageCall? = some request)
      (hnext : ∀ answer, Enacts limit plan (next answer)) :
      Enacts limit (request :: plan) (Play.onPage (some limit) request >>= next)

theorem Enacts.goesAbout {α : Type} {limit : τ} {plan : List (Call τ)} {play : Play τ α}
    (h : Enacts limit plan play) : GoesAbout limit plan play := by
  induction h with
  | rest h => exact .nil h.quiet
  | call hrequest _ ih => exact .cons hrequest ih

/-- A deed that does not just let its bound pass makes the calls of its plan. -/
theorem Deed.enacts_plan {deed : Deed} (h : deed.takesWholeBound = false) (limit timeout : τ) :
    Enacts limit (deed.plan timeout) (deed.act limit timeout) := by
  have hdone : Enacts limit [] (pure () : Play τ Unit) := .rest (.pure ())
  cases deed with
  | idle | noop | sleep => exact hdone
  | load | click | type | submit | value | scroll => exact .call rfl fun _ => hdone
  | wait selector =>
      have hselector : selector ≠ "" := by simpa [takesWholeBound] using h
      rw [plan, if_neg hselector]
      exact .call rfl fun _ => .call rfl fun _ => hdone
  | compare selector v =>
      rw [act, Play.textOf, bind_assoc]
      refine .call rfl fun _ => .rest (.bind (.look fun _ => .pure _) fun text => ?_)
      split
      · exact .throw _
      · exact .pure ()
  | record selector =>
      rw [act, Play.textOf, bind_assoc]
      exact .call rfl fun _ => .rest (.bind (.look fun _ => .pure _) fun text => .printOut text)
  | screenshot | debug =>
      rw [act, Play.savePicture, Play.picture, bind_assoc]
      exact .call rfl fun _ => .rest (.bind (.pure _) fun _ => .writeFile _ _)

namespace Action

variable {action : Action} {seconds : τ}

/-- What an action with a bound has called on the page when it is played. -/
structure CallsPlanned (action : Action) (seconds : τ) (before : Stage τ)
    (result : Except Fault Unit) (after : Stage τ) (made : List (Call τ)) : Prop where
  /-- Calls are made as they are planned, in order, with the bound in milliseconds. -/
  planned : made <+: action.deed.plan (TimeScale.milliseconds seconds)
  /-- There are no other calls on the page. -/
  added : before.Adds made after
  /-- No call is made if the bound is not positive. -/
  hasty : TimeScale.before TimeScale.none seconds = false → made = []
  /-- All calls are made if the action ends well, unless it is a debug action. -/
  whole : result = .ok () → action.deed ≠ .debug →
    made = action.deed.plan (TimeScale.milliseconds seconds)
  /-- Calls are left out only if the bound is not positive or the last one failed or was cut off. -/
  stopped : before.browser.opened = true →
    made ≠ action.deed.plan (TimeScale.milliseconds seconds) →
      TimeScale.before TimeScale.none seconds = false ∨
        before.Interrupted (before.clock + seconds) made after

/-- A debug action that handles its fault makes no more calls. -/
theorem CallsPlanned.of_debug {before after later : Stage τ} {result result' : Except Fault Unit}
    {made : List (Call τ)} (h : action.CallsPlanned seconds before result after made)
    (hdeed : action.deed = .debug) (hquiet : after.Adds [] later) :
    action.CallsPlanned seconds before result' later made where
  planned := h.planned
  added := by simpa using h.added.trans hquiet
  hasty := h.hasty
  whole _ hother := absurd hdeed hother
  stopped hopened hne := (h.stopped hopened hne).imp_right (·.trans hquiet)

/-- A deed within a bound is done as it is planned. -/
theorem exists_calls_playBounded (hbound : action.bound = .ok seconds)
    (hdeed : action.deed.takesWholeBound = false) (stage : Stage τ) :
    ∃ made, action.CallsPlanned seconds stage (upshot action.playBounded stage).1
      (upshot action.playBounded stage).2 made := by
  rw [upshot_playBounded hbound]
  split
  case isTrue hpositive =>
    obtain ⟨made, hmade⟩ := (Deed.enacts_plan hdeed (stage.clock + seconds)
      (TimeScale.milliseconds seconds)).goesAbout stage
    refine ⟨made, hmade.planned, hmade.added, ?_, fun hok _ => hmade.whole () hok, fun hopened hne =>
      .inr (hmade.stopped hopened hne)⟩
    exact fun hhasty => Bool.noConfusion (hhasty.symm.trans hpositive)
  case isFalse hhasty =>
    exact ⟨[], List.nil_prefix, .refl stage, fun _ => rfl, by simp, fun _ _ =>
      .inl (by simpa using hhasty)⟩

/-- Whatever the page does, an action with a proper bound makes the calls of its plan. -/
theorem play_makes_planned_calls (hbound : action.bound = .ok seconds) (stage : Stage τ) :
    ∃ made, action.CallsPlanned seconds stage (upshot action.play stage).1
      (upshot action.play stage).2 made := by
  have hquiet {play : Play τ Unit} (h : Quiet play)
      (hplan : action.deed.plan (TimeScale.milliseconds seconds) = []) :
      ∃ made, action.CallsPlanned seconds stage (upshot play stage).1 (upshot play stage).2 made :=
    ⟨[], List.nil_prefix, (h stage [] stage (.refl stage)).1, fun _ => rfl, fun _ _ => hplan.symm,
      fun _ hne => absurd hplan.symm hne⟩
  rw [play]
  split
  case h_1 hdeed => exact hquiet (fun _ _ => keeps_pure ()) (by rw [hdeed]; rfl)
  case h_2 hdeed =>
    obtain ⟨made, hmade⟩ := exists_calls_playBounded hbound (by rw [hdeed]; rfl) stage
    rw [upshot_tryCatch]
    cases hplay : upshot action.playBounded stage with
    | mk result ended =>
        rw [hplay] at hmade
        cases result with
        | ok => exact ⟨made, hmade⟩
        | error fault =>
            dsimp only
            split
            · exact ⟨made, hmade.of_debug hdeed (.printErr ended _)⟩
            · exact ⟨made, hmade⟩
  case h_3 =>
    split
    case isTrue hwhole =>
      refine hquiet (fun stage calls => ?_) (Deed.plan_of_takesWholeBound hwhole _)
      rw [playSleep, hbound]
      exact (keeps_pure seconds).bind fun _ => (Stage.Adds.unaffected stage calls).pass none _
    case isFalse hwhole =>
      exact exists_calls_playBounded hbound (by simpa using hwhole) stage

/-- An action that does something, and not just pass its bound, does it within the bound, and a debug
action reports a fault of that instead of ending in it. -/
theorem upshot_play_of_planned (hdeed : action.deed.takesWholeBound = false)
    (hbusy : action.deed ≠ .noop) (stage : Stage τ) :
    upshot action.play stage =
      match upshot action.playBounded stage with
      | (.ok (), ended) => (.ok (), ended)
      | (.error fault, ended) =>
          if action.deed = .debug ∧ debugTolerates fault = true then
            (.ok (), ended.noting (.err ("[debug] Screenshot failed: " ++ fault.message ++ "\n")))
          else (.error fault, ended) := by
  rw [play]
  split
  case h_1 hnoop => exact absurd hnoop hbusy
  case h_2 hdebug =>
    rw [upshot_tryCatch]
    cases upshot action.playBounded stage with
    | mk result ended =>
        cases result with
        | ok => rfl
        | error fault =>
            dsimp only
            by_cases htolerated : debugTolerates fault = true
            · rw [if_pos htolerated, if_pos ⟨hdebug, htolerated⟩]
              rfl
            · rw [if_neg htolerated, if_neg fun h => htolerated h.2]
              rfl
  case h_3 hdebug =>
    rw [hdeed, if_neg Bool.false_ne_true]
    cases upshot action.playBounded stage with
    | mk result ended =>
        cases result with
        | ok => rfl
        | error fault =>
            have hother : ¬ (action.deed = .debug ∧ debugTolerates fault = true) := fun h => hdebug h.1
            exact (if_neg hother).symm

/-- A wait for an element, which takes two calls. -/
def longWait : Action := ⟨.wait "#a", "10s"⟩

/-- An open page on which the first of them takes longer than the bound. -/
def slowPage : Stage Float where
  browser := { Browser.new true "" with opened := true }
  rules := [⟨.waitVisible, none, none, none, some 100, false, none, none, none⟩]
  texts := []
  text := none
  clock := 0
  cancelled := none
  disk := .empty
  console := .strict
  trace := []

/-- The first call is cut off, and the second one is not made. -/
theorem wait_is_cut_off :
    longWait.bound = .ok (Duration.tenSeconds : Float) ∧
      longWait.deed.plan (TimeScale.milliseconds (Duration.tenSeconds : Float)) =
        [.waitVisible "#a" 10000, .waitAttached "#a" 10000] ∧
      (upshot longWait.play slowPage).1 = .error .timedOut ∧
      longWait.CallsPlanned Duration.tenSeconds slowPage (upshot longWait.play slowPage).1
        (upshot longWait.play slowPage).2 [.waitVisible "#a" 10000] := by
  have hbound : longWait.bound = .ok (Duration.tenSeconds : Float) := by
    rw [bound, longWait, Duration.parse_tenSeconds]
  have hcalls : pageCalls (upshot longWait.play slowPage).2.trace = [.waitVisible "#a" 10000] := by
    decide +kernel
  obtain ⟨made, hmade⟩ := play_makes_planned_calls hbound slowPage
  obtain ⟨events, htrace, rfl⟩ := hmade.added
  have hevents : pageCalls events = [.waitVisible "#a" 10000] := by
    rw [← hcalls, htrace]
    rfl
  exact ⟨hbound, by decide +kernel, by decide +kernel, hevents ▸ hmade⟩

end Action

end Effects

end Playbook
