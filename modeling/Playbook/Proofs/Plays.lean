import Playbook.Proofs.Effects

/-! # What plays change and what they leave alone

A play adds events to the trace, lets time pass, uses rules up, cancels the run and writes files. What
depends on none of these is kept by every play. Of the events, the calls on the page are those that a
rule of the page can answer; the dismissal of a dialog is a call on the dialog. Saving a picture makes
one call on the page. -/

namespace Playbook

variable {τ : Type}

/-- The call on the page that an event is, if it is one. -/
def Event.pageCall? : Event τ → Option (Call τ)
  | .call .dismiss => none
  | .call request => some request
  | .out _ | .err _ => none

/-- The calls on the page among some events. -/
def pageCalls (events : List (Event τ)) : List (Call τ) := events.filterMap Event.pageCall?

/-- A stage with one more event. -/
def Stage.noting (stage : Stage τ) (event : Event τ) : Stage τ :=
  { stage with trace := stage.trace ++ [event] }

namespace Rule

/-- Which rule answers a call depends on the kind of the call and on its argument only. -/
theorem pick_congr {request other : Call τ} (hkind : request.kind? = other.kind?)
    (hargument : request.argument? = other.argument?) (rules : List (Rule τ)) :
    pick request rules = pick other rules := by
  induction rules with
  | nil => rfl
  | cons rule rules ih => rw [pick, pick, ih, fits, fits, hkind, hargument]

/-- The rule that answers a call is one of the rules and fits the call. -/
theorem mem_of_pick {request : Call τ} {rules rest : List (Rule τ)} {rule : Rule τ}
    (h : pick request rules = some (rule, rest)) : rule ∈ rules ∧ rule.fits request = true := by
  induction rules generalizing rest with
  | nil => cases h
  | cons first rules ih =>
      rw [pick] at h
      split at h
      · rename_i hfits
        obtain ⟨rfl, -⟩ := Prod.mk.inj (Option.some.inj h)
        exact ⟨List.mem_cons_self, hfits⟩
      · obtain ⟨⟨found, left⟩, hfound, hpair⟩ := Option.map_eq_some_iff.mp h
        obtain ⟨rfl, -⟩ := Prod.mk.inj hpair
        exact (ih hfound).imp_left (List.mem_cons_of_mem first)

end Rule

@[simp] theorem Play.upshot_note (event : Event τ) (stage : Stage τ) :
    upshot (note event) stage = (.ok (), stage.noting event) := rfl

/-- A line is printed, or it cannot be encoded. -/
theorem Play.upshot_printOut (line : Text) (stage : Stage τ) :
    upshot (printOut line) stage =
      match line.encode stage.console with
      | .ok _ => (.ok (), stage.noting (.out (line ++ "\n")))
      | .error fault => (.error (.encoding fault), stage) := by
  rw [Play.printOut, upshot_bind_of_ok (upshot_get stage)]
  cases line.encode stage.console <;> rfl

@[simp] theorem Play.upshot_printErr (line : Text) (stage : Stage τ) :
    upshot (printErr line) stage = (.ok (), stage.noting (.err (line ++ "\n"))) := rfl

/-- What the page does not change when it answers a call, and the faults that it may answer with. -/
structure Undisturbed (I : Stage τ → Prop) (F : Fault → Prop) : Prop where
  event : ∀ stage event, event.pageCall? = none → I stage → I (stage.noting event)
  clock : ∀ stage clock, I stage → I { stage with clock := clock }
  cancelled : ∀ stage, I stage →
    I { stage with cancelled := stage.cancelled.map fun _ => true }
  rules : ∀ stage other request rule rules, I stage → I other →
    Rule.pick request stage.rules = some (rule, rules) → I { other with rules := rules }
  told : ∀ stage request rule rules, I stage →
    Rule.pick request stage.rules = some (rule, rules) → ∀ fault ∈ rule.fault, F fault
  timedOut : F .timedOut

/-- What also stays when files are written. -/
structure Unaffected (I : Stage τ → Prop) (F : Fault → Prop) : Prop extends Undisturbed I F where
  disk : ∀ stage disk, I stage → I { stage with disk := disk }
  refused : ∀ fault, F (.disk fault)

namespace Play

variable [TimeScale τ]

/-- What a rule says happens in order: a dialog, a delay, a cancellation, a fault. -/
theorem obey_eq (limit : Option τ) (rule : Rule τ) :
    obey limit rule =
      (match rule.dialog with
        | some (type, message) => dismiss type message
        | none => pure ()) >>= fun _ =>
      (match rule.delay with
        | some delay => pass limit delay
        | none => pure ()) >>= fun _ =>
      (if rule.cancels then cancel else pure ()) >>= fun _ =>
      match rule.fault with
        | some fault => throw fault
        | none => pure () := by
  obtain ⟨call, argument, times, dialog, delay, cancels, fault, text, picture⟩ := rule
  cases dialog <;> cases delay <;> cases cancels <;> cases fault <;> simp [obey]

/-- What the browser does with a call that it has been sent. -/
def answer (limit : Option τ) (request : Call τ) : Play τ (Option (Rule τ)) := do
  match Rule.pick request (← get).rules with
  | none => return none
  | some (rule, rules) =>
      modify fun stage => { stage with rules := rules }
      obey limit rule
      return some rule

theorem call_eq (limit : Option τ) (request : Call τ) :
    call limit request = note (.call request) >>= fun _ => answer limit request := rfl

/-- A call is noted, and then the rule is obeyed that is picked for it. -/
theorem upshot_call (limit : Option τ) (request : Call τ) (stage : Stage τ) :
    upshot (call limit request) stage =
      match Rule.pick request stage.rules with
      | none => (.ok none, stage.noting (.call request))
      | some (rule, rules) =>
          upshot (obey limit rule >>= fun _ => pure (some rule))
            { stage.noting (.call request) with rules := rules } := by
  have hrules : (stage.noting (.call request)).rules = stage.rules := rfl
  rw [call_eq, upshot_bind_of_ok (upshot_note ..), answer, upshot_bind_of_ok (upshot_get _), hrules]
  cases Rule.pick request stage.rules with
  | none => rfl
  | some found => rfl

/-- A call is answered by the rule that is picked. -/
theorem answer_of_call {limit : Option τ} {request : Call τ} {stage after : Stage τ}
    {answered : Option (Rule τ)} (h : upshot (call limit request) stage = (.ok answered, after)) :
    answered = (Rule.pick request stage.rules).map (·.1) := by
  rw [upshot_call] at h
  cases hpick : Rule.pick request stage.rules with
  | none =>
      rw [hpick] at h
      exact (Except.ok.inj (Prod.mk.inj h).1).symm
  | some found =>
      rw [hpick] at h
      obtain ⟨_, _, -, h⟩ := upshot_bind_eq_ok.mp h
      exact (Except.ok.inj (Prod.mk.inj h).1).symm

/-- When time passes only the clock is set, and a limit may be exceeded. -/
theorem keeps_pass {I : Stage τ → Prop} {F : Fault → Prop}
    (hclock : ∀ stage clock, I stage → I { stage with clock := clock }) (htimedOut : F .timedOut)
    (limit : Option τ) (delay : τ) : Keeps I F (pass limit delay) := by
  rw [pass]
  split
  · refine keeps_get_bind fun stage _ => ?_
    cases limit with
    | none => exact keeps_modify fun _ => hclock _ _
    | some limit =>
        dsimp only
        split
        · exact keeps_modify fun _ => hclock _ _
        · exact Keeps.bind (keeps_modify fun _ => hclock _ _) fun _ => keeps_throw htimedOut
  · exact keeps_pure ()

/-- On a page that is not open nothing is called. -/
theorem upshot_onPage (limit : Option τ) (request : Call τ) (stage : Stage τ) :
    upshot (onPage limit request) stage =
      if stage.browser.opened then upshot (call limit request) stage
      else (.error .notStarted, stage) := by
  rw [onPage, upshot_bind_of_ok (upshot_get stage)]
  split <;> rfl

end Play

namespace Undisturbed

variable {I : Stage τ → Prop} {F : Fault → Prop}

theorem note (h : Undisturbed I F) {event : Event τ} (hevent : event.pageCall? = none) :
    Keeps I F (Play.note event) :=
  keeps_modify fun stage => h.event stage event hevent

theorem printErr (h : Undisturbed I F) (line : Text) : Keeps I F (Play.printErr line) :=
  h.note rfl

theorem printAll (h : Undisturbed I F) (lines : List Text) :
    Keeps I F (lines.forM Play.printErr) := by
  induction lines with
  | nil => exact keeps_pure ()
  | cons line lines ih => exact (h.printErr line).bind fun _ => ih

/-- What depends on the disk alone stays when the page answers. -/
theorem of_disk (h : ∀ stage other : Stage τ, other.disk = stage.disk → I stage → I other) :
    Undisturbed I fun _ => True where
  event stage _ _ := h stage _ rfl
  clock stage _ := h stage _ rfl
  cancelled stage := h stage _ rfl
  rules _ other _ _ _ _ := fun hother _ => h other _ rfl hother
  told _ _ _ _ _ _ _ _ := trivial
  timedOut := trivial

variable [TimeScale τ]

theorem pass (h : Undisturbed I F) (limit : Option τ) (delay : τ) :
    Keeps I F (Play.pass limit delay) :=
  Play.keeps_pass h.clock h.timedOut limit delay

theorem obey (h : Undisturbed I F) (limit : Option τ) {rule : Rule τ}
    (hfault : ∀ fault ∈ rule.fault, F fault) : Keeps I F (Play.obey limit rule) := by
  rw [Play.obey_eq]
  refine Keeps.bind ?dialog fun _ => Keeps.bind ?delay fun _ => Keeps.bind ?cancel fun _ => ?fault
  case dialog =>
    split
    · exact (h.printErr _).bind fun _ => h.note rfl
    · exact keeps_pure ()
  case delay =>
    split
    · exact h.pass limit _
    · exact keeps_pure ()
  case cancel =>
    split
    · exact keeps_modify h.cancelled
    · exact keeps_pure ()
  case fault =>
    split
    · rename_i fault hsome
      exact keeps_throw (hfault fault hsome)
    · exact keeps_pure ()

theorem answer (h : Undisturbed I F) (limit : Option τ) (request : Call τ) :
    Keeps I F (Play.answer limit request) := by
  refine keeps_get_bind fun stage hstage => ?_
  split
  · exact keeps_pure _
  · rename_i rule rules hpick
    have hrules : Keeps I F (modify fun stage => { stage with rules := rules } : Play τ Unit) :=
      keeps_modify fun other hother => h.rules stage other request rule rules hstage hother hpick
    have hobey := h.obey limit (h.told stage request rule rules hstage hpick)
    exact hrules.bind fun _ => hobey.bind fun _ => keeps_pure _

/-- What also stays when a call is noted stays when the browser is called. -/
theorem call (h : Undisturbed I F) (limit : Option τ) (request : Call τ)
    (hnoted : ∀ stage, I stage → I (stage.noting (.call request))) :
    Keeps I F (Play.call limit request) := by
  rw [Play.call_eq]
  exact Keeps.bind (keeps_modify hnoted) fun _ => h.answer limit request

/-- Opening the page calls the browser and notes what has been made. -/
theorem enter (h : Undisturbed I F) (hevent : ∀ stage event, I stage → I (stage.noting event))
    (hbrowser : ∀ stage browser, I stage → I { stage with browser := browser }) :
    Keeps I F (Play.enter : Play τ Unit) := by
  have hcall (request : Call τ) : Keeps I F (Play.call none request) :=
    h.call none request fun stage => hevent stage _
  refine keeps_get_bind fun stage _ => (hcall _).bind fun _ => ?_
  refine Keeps.bind (keeps_modify fun _ => hbrowser _ _) fun _ => (hcall _).bind fun _ => ?_
  refine Keeps.bind (keeps_modify fun _ => hbrowser _ _) fun _ => ?_
  refine (hcall _).bind fun _ => (hcall _).bind fun _ => ?_
  refine Keeps.bind (keeps_modify fun _ => hbrowser _ _) fun _ => ?_
  exact keeps_modify fun stage => hevent stage _

theorem leave (h : Undisturbed I F) (hevent : ∀ stage event, I stage → I (stage.noting event)) :
    Keeps I F (Play.leave : Play τ Unit) := by
  have hcall (request : Call τ) : Keeps I F (Play.call none request) :=
    h.call none request fun stage => hevent stage _
  rw [Play.leave]
  have hstop : Keeps I F (do
      if (← get).browser.started then
        let _ ← Play.call none .stop : Play τ Unit) := by
    refine keeps_get_bind fun stage _ => ?_
    split
    · exact (hcall _).bind fun _ => keeps_pure _
    · exact keeps_pure ()
  refine keeps_get_bind fun stage _ => ?_
  split
  · exact (hcall _).bind fun _ => hstop
  · exact hstop

end Undisturbed

theorem Unaffected.writeFile {I : Stage τ → Prop} {F : Fault → Prop} (h : Unaffected I F)
    (path : Text) (content : List UInt8) : Keeps I F (Play.writeFile path content) := by
  refine keeps_get_bind fun stage _ => ?_
  split
  · exact keeps_modify fun _ => h.disk _ _
  · exact keeps_throw (h.refused _)

/-- A text file may also be refused for its text. -/
theorem Unaffected.writeText {I : Stage τ → Prop} {F : Fault → Prop} (h : Unaffected I F)
    (hencoding : ∀ fault, F (.encoding fault)) (path text : Text) :
    Keeps I F (Play.writeText path text) := by
  rw [Play.writeText]
  split
  · exact h.writeFile path _
  · exact (h.writeFile path []).bind fun _ => keeps_throw (hencoding _)

/-- One stage has the trace of another with more events, among them these calls on the page. -/
def Stage.Adds (before : Stage τ) (calls : List (Call τ)) (after : Stage τ) : Prop :=
  ∃ events, after.trace = before.trace ++ events ∧ pageCalls events = calls

namespace Stage.Adds

variable {before middle after : Stage τ} {calls more : List (Call τ)}

theorem refl (stage : Stage τ) : stage.Adds [] stage := ⟨[], by simp, rfl⟩

theorem trans (h : before.Adds calls middle) (hmore : middle.Adds more after) :
    before.Adds (calls ++ more) after := by
  obtain ⟨events, hevents, rfl⟩ := h
  obtain ⟨others, hothers, rfl⟩ := hmore
  exact ⟨events ++ others, by simp [hothers, hevents], by simp [pageCalls]⟩

/-- An event adds the call on the page that it is, if it is one. -/
theorem noting (stage : Stage τ) (event : Event τ) :
    stage.Adds event.pageCall?.toList (stage.noting event) :=
  ⟨[event], rfl, by cases h : event.pageCall? <;> simp [pageCalls, h]⟩

theorem printErr (stage : Stage τ) (line : Text) :
    stage.Adds [] (upshot (Play.printErr line) stage).2 :=
  noting stage (.err (line ++ "\n"))

/-- Without calls on the page the calls that were added stay the same. -/
theorem unaffected (before : Stage τ) (calls : List (Call τ)) :
    Unaffected (before.Adds calls) fun _ => True where
  event stage event hevent h := by
    have hadded := h.trans (noting stage event)
    rwa [hevent, Option.toList_none, List.append_nil] at hadded
  clock _ _ h := h
  cancelled _ h := h
  disk _ _ h := h
  rules _ _ _ _ _ _ h _ := h
  told _ _ _ _ _ _ _ _ := trivial
  timedOut := trivial
  refused _ := trivial

end Stage.Adds

/-- An action with a positive bound does its deed until that bound; any other exceeds its bound at
once. -/
theorem Action.upshot_playBounded [TimeScale τ] {action : Action} {seconds : τ}
    (hbound : action.bound = .ok seconds) (stage : Stage τ) :
    upshot action.playBounded stage =
      if TimeScale.before TimeScale.none seconds then
        upshot (action.deed.act (stage.clock + seconds) (TimeScale.milliseconds seconds)) stage
      else (.error .timedOut, stage) := by
  rw [playBounded, hbound, upshot_bind_of_ok (Play.upshot_ofExcept _ stage), Play.within]
  split
  · rw [upshot_bind_of_ok (upshot_get stage)]
  · rfl

theorem Action.play_of_screenshot [TimeScale τ] {action : Action} {name : Text}
    (hdeed : action.deed = .screenshot name) :
    (action.play : Play τ Unit) = action.playBounded := by
  rw [play, hdeed]
  rfl

/-- A play makes one call on the page, or none. -/
def MakesOne {α : Type} (request : Call τ) (play : Play τ α) : Prop :=
  ∀ stage : Stage τ,
    stage.Adds [] (upshot play stage).2 ∨ stage.Adds [request] (upshot play stage).2

/-- A play makes no call on the page, so that those that were added stay the same. -/
def Quiet {α : Type} (play : Play τ α) : Prop :=
  ∀ (stage : Stage τ) calls, Keeps (stage.Adds calls) (fun _ => True) play

namespace MakesOne

variable {α β : Type} {play : Play τ α} {next : α → Play τ β} {request : Call τ}

theorem bind (h : MakesOne request play) (hnext : ∀ a, Quiet (next a)) :
    MakesOne request (play >>= next) := by
  intro stage
  have hfirst := h stage
  rw [upshot_bind]
  cases hplay : upshot play stage with
  | mk result middle =>
      rw [hplay] at hfirst
      cases result with
      | error fault => exact hfirst
      | ok a =>
          exact hfirst.imp (fun hadds => (hnext a stage _ middle hadds).1)
            fun hadds => (hnext a stage _ middle hadds).1

variable [TimeScale τ]

/-- A call to the browser is one call, whatever the rule that answers it says. -/
theorem call (limit : Option τ) (request : Call τ) :
    MakesOne request (Play.call limit request) := by
  have hquiet : Quiet (Play.answer limit request) := fun stage calls =>
    (Stage.Adds.unaffected stage calls).answer limit request
  rw [Play.call_eq]
  refine MakesOne.bind ?_ fun _ => hquiet
  intro stage
  have hnoted := Stage.Adds.noting stage (.call request)
  cases request with
  | dismiss => exact .inl hnoted
  | _ => exact .inr hnoted

theorem onPage (limit : Option τ) (request : Call τ) :
    MakesOne request (Play.onPage limit request) := by
  intro stage
  rw [Play.upshot_onPage]
  split
  · exact call limit request stage
  · exact .inl (.refl stage)

theorem savePicture (limit : Option τ) (name : Text) (timeout : τ) :
    MakesOne (.screenshot timeout) (Play.savePicture limit name timeout) := by
  have hpicture : MakesOne (.screenshot timeout) (Play.picture limit timeout) :=
    (onPage limit _).bind fun _ _ _ => keeps_pure _
  exact hpicture.bind fun _ stage calls => (Stage.Adds.unaffected stage calls).writeFile _ _

/-- A screenshot makes one call, which is given the bound of the action in milliseconds. -/
theorem screenshot {action : Action} {name : Text} (hdeed : action.deed = .screenshot name)
    {seconds : τ} (hbound : action.bound = .ok seconds) :
    MakesOne (.screenshot (TimeScale.milliseconds seconds)) (action.play : Play τ Unit) := by
  intro stage
  rw [Action.play_of_screenshot hdeed, Action.upshot_playBounded hbound, hdeed]
  split
  · exact savePicture _ _ _ stage
  · exact .inl (.refl stage)

end MakesOne

end Playbook
