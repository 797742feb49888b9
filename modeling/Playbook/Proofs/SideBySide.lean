import Playbook.Proofs.Plays

/-! # Plays and runs side by side

A play is put side by side with itself, or with another play, on two states that are related. If what the
states differ in is not looked at, both end alike and leave related states. Each way to put plays together
passes this on. So do productions, as long as the clock, the signal and the disk are the same.

The relation that is needed most is that of a stage and its twin, which shows its browser. They also
differ in the trace so far, and perhaps in the clock, and what is added to one of the traces is added to
the other.

## Implementation notes

An action looks at the clock, so it goes alike where both clocks show the same time. Opening and closing
the browser has no limits, so there the clocks may be apart, and they stay apart by what they were. -/

namespace Playbook

variable {σ τ α β : Type}

/-- From these states two plays or parts of runs come to the same value or fault, and to related states.
-/
def EndAlike (R : σ → σ → Prop) (m other : ExceptT Fault (StateM σ) α) (s t : σ) : Prop :=
  (upshot other t).1 = (upshot m s).1 ∧ R (upshot m s).2 (upshot other t).2

/-- So they do from all related states. -/
def Alike (R : σ → σ → Prop) (m other : ExceptT Fault (StateM σ) α) : Prop :=
  ∀ s t, R s t → EndAlike R m other s t

section Laws

variable {R : σ → σ → Prop} {m other : ExceptT Fault (StateM σ) α}
  {f g : α → ExceptT Fault (StateM σ) β} {s t : σ}

/-- What comes next has to deal with related states only. -/
theorem EndAlike.bind (h : EndAlike R m other s t) (hnext : ∀ a, Alike R (f a) (g a)) :
    EndAlike R (m >>= f) (other >>= g) s t := by
  obtain ⟨hresult, hstate⟩ := h
  rw [EndAlike, upshot_bind, upshot_bind]
  cases hm : upshot m s with
  | mk result after =>
      cases hother : upshot other t with
      | mk ended reached =>
          rw [hm, hother] at hresult hstate
          obtain rfl : ended = result := hresult
          cases ended with
          | ok a => exact hnext a _ _ hstate
          | error fault => exact ⟨rfl, hstate⟩

theorem EndAlike.tryCatch {handle react : Fault → ExceptT Fault (StateM σ) α}
    (h : EndAlike R m other s t) (hhandle : ∀ fault, Alike R (handle fault) (react fault)) :
    EndAlike R (tryCatch m handle) (tryCatch other react) s t := by
  obtain ⟨hresult, hstate⟩ := h
  rw [EndAlike, upshot_tryCatch, upshot_tryCatch]
  cases hm : upshot m s with
  | mk result after =>
      cases hother : upshot other t with
      | mk ended reached =>
          rw [hm, hother] at hresult hstate
          obtain rfl : ended = result := hresult
          cases ended with
          | ok a => exact ⟨rfl, hstate⟩
          | error fault => exact hhandle fault _ _ hstate

namespace Alike

theorem pure (a : α) : Alike R (pure a : ExceptT Fault (StateM σ) α) (pure a) :=
  fun _ _ h => ⟨rfl, h⟩

theorem throw (fault : Fault) : Alike R (throw fault : ExceptT Fault (StateM σ) α) (throw fault) :=
  fun _ _ h => ⟨rfl, h⟩

theorem modify {change vary : σ → σ} (h : ∀ s t, R s t → R (change s) (vary t)) :
    Alike R (modify change : ExceptT Fault (StateM σ) Unit) (modify vary) :=
  fun s t hst => ⟨rfl, h s t hst⟩

theorem bind (h : Alike R m other) (hnext : ∀ a, Alike R (f a) (g a)) :
    Alike R (m >>= f) (other >>= g) :=
  fun s t hst => (h s t hst).bind hnext

/-- What is looked up may differ as related states do. -/
theorem get_bind {f g : σ → ExceptT Fault (StateM σ) β} (h : ∀ s t, R s t → Alike R (f s) (g t)) :
    Alike R (get >>= f) (get >>= g) := by
  intro s t hst
  rw [EndAlike, upshot_bind_of_ok (upshot_get s), upshot_bind_of_ok (upshot_get t)]
  exact h s t hst s t hst

theorem tryCatch {handle react : Fault → ExceptT Fault (StateM σ) α} (h : Alike R m other)
    (hhandle : ∀ fault, Alike R (handle fault) (react fault)) :
    Alike R (tryCatch m handle) (tryCatch other react) :=
  fun s t hst => (h s t hst).tryCatch hhandle

end Alike

end Laws

/-- A call as it is made when the browser is shown. -/
def Call.shown : Call τ → Call τ
  | .launch _ proxy => .launch false proxy
  | request => request

/-- An event as it is noted when the browser is shown. -/
def Event.shown : Event τ → Event τ
  | .call request => .call request.shown
  | event => event

@[simp] theorem Call.kind?_shown (request : Call τ) : request.shown.kind? = request.kind? := by
  cases request <;> rfl

@[simp] theorem Call.argument?_shown (request : Call τ) : request.shown.argument? = request.argument? := by
  cases request <;> rfl

/-- Showing the browser does not change which rule answers. -/
theorem Rule.pick_shown (request : Call τ) (rules : List (Rule τ)) :
    pick request.shown rules = pick request rules :=
  pick_congr request.kind?_shown request.argument?_shown rules

/-- A stage that shows its browser, with another clock and another trace. -/
def Stage.showing (clock : τ) (trace : List (Event τ)) (stage : Stage τ) : Stage τ :=
  { stage with browser.headless := false, clock, trace }

/-- The twin of a stage is like it, but shows its browser. Its clock is related to the first clock,
and since the traces were `front` and `otherFront` the same was noted on both. -/
def Stage.Twin (clocks : τ → τ → Prop) (front otherFront : List (Event τ)) (stage other : Stage τ) :
    Prop :=
  ∃ clock events, clocks stage.clock clock ∧ stage.trace = front ++ events ∧
    other = stage.showing clock (otherFront ++ events.map Event.shown)

namespace Stage.Twin

variable {clocks : τ → τ → Prop} {front otherFront : List (Event τ)}

/-- Something is looked up that does not differ between the stages. -/
theorem look {next : Stage τ → Play τ α}
    (hsame : ∀ stage clock trace, next (stage.showing clock trace) = next stage)
    (hnext : ∀ stage, Alike (Stage.Twin clocks front otherFront) (next stage) (next stage)) :
    Alike (Stage.Twin clocks front otherFront) (get >>= next) (get >>= next) := by
  refine .get_bind ?_
  rintro stage _ ⟨clock, events, -, -, rfl⟩
  rw [hsame]
  exact hnext stage

/-- Something is changed that does not differ between the stages. -/
theorem change {g : Stage τ → Stage τ}
    (hsame : ∀ stage clock trace, g (stage.showing clock trace) = (g stage).showing clock trace)
    (hclock : ∀ stage, (g stage).clock = stage.clock)
    (htrace : ∀ stage, (g stage).trace = stage.trace) :
    Alike (Stage.Twin clocks front otherFront) (modify g : Play τ Unit) (modify g) := by
  refine .modify ?_
  rintro stage _ ⟨clock, events, hclocks, hevents, rfl⟩
  exact ⟨clock, events, by rwa [hclock], by rwa [htrace], hsame stage _ _⟩

theorem note (event : Event τ) :
    Alike (Stage.Twin clocks front otherFront) (Play.note event) (Play.note event.shown) := by
  refine .modify ?_
  rintro stage _ ⟨clock, events, hclocks, hevents, rfl⟩
  exact ⟨clock, events ++ [event], hclocks, by simp [hevents], by simp [Stage.showing]⟩

theorem printErr (line : Text) :
    Alike (Stage.Twin clocks front otherFront) (Play.printErr line) (Play.printErr line) :=
  note (.err (line ++ "\n"))

theorem printAll (lines : List Text) :
    Alike (Stage.Twin clocks front otherFront) (lines.forM Play.printErr) (lines.forM Play.printErr) := by
  induction lines with
  | nil => exact .pure ()
  | cons line lines ih => exact (printErr line).bind fun _ => ih

theorem ofExcept (result : Except Fault α) :
    Alike (Stage.Twin clocks front otherFront) (Play.ofExcept result) (Play.ofExcept result) := by
  cases result with
  | ok a => exact .pure a
  | error fault => exact .throw fault

theorem writeFile (path : Text) (content : List UInt8) :
    Alike (Stage.Twin clocks front otherFront) (Play.writeFile path content)
      (Play.writeFile path content) := by
  refine look (fun _ _ _ => rfl) fun stage => ?_
  split
  · exact change (fun _ _ _ => rfl) (fun _ => rfl) fun _ => rfl
  · exact .throw _

theorem writeText (path text : Text) :
    Alike (Stage.Twin clocks front otherFront) (Play.writeText path text)
      (Play.writeText path text) := by
  rw [Play.writeText]
  split
  · exact writeFile path _
  · exact (writeFile path []).bind fun _ => .throw _

theorem printOut (line : Text) :
    Alike (Stage.Twin clocks front otherFront) (Play.printOut line) (Play.printOut line) := by
  refine look (fun _ _ _ => rfl) fun stage => ?_
  split
  · exact note (.out (line ++ "\n"))
  · exact .throw _

variable [TimeScale τ]

/-- Without a limit, clocks that are apart stay apart. -/
theorem pass_none (hclocks : ∀ (delay : τ) {clock other}, clocks clock other →
      clocks (clock + delay) (other + delay)) (delay : τ) :
    Alike (Stage.Twin clocks front otherFront) (Play.pass none delay) (Play.pass none delay) := by
  rw [Play.pass]
  split
  · -- Each clock is looked up and set at once, so the pair of them is followed directly.
    rintro stage _ ⟨clock, events, hclock, hevents, rfl⟩
    exact ⟨rfl, clock + delay, events, hclocks delay hclock, hevents, rfl⟩
  · exact .pure ()

/-- Clocks that show the same time reach a limit together. -/
theorem pass (limit : Option τ) (delay : τ) :
    Alike (Stage.Twin Eq front otherFront) (Play.pass limit delay) (Play.pass limit delay) := by
  have hset (time : τ) : Alike (Stage.Twin Eq front otherFront)
      (modify fun stage => { stage with clock := time } : Play τ Unit)
      (modify fun stage => { stage with clock := time }) := by
    refine .modify ?_
    rintro stage _ ⟨clock, events, -, hevents, rfl⟩
    exact ⟨time, events, rfl, hevents, rfl⟩
  rw [Play.pass]
  split
  · refine .get_bind ?_
    rintro stage _ ⟨_, events, rfl, -, rfl⟩
    cases limit with
    | none => exact hset _
    | some limit =>
        dsimp only [Stage.showing]
        split
        · exact hset _
        · exact (hset _).bind fun _ => .throw _
  · exact .pure ()

section Calls

variable {limit : Option τ} (hpass : ∀ delay,
  Alike (Stage.Twin clocks front otherFront) (Play.pass limit delay) (Play.pass limit delay))
include hpass

theorem obey (rule : Rule τ) :
    Alike (Stage.Twin clocks front otherFront) (Play.obey limit rule) (Play.obey limit rule) := by
  rw [Play.obey_eq]
  refine .bind ?dialog fun _ => .bind ?delay fun _ => .bind ?cancel fun _ => ?fault
  case dialog =>
    split
    · exact (printErr _).bind fun _ => note (.call .dismiss)
    · exact .pure ()
  case delay =>
    split
    · exact hpass _
    · exact .pure ()
  case cancel =>
    split
    · exact change (fun _ _ _ => rfl) (fun _ => rfl) fun _ => rfl
    · exact .pure ()
  case fault =>
    split
    · exact .throw _
    · exact .pure ()

/-- A call is answered alike, also if it is the one that is told whether to show the browser. -/
theorem call (request : Call τ) :
    Alike (Stage.Twin clocks front otherFront) (Play.call limit request)
      (Play.call limit request.shown) := by
  refine (note (.call request)).bind fun _ => ?_
  simp only [Rule.pick_shown]
  refine look (fun _ _ _ => rfl) fun stage => ?_
  split
  · exact .pure _
  · refine .bind (change (fun _ _ _ => rfl) (fun _ => rfl) fun _ => rfl) fun _ => ?_
    exact (obey hpass _).bind fun _ => .pure _

theorem onPage {request : Call τ} (hshown : request.shown = request) :
    Alike (Stage.Twin clocks front otherFront) (Play.onPage limit request)
      (Play.onPage limit request) := by
  have hcall := call hpass request
  rw [hshown] at hcall
  refine look (fun _ _ _ => rfl) fun stage => ?_
  split
  · exact hcall
  · exact .throw _

end Calls

section Browser

variable (hpass : ∀ delay,
  Alike (Stage.Twin clocks front otherFront) (Play.pass none delay) (Play.pass none delay))
include hpass

/-- The browser is told whether it is shown when it is launched, and never again. -/
theorem enter :
    Alike (Stage.Twin clocks front otherFront) (Play.enter : Play τ Unit) Play.enter := by
  refine .get_bind ?_
  rintro stage _ ⟨_, _, -, -, rfl⟩
  refine (call hpass .start).bind fun _ => ?_
  refine .bind (change (fun _ _ _ => rfl) (fun _ => rfl) fun _ => rfl) fun _ => ?_
  refine (call hpass (.launch stage.browser.headless stage.browser.proxy)).bind fun _ => ?_
  refine .bind (change (fun _ _ _ => rfl) (fun _ => rfl) fun _ => rfl) fun _ => ?_
  refine (call hpass (.newContext stage.browser.width stage.browser.height)).bind fun _ => ?_
  refine (call hpass .newPage).bind fun _ => ?_
  exact .bind (change (fun _ _ _ => rfl) (fun _ => rfl) fun _ => rfl) fun _ => note (.call .listen)

theorem leave :
    Alike (Stage.Twin clocks front otherFront) (Play.leave : Play τ Unit) Play.leave := by
  have hstop : Alike (Stage.Twin clocks front otherFront)
      (do if (← get).browser.started then let _ ← Play.call none .stop : Play τ Unit)
      (do if (← get).browser.started then let _ ← Play.call none .stop) := by
    refine look (fun _ _ _ => rfl) fun stage => ?_
    split
    · exact (call hpass .stop).bind fun _ => .pure _
    · exact .pure ()
  refine look (fun _ _ _ => rfl) fun stage => ?_
  split
  · exact (call hpass .close).bind fun _ => hstop
  · exact hstop

end Browser

theorem textOf (limit : Option τ) (selector : Text) (timeout : τ) :
    Alike (Stage.Twin Eq front otherFront) (Play.textOf limit selector timeout)
      (Play.textOf limit selector timeout) :=
  (onPage (pass limit) rfl).bind fun _ => look (fun _ _ _ => rfl) fun _ => .pure _

theorem savePicture (limit : Option τ) (name : Text) (timeout : τ) :
    Alike (Stage.Twin Eq front otherFront) (Play.savePicture limit name timeout)
      (Play.savePicture limit name timeout) :=
  ((onPage (pass limit) rfl).bind fun _ => .pure _).bind fun _ => writeFile _ _

theorem act (deed : Deed) (limit timeout : τ) :
    Alike (Stage.Twin Eq front otherFront) (deed.act limit timeout) (deed.act limit timeout) := by
  cases deed with
  | idle | noop | sleep => exact .pure ()
  | load | click | type | submit | value | scroll =>
      exact (onPage (pass (some limit)) rfl).bind fun _ => .pure _
  | wait =>
      exact (onPage (pass (some limit)) rfl).bind fun _ =>
        (onPage (pass (some limit)) rfl).bind fun _ => .pure _
  | compare selector v =>
      refine (textOf _ selector timeout).bind fun text => ?_
      split
      · exact .throw _
      · exact .pure ()
  | record selector => exact (textOf _ selector timeout).bind fun text => printOut text
  | screenshot | debug => exact savePicture _ _ _

theorem play (action : Action) :
    Alike (Stage.Twin Eq front otherFront) (action.play : Play τ Unit) action.play := by
  have hbounded : Alike (Stage.Twin Eq front otherFront) (action.playBounded : Play τ Unit)
      action.playBounded := by
    refine (ofExcept _).bind fun seconds => ?_
    rw [Play.within]
    split
    · -- The limit of the action is set by the clock, which shows the same time on both stages.
      refine .get_bind ?_
      rintro stage _ ⟨_, _, rfl, -, rfl⟩
      exact act _ _ _
    · exact .throw _
  rw [Action.play]
  split
  · exact .pure ()
  · refine hbounded.tryCatch fun fault => ?_
    split
    · exact printErr _
    · exact .throw _
  · split
    · exact (ofExcept _).bind fun _ => pass none _
    · exact hbounded

end Stage.Twin

/-- The twin of a run is like it, but its stage shows the browser. -/
def RunState.Twin (clocks : τ → τ → Prop) (front otherFront : List (Event τ))
    (state other : RunState τ) : Prop :=
  ∃ stage, state.stage.Twin clocks front otherFront stage ∧ other = { state with stage := stage }

namespace Running

section Laws

variable {R : RunState τ → RunState τ → Prop} {run other : Running τ α} {s t : RunState τ}

/-- An attempt hands out how it ended, which is the same in both runs. -/
theorem endAlike_attempt (h : EndAlike R run other s t) :
    EndAlike R (attempt run) (attempt other) s t := by
  obtain ⟨hresult, hstate⟩ := h
  rw [EndAlike, upshot_attempt, upshot_attempt, hresult]
  exact ⟨rfl, hstate⟩

theorem alike_attempt (h : Alike R run other) : Alike R (attempt run) (attempt other) :=
  fun s t hst => endAlike_attempt (h s t hst)

theorem endAlike_endingWith {last final : Running τ Unit} (h : EndAlike R run other s t)
    (hlast : Alike R last final) : EndAlike R (endingWith run last) (endingWith other final) s t := by
  obtain ⟨hresult, hstate⟩ := h
  obtain ⟨hended, hafter⟩ := hlast _ _ hstate
  rw [EndAlike, upshot_endingWith, upshot_endingWith]
  cases hlast : upshot last (upshot run s).2 with
  | mk result after =>
      cases hfinal : upshot final (upshot other t).2 with
      | mk ended reached =>
          rw [hlast, hfinal] at hended hafter
          obtain rfl : ended = result := hended
          cases ended with
          | ok => exact ⟨hresult, hafter⟩
          | error fault => exact ⟨rfl, hafter⟩

theorem alike_endingWith {last final : Running τ Unit} (h : Alike R run other)
    (hlast : Alike R last final) : Alike R (endingWith run last) (endingWith other final) :=
  fun s t hst => endAlike_endingWith (h s t hst) hlast

end Laws

theorem alike_ofExcept {R : RunState τ → RunState τ → Prop} (result : Except Fault α) :
    Alike R (onStage (Play.ofExcept result)) (onStage (Play.ofExcept result)) := by
  intro s t hst
  rw [EndAlike, upshot_ofExcept, upshot_ofExcept]
  exact ⟨rfl, hst⟩

/-- What differs between related states goes unnoticed while records are played: actions do not look at
it, telling and adding outcomes do not either, and the clock, the signal and the disk are the same. -/
structure Unnoticed [TimeScale τ] (R : RunState τ → RunState τ → Prop) : Prop where
  play (action : Action) : Alike R (onStage action.play) (onStage action.play)
  printErr (line : Text) : Alike R (onStage (Play.printErr line)) (onStage (Play.printErr line))
  addOutcome (outcome : Outcome τ) : Alike R (addOutcome outcome) (addOutcome outcome)
  clock : ∀ s t, R s t → t.stage.clock = s.stage.clock
  cancelled : ∀ s t, R s t → t.stage.cancelled = s.stage.cancelled
  disk : ∀ s t, R s t → t.stage.disk = s.stage.disk

namespace Unnoticed

variable [TimeScale τ] {R : RunState τ → RunState τ → Prop}

theorem capture (h : Unnoticed R) (production : Production) :
    Alike R production.capture production.capture := by
  rw [Production.capture]
  split
  · exact .pure ()
  · refine (alike_attempt (h.play _)).bind fun result => ?_
    split
    · exact h.printErr _
    · split
      · exact h.printErr _
      · exact .throw _

/-- A step takes the same time, since it begins and ends at the same times. -/
theorem perform (h : Unnoticed R) (production : Production) (step : Step) :
    Alike R (production.perform step) (production.perform step) := by
  refine (alike_ofExcept _).bind fun _ => .get_bind fun before before' hbefore => ?_
  refine (alike_attempt (h.play _)).bind fun result => .get_bind fun after after' hafter => ?_
  rw [h.clock _ _ hbefore, h.clock _ _ hafter]
  dsimp only
  split
  · exact (h.addOutcome _).bind fun _ => (h.printErr _).bind fun _ => .pure _
  · split
    · refine (h.addOutcome _).bind fun _ => (h.printErr _).bind fun _ => ?_
      exact (h.capture production).bind fun _ => .throw _
    · exact .throw _

theorem takeLine (h : Unnoticed R) (production : Production) (buffer line : Text) :
    Alike R (production.takeLine buffer line) (production.takeLine buffer line) := by
  rw [Production.takeLine]
  split
  · exact .throw _
  · exact .pure _
  · refine Alike.bind (.get_bind fun s t hst => ?_) fun _ => .pure _
    rw [h.cancelled _ _ hst]
    split
    · exact .throw _
    · exact (h.perform production _).bind fun _ => .pure _

theorem takeLines (h : Unnoticed R) (production : Production) (buffer : Text) (lines : List Text) :
    Alike R (production.takeLines buffer lines) (production.takeLines buffer lines) := by
  induction lines generalizing buffer with
  | nil => exact .pure buffer
  | cons line lines ih => exact (h.takeLine production buffer line).bind ih

theorem takeRead (h : Unnoticed R) (production : Production) (buffer : Text) (reader : Reader)
    (rounds : Nat) :
    Alike R (production.takeRead buffer reader rounds) (production.takeRead buffer reader rounds) := by
  induction rounds generalizing buffer reader with
  | zero => exact .pure buffer
  | succ rounds ih =>
      refine .get_bind fun s t hst => ?_
      rw [h.disk _ _ hst]
      split
      · exact (h.takeLine production _ _).bind fun _ => ih _ _
      · exact ih _ _
      · exact .pure _
      · exact .throw _

end Unnoticed

variable {clocks : τ → τ → Prop} {front otherFront : List (Event τ)}

theorem alike_onStage {play other : Play τ α}
    (h : Alike (Stage.Twin clocks front otherFront) play other) :
    Alike (RunState.Twin clocks front otherFront) (onStage play) (onStage other) := by
  rintro state _ ⟨stage, hstage, rfl⟩
  obtain ⟨hresult, hafter⟩ := h _ _ hstage
  rw [EndAlike, upshot_onStage, upshot_onStage, hresult]
  exact ⟨rfl, _, hafter, rfl⟩

theorem alike_printErr (line : Text) :
    Alike (RunState.Twin clocks front otherFront) (onStage (Play.printErr line))
      (onStage (Play.printErr line)) :=
  alike_onStage (Stage.Twin.printErr line)

/-- A change of the outcomes is the same in both runs. -/
theorem alike_modify {g : RunState τ → RunState τ}
    (hsame : ∀ state stage, g { state with stage := stage } = { g state with stage := stage })
    (hstage : ∀ state, (g state).stage = state.stage) :
    Alike (RunState.Twin clocks front otherFront) (modify g) (modify g) := by
  refine .modify ?_
  rintro state _ ⟨stage, hshows, rfl⟩
  exact ⟨stage, by rwa [hstage], hsame state stage⟩

/-- What is looked up may be anything but the trace, the clock and whether the browser is shown. -/
theorem alike_look {next : RunState τ → Running τ α}
    (hsame : ∀ state clock trace,
      next { state with stage := state.stage.showing clock trace } = next state)
    (hnext : ∀ state, Alike (RunState.Twin clocks front otherFront) (next state) (next state)) :
    Alike (RunState.Twin clocks front otherFront) (get >>= next) (get >>= next) := by
  refine .get_bind ?_
  rintro state _ ⟨_, ⟨clock, events, -, -, rfl⟩, rfl⟩
  rw [hsame]
  exact hnext state

/-- Where the clocks show the same time, it goes unnoticed that the browser is shown. -/
theorem unnoticed_twin [TimeScale τ] : Unnoticed (RunState.Twin Eq front otherFront) where
  play action := alike_onStage (Stage.Twin.play action)
  printErr := alike_printErr
  addOutcome outcome := alike_modify (fun _ _ => rfl) fun _ => rfl
  clock := by
    rintro state _ ⟨_, ⟨_, _, rfl, -, rfl⟩, rfl⟩
    rfl
  cancelled := by
    rintro state _ ⟨_, ⟨_, _, -, -, rfl⟩, rfl⟩
    rfl
  disk := by
    rintro state _ ⟨_, ⟨_, _, -, -, rfl⟩, rfl⟩
    rfl

end Running

end Playbook
