import Playbook.Program
import Playbook.Proofs.Encodings

/-! # How plays and runs end

A play, and a run likewise, changes a state and ends with a value or with a fault. Each way to put
plays together has a law that says how the whole ends, so that a proof follows a play step by step
and never opens the types that carry the effects.

## Implementation notes

Plays and runs differ in their states only, so one set of laws serves both. -/

namespace Playbook

variable {σ α β : Type}

/-- What a play or a run that starts in some state comes to: its value or fault, and the state that
it leaves. -/
def upshot (m : ExceptT Fault (StateM σ) α) (s : σ) : Except Fault α × σ := m.run.run s

section Laws

variable {m : ExceptT Fault (StateM σ) α} {f : α → ExceptT Fault (StateM σ) β} {s t : σ}

@[simp] theorem upshot_pure (a : α) (s : σ) :
    upshot (pure a : ExceptT Fault (StateM σ) α) s = (.ok a, s) := rfl

@[simp] theorem upshot_throw (fault : Fault) (s : σ) :
    upshot (throw fault : ExceptT Fault (StateM σ) α) s = (.error fault, s) := rfl

@[simp] theorem upshot_get (s : σ) :
    upshot (get : ExceptT Fault (StateM σ) σ) s = (.ok s, s) := rfl

@[simp] theorem upshot_modify (g : σ → σ) (s : σ) :
    upshot (modify g : ExceptT Fault (StateM σ) Unit) s = (.ok (), g s) := rfl

/-- What comes first decides whether the rest is done at all. -/
theorem upshot_bind (m : ExceptT Fault (StateM σ) α) (f : α → ExceptT Fault (StateM σ) β) (s : σ) :
    upshot (m >>= f) s =
      match upshot m s with
      | (.ok a, t) => upshot (f a) t
      | (.error fault, t) => (.error fault, t) := by
  unfold upshot ExceptT.run StateT.run
  simp only [bind, ExceptT.bind, ExceptT.mk, StateT.bind, ExceptT.bindCont]
  cases m s with
  | mk result t => cases result <;> rfl

theorem upshot_bind_of_ok {a : α} (h : upshot m s = (.ok a, t)) :
    upshot (m >>= f) s = upshot (f a) t := by
  rw [upshot_bind, h]

theorem upshot_bind_of_error {fault : Fault} (h : upshot m s = (.error fault, t)) :
    upshot (m >>= f) s = (.error fault, t) := by
  rw [upshot_bind, h]

theorem upshot_bind_eq_ok {b : β} :
    upshot (m >>= f) s = (.ok b, t) ↔
      ∃ a u, upshot m s = (.ok a, u) ∧ upshot (f a) u = (.ok b, t) := by
  rw [upshot_bind]
  constructor
  · intro h
    cases hm : upshot m s with
    | mk result u =>
        rw [hm] at h
        cases result with
        | ok a => exact ⟨a, u, rfl, h⟩
        | error fault => cases h
  · rintro ⟨a, u, hm, h⟩
    rw [hm]
    exact h

/-- A fault that is thrown at the end leaves the state as it is. -/
theorem upshot_bind_throw_state (m : ExceptT Fault (StateM σ) α) (fault : Fault) (s : σ) :
    (upshot (m >>= fun _ => (throw fault : ExceptT Fault (StateM σ) β)) s).2 = (upshot m s).2 := by
  rw [upshot_bind]
  cases upshot m s with
  | mk result t => cases result <;> rfl

/-- So does a value that is handed out at the end. -/
theorem upshot_bind_pure_state (m : ExceptT Fault (StateM σ) α) (b : β) (s : σ) :
    (upshot (m >>= fun _ => (pure b : ExceptT Fault (StateM σ) β)) s).2 = (upshot m s).2 := by
  rw [upshot_bind]
  cases upshot m s with
  | mk result t => cases result <;> rfl

theorem upshot_fst_eq_ok {a : α} : (upshot m s).1 = .ok a ↔ ∃ t, upshot m s = (.ok a, t) := by
  constructor
  · intro h
    exact ⟨(upshot m s).2, by rw [← h]⟩
  · rintro ⟨t, h⟩
    rw [h]

/-- A fault that is caught is handled in the state that it left. -/
theorem upshot_tryCatch (m : ExceptT Fault (StateM σ) α)
    (handle : Fault → ExceptT Fault (StateM σ) α) (s : σ) :
    upshot (tryCatch m handle) s =
      match upshot m s with
      | (.ok a, t) => (.ok a, t)
      | (.error fault, t) => upshot (handle fault) t := by
  unfold upshot ExceptT.run StateT.run
  simp only [tryCatch, tryCatchThe, MonadExceptOf.tryCatch, ExceptT.tryCatch, ExceptT.mk, bind,
    StateT.bind]
  cases m s with
  | mk result t => cases result <;> rfl

end Laws

/-- What holds of a state still holds after a play or a run, and each fault that it may end in is of
some sort. -/
def Keeps (I : σ → Prop) (F : Fault → Prop) (m : ExceptT Fault (StateM σ) α) : Prop :=
  ∀ s, I s → I (upshot m s).2 ∧ ∀ fault, (upshot m s).1 = .error fault → F fault

section Keeps

variable {I : σ → Prop} {F : Fault → Prop} {m : ExceptT Fault (StateM σ) α}
  {f : α → ExceptT Fault (StateM σ) β}

theorem Keeps.mono {G : Fault → Prop} (h : Keeps I F m) (hsort : ∀ fault, F fault → G fault) :
    Keeps I G m :=
  fun s hs => ⟨(h s hs).1, fun fault hfault => hsort fault ((h s hs).2 fault hfault)⟩

theorem keeps_pure (a : α) : Keeps I F (pure a : ExceptT Fault (StateM σ) α) := by
  intro s hs
  exact ⟨hs, by simp⟩

theorem keeps_throw {fault : Fault} (h : F fault) :
    Keeps I F (throw fault : ExceptT Fault (StateM σ) α) := by
  intro s hs
  exact ⟨hs, by simpa using h⟩

theorem keeps_modify {g : σ → σ} (h : ∀ s, I s → I (g s)) :
    Keeps I F (modify g : ExceptT Fault (StateM σ) Unit) := by
  intro s hs
  exact ⟨h s hs, by simp⟩

/-- What comes next has to deal only with the values that may come up. -/
theorem Keeps.bind_of_result {P : α → Prop} (h : Keeps I F m)
    (hresult : ∀ s a t, I s → upshot m s = (.ok a, t) → P a) (hf : ∀ a, P a → Keeps I F (f a)) :
    Keeps I F (m >>= f) := by
  intro s hs
  have hm := h s hs
  rw [upshot_bind]
  cases hupshot : upshot m s with
  | mk result t =>
      rw [hupshot] at hm
      cases result with
      | ok a => exact hf a (hresult s a t hs hupshot) t hm.1
      | error fault => exact ⟨hm.1, by simpa using hm.2⟩

theorem Keeps.bind (h : Keeps I F m) (hf : ∀ a, Keeps I F (f a)) : Keeps I F (m >>= f) :=
  h.bind_of_result (fun _ _ _ _ _ => trivial) fun a _ => hf a

/-- What holds of the state holds of the state that is looked up. -/
theorem keeps_get_bind {f : σ → ExceptT Fault (StateM σ) β} (h : ∀ s, I s → Keeps I F (f s)) :
    Keeps I F (get >>= f) := by
  intro s hs
  rw [upshot_bind_of_ok (upshot_get s)]
  exact h s hs s hs

/-- A handler has to deal with the faults that may come up. -/
theorem Keeps.tryCatch {G : Fault → Prop} {handle : Fault → ExceptT Fault (StateM σ) α}
    (h : Keeps I G m) (hhandle : ∀ fault, G fault → Keeps I F (handle fault)) :
    Keeps I F (tryCatch m handle) := by
  intro s hs
  have hm := h s hs
  rw [upshot_tryCatch]
  cases hupshot : upshot m s with
  | mk result t =>
      rw [hupshot] at hm
      cases result with
      | ok a => exact ⟨hm.1, by simp⟩
      | error fault => exact hhandle fault (hm.2 fault rfl) t hm.1

end Keeps

namespace Play

variable {τ : Type}

@[simp] theorem upshot_ofExcept (result : Except Fault α) (stage : Stage τ) :
    upshot (ofExcept result) stage = (result, stage) := by
  cases result <;> rfl

/-- A file is written or refused. -/
theorem upshot_writeFile (path : Text) (content : List UInt8) (stage : Stage τ) :
    upshot (writeFile path content) stage =
      match stage.disk.write path content with
      | .ok disk => (.ok (), { stage with disk := disk })
      | .error fault => (.error (.disk fault), stage) := by
  rw [writeFile, upshot_bind_of_ok (upshot_get stage)]
  cases stage.disk.write path content <;> rfl

/-- A text file is written or refused. A text that cannot be encoded is refused once the file is
empty. -/
theorem upshot_writeText (path text : Text) (stage : Stage τ) :
    upshot (writeText path text) stage =
      match stage.disk.write path text.octets with
      | .error fault => (.error (.disk fault), stage)
      | .ok disk =>
          match text.encodingFault? with
          | none => (.ok (), { stage with disk := disk })
          | some fault => (.error (.encoding fault), { stage with disk := disk }) := by
  rw [writeText, Text.octets, Text.encodingFault?]
  cases text.encode .strict with
  | ok octets =>
      dsimp only [Except.toOption, Option.getD]
      rw [upshot_writeFile]
      cases stage.disk.write path octets <;> rfl
  | error fault =>
      dsimp only [Except.toOption, Option.getD]
      rw [upshot_bind, upshot_writeFile]
      cases stage.disk.write path [] <;> rfl

end Play

namespace Running

variable {τ : Type}

/-- A play on the stage of a run changes nothing but the stage. -/
theorem upshot_onStage (play : Play τ α) (state : RunState τ) :
    upshot (onStage play) state =
      ((upshot play state.stage).1, { state with stage := (upshot play state.stage).2 }) := rfl

theorem upshot_ofExcept (result : Except Fault α) (state : RunState τ) :
    upshot (onStage (Play.ofExcept result)) state = (result, state) := by
  rw [upshot_onStage, Play.upshot_ofExcept]

/-- An attempt never fails: it hands out how it ended. -/
theorem upshot_attempt (run : Running τ α) (state : RunState τ) :
    upshot (attempt run) state = (.ok (upshot run state).1, (upshot run state).2) := rfl

/-- What is done at the end is done in any case, and its fault comes first. -/
theorem upshot_endingWith (first : Running τ α) (last : Running τ Unit) (state : RunState τ) :
    upshot (endingWith first last) state =
      match upshot last (upshot first state).2 with
      | (.ok (), after) => ((upshot first state).1, after)
      | (.error fault, after) => (.error fault, after) := by
  unfold upshot endingWith ExceptT.run StateT.run
  simp only [ExceptT.mk, bind, StateT.bind]
  cases first state with
  | mk result middle =>
      simp only
      cases last middle with
      | mk ended after => cases ended <;> rfl

/-- All is well at the end just if both parts end well. -/
theorem upshot_endingWith_eq_ok {first : Running τ α} {last : Running τ Unit} {a : α}
    {before after : RunState τ} :
    upshot (endingWith first last) before = (.ok a, after) ↔
      ∃ middle, upshot first before = (.ok a, middle) ∧ upshot last middle = (.ok (), after) := by
  rw [upshot_endingWith]
  constructor
  · intro h
    cases hlast : upshot last (upshot first before).2 with
    | mk ended reached =>
        rw [hlast] at h
        cases ended with
        | error fault => cases (Prod.mk.inj h).1
        | ok =>
            obtain ⟨hfirst, rfl⟩ := Prod.mk.inj h
            exact ⟨_, by rw [← hfirst], hlast⟩
  · rintro ⟨middle, hfirst, hlast⟩
    rw [hfirst, hlast]

/-- What a play keeps of the stage, a run keeps whatever it has to do with the rest of the state. -/
theorem keeps_onStage {I : RunState τ → Prop} {F : Fault → Prop} {play : Play τ α}
    (h : ∀ suite reported, Keeps (fun stage => I ⟨stage, suite, reported⟩) F play) :
    Keeps I F (onStage play) := by
  intro state hstate
  rw [upshot_onStage]
  exact h state.suite state.reported state.stage hstate

/-- A run goes on with what a computation without effects comes to. -/
theorem keeps_ofExcept_bind {I : RunState τ → Prop} {F : Fault → Prop} {result : Except Fault α}
    {f : α → Running τ β} (hfault : ∀ fault, result = .error fault → F fault)
    (hf : ∀ a, result = .ok a → Keeps I F (f a)) :
    Keeps I F (onStage (Play.ofExcept result) >>= f) := by
  intro state hstate
  cases result with
  | ok a =>
      rw [upshot_bind_of_ok (upshot_ofExcept ..)]
      exact hf a rfl state hstate
  | error fault =>
      rw [upshot_bind_of_error (upshot_ofExcept ..)]
      exact ⟨hstate, by simpa using hfault⟩

/-- An attempt hands out a fault of the sort that may come up. -/
theorem keeps_attempt_bind {I : RunState τ → Prop} {F G : Fault → Prop} {run : Running τ α}
    {f : Except Fault α → Running τ β} (h : Keeps I G run)
    (hf : ∀ result, (∀ fault, result = .error fault → G fault) → Keeps I F (f result)) :
    Keeps I F (attempt run >>= f) := by
  intro state hstate
  have hrun := h state hstate
  rw [upshot_bind_of_ok (upshot_attempt ..)]
  exact hf _ hrun.2 _ hrun.1

theorem endingWith_state (first : Running τ α) (last : Running τ Unit) (state : RunState τ) :
    (upshot (endingWith first last) state).2 = (upshot last (upshot first state).2).2 := by
  rw [upshot_endingWith]
  cases upshot last (upshot first state).2 with
  | mk ended after => cases ended <;> rfl

theorem keeps_endingWith {I : RunState τ → Prop} {F : Fault → Prop} {first : Running τ α}
    {last : Running τ Unit} (h : Keeps I F first) (hlast : Keeps I F last) :
    Keeps I F (endingWith first last) := by
  intro state hstate
  have hfirst := h state hstate
  have hends := hlast _ hfirst.1
  rw [upshot_endingWith]
  cases hupshot : upshot last (upshot first state).2 with
  | mk result after =>
      rw [hupshot] at hends
      cases result with
      | ok => exact ⟨hends.1, hfirst.2⟩
      | error fault => exact ⟨hends.1, by simpa using hends.2⟩

@[simp] theorem upshot_addOutcome [TimeScale τ] (outcome : Outcome τ) (state : RunState τ) :
    upshot (addOutcome outcome) state =
      (.ok (), { state with suite := state.suite.add outcome }) := rfl

end Running

end Playbook
