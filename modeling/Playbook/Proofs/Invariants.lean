import Playbook.Proofs.Plays

/-! # What holds throughout a run

Playing an action calls the open page, prints, lets time pass and writes files. A run plays the actions
of the steps that it reads and adds their outcomes to the suite. What each of these keeps holds
throughout, however the playbook, the page and the disk look, and all faults of the run are of a sort
that holds the faults of its parts. -/

namespace Playbook

variable {τ : Type}

/-- Decide whether a call opens or closes the browser or a part of it; all others use the page. -/
def Call.isHousekeeping : Call τ → Bool
  | start | launch .. | newContext .. | newPage | listen | close | stop => true
  | dismiss | goto .. | click .. | press .. | submit .. | setValue .. | waitVisible ..
  | waitAttached .. | scroll .. | textContent .. | screenshot _ => false

/-- What also stays when the page is used, and the fault of a page that is not open. -/
structure Engaged (I : Stage τ → Prop) (F : Fault → Prop) : Prop extends Undisturbed I F where
  request : ∀ stage request, request.isHousekeeping = false → I stage →
    I (stage.noting (.call request))
  closed : ∀ stage, I stage → stage.browser.opened = false → F .notStarted

/-- The name under which a deed saves a picture, if it takes one. -/
def Deed.picture? : Deed → Option Text
  | screenshot name => some (pictureName name)
  | debug => some debugPicture
  | _ => none

/-- What also stays when pictures of the page are saved under certain names, and the faults that actions
end in themselves. -/
structure Saving [TimeScale τ] (allowed : Text → Prop) (I : Stage τ → Prop) (F : Fault → Prop) :
    Prop extends Engaged I F where
  saved : ∀ limit name timeout, allowed name → Keeps I F (Play.savePicture limit name timeout)
  mismatch : ∀ selector text value, F (.mismatch selector text value)
  encoding : ∀ fault, F (.encoding fault)
  duration : ∀ fault, F (.duration fault)

/-- What also stays when pictures of the page are saved, whatever their names. -/
abbrev Lasting [TimeScale τ] (I : Stage τ → Prop) (F : Fault → Prop) : Prop :=
  Saving (fun _ => True) I F

/-- What stays when actions are played, whatever is on the disk. -/
structure Steady (I : Stage τ → Prop) (F : Fault → Prop) : Prop extends Engaged I F, Unaffected I F
    where
  mismatch : ∀ selector text value, F (.mismatch selector text value)
  encoding : ∀ fault, F (.encoding fault)
  duration : ∀ fault, F (.duration fault)

namespace Engaged

variable [TimeScale τ] {I : Stage τ → Prop} {F : Fault → Prop}

theorem onPage (h : Engaged I F) (limit : Option τ) {request : Call τ}
    (hrequest : request.isHousekeeping = false) : Keeps I F (Play.onPage limit request) := by
  refine keeps_get_bind fun stage hstage => ?_
  split
  · exact h.call limit request fun stage => h.request stage request hrequest
  · rename_i hclosed
    exact keeps_throw (h.closed stage hstage (by simpa using hclosed))

theorem textOf (h : Engaged I F) (limit : Option τ) (selector : Text) (timeout : τ) :
    Keeps I F (Play.textOf limit selector timeout) :=
  (h.onPage limit rfl).bind fun _ => keeps_get_bind fun _ _ => keeps_pure _

theorem picture (h : Engaged I F) (limit : Option τ) (timeout : τ) :
    Keeps I F (Play.picture limit timeout) :=
  (h.onPage limit rfl).bind fun _ => keeps_pure _

end Engaged

theorem Action.duration_of_bound [TimeScale τ] {action : Action} {fault : Fault}
    (h : (action.bound : Except Fault τ) = .error fault) : ∃ cause, fault = .duration cause := by
  rw [bound] at h
  split at h
  · cases h
  · rename_i cause _
    exact ⟨cause, (Except.error.inj h).symm⟩

namespace Steady

variable {I : Stage τ → Prop} {F : Fault → Prop}

/-- What does not depend on the stage holds throughout besides. -/
theorem given (p : Prop) (h : Steady I F) : Steady (fun stage => p ∧ I stage) F where
  event stage event hevent := And.imp_right (h.event stage event hevent)
  clock stage clock := And.imp_right (h.clock stage clock)
  cancelled stage := And.imp_right (h.cancelled stage)
  rules stage other request rule rules hstage := fun hother hpick =>
    ⟨hother.1, h.rules stage other request rule rules hstage.2 hother.2 hpick⟩
  told stage request rule rules hstage := h.told stage request rule rules hstage.2
  timedOut := h.timedOut
  request stage request hrequest := And.imp_right (h.request stage request hrequest)
  closed stage hstage := h.closed stage hstage.2
  disk stage disk := And.imp_right (h.disk stage disk)
  refused := h.refused
  mismatch := h.mismatch
  encoding := h.encoding
  duration := h.duration

variable [TimeScale τ]

theorem lasting (h : Steady I F) : Lasting I F where
  toEngaged := h.toEngaged
  saved limit _ timeout _ := (h.picture limit timeout).bind fun _ => h.writeFile _ _
  mismatch := h.mismatch
  encoding := h.encoding
  duration := h.duration

end Steady

namespace Saving

variable [TimeScale τ] {allowed : Text → Prop} {I : Stage τ → Prop} {F : Fault → Prop}

/-- What depends on the disk alone stays if it stays when pictures are written. -/
theorem of_disk {I : Disk → Prop} (hwrite : ∀ disk name picture written, allowed name → I disk →
      disk.write (Path.ofText name).text picture = .ok written → I written) :
    Saving allowed (fun stage : Stage τ => I stage.disk) fun _ => True := by
  have hdisk : Undisturbed (fun stage : Stage τ => I stage.disk) fun _ => True :=
    .of_disk fun _ _ hsame h => hsame ▸ h
  have hengaged : Engaged (fun stage : Stage τ => I stage.disk) fun _ => True :=
    { hdisk with request := fun _ _ _ h => h, closed := fun _ _ _ => trivial }
  refine { hengaged with
    saved := fun limit name timeout hname =>
      (hengaged.picture limit timeout).bind fun picture stage hstage => ?_
    mismatch := fun _ _ _ => trivial
    encoding := fun _ => trivial
    duration := fun _ => trivial }
  rw [Play.upshot_writeFile]
  cases hwritten : stage.disk.write (Path.ofText name).text picture with
  | ok written => exact ⟨hwrite _ _ _ _ hname hstage hwritten, fun _ _ => trivial⟩
  | error fault => exact ⟨hstage, fun _ _ => trivial⟩

theorem printOut (h : Saving allowed I F) (line : Text) : Keeps I F (Play.printOut line) := by
  refine keeps_get_bind fun stage _ => ?_
  split
  · exact h.note rfl
  · exact keeps_throw (h.encoding _)

/-- Each deed makes its calls on the page; all that it throws itself is a mismatch. -/
theorem act (h : Saving allowed I F) {deed : Deed} (hdeed : ∀ name ∈ deed.picture?, allowed name)
    (limit timeout : τ) : Keeps I F (deed.act limit timeout) := by
  cases deed with
  | idle | noop | sleep => exact keeps_pure ()
  | load | click | type | submit | value | scroll =>
      exact (h.onPage _ rfl).bind fun _ => keeps_pure _
  | wait => exact (h.onPage _ rfl).bind fun _ => (h.onPage _ rfl).bind fun _ => keeps_pure _
  | compare selector v =>
      refine (h.textOf _ selector timeout).bind fun text => ?_
      split
      · exact keeps_throw (h.mismatch _ _ _)
      · exact keeps_pure ()
  | record selector => exact (h.textOf _ selector timeout).bind fun text => h.printOut text
  | screenshot | debug => exact h.saved _ _ _ (hdeed _ rfl)

theorem bound (h : Saving allowed I F) (action : Action) :
    Keeps I F (Play.ofExcept action.bound : Play τ τ) := by
  cases hbound : (action.bound : Except Fault τ) with
  | ok => exact keeps_pure _
  | error =>
      obtain ⟨cause, rfl⟩ := Action.duration_of_bound hbound
      exact keeps_throw (h.duration cause)

variable {action : Action}

theorem playBounded (h : Saving allowed I F)
    (haction : ∀ name ∈ action.deed.picture?, allowed name) :
    Keeps I F (action.playBounded : Play τ Unit) := by
  refine (h.bound action).bind fun seconds => ?_
  rw [Play.within]
  split
  · exact keeps_get_bind fun stage _ => h.act haction _ _
  · exact keeps_throw h.timedOut

theorem play (h : Saving allowed I F) (haction : ∀ name ∈ action.deed.picture?, allowed name) :
    Keeps I F (action.play : Play τ Unit) := by
  rw [Action.play]
  split
  · exact keeps_pure ()
  · refine (h.playBounded haction).tryCatch fun fault hfault => ?_
    split
    · exact h.printErr _
    · exact keeps_throw hfault
  · split
    · exact (h.bound action).bind fun _ => h.pass none _
    · exact h.playBounded haction

end Saving

theorem Lasting.play [TimeScale τ] {I : Stage τ → Prop} {F : Fault → Prop} (h : Lasting I F)
    (action : Action) : Keeps I F (action.play : Play τ Unit) :=
  Saving.play h fun _ _ => trivial

namespace Production

open Running (onStage attempt)

/-- A step that a production may come to read. -/
def Reads (production : Production) (step : Step) : Prop :=
  ∃ text, Step.parse production.vocabulary production.dialect text = .ok (some step)

/-- The outcomes that a step may leave: its bound is a duration, and a failure has a cause of the sort
that may come up. -/
inductive Leaves [TimeScale τ] (C : Fault → Prop) (step : Step) : Outcome τ → Prop
  | success {seconds : τ} (time : τ) (hbound : step.action.bound = .ok seconds) :
      Leaves C step (success step time)
  | failure {cause} {seconds : τ} (time : τ) (hbound : step.action.bound = .ok seconds)
      (hcause : C cause) : Leaves C step (failure step time cause)

/-- The picture after a failure is saved under the name that is given for it. -/
theorem picture?_diagnosticAction {production : Production} (h : production.diagnostic ≠ "") :
    production.diagnosticAction.deed.picture? = some production.diagnostic := by
  rw [diagnosticAction, Deed.picture?, Deed.pictureName, if_neg h]

section Perform

variable [TimeScale τ] (production : Production) {allowed : Text → Prop} {J : RunState τ → Prop}
  {C F : Fault → Prop}
  (hsaving : ∀ suite reported, Saving allowed (fun stage => J ⟨stage, suite, reported⟩) C)

/-- The names under which pictures may be saved when a step is performed: that of the step, and that of
the picture after a failure. -/
def pictures (step : Step) : List Text :=
  step.action.deed.picture?.toList ++
    if production.diagnostic = "" then [] else [production.diagnostic]

include hsaving

theorem keeps_printErr (line : Text) : Keeps J C (onStage (Play.printErr line)) :=
  Running.keeps_onStage fun suite reported => (hsaving suite reported).printErr line

theorem keeps_play {action : Action} (haction : ∀ name ∈ action.deed.picture?, allowed name) :
    Keeps J C (onStage action.play) :=
  Running.keeps_onStage fun suite reported => (hsaving suite reported).play haction

theorem keeps_capture (hdiagnostic : production.diagnostic ≠ "" → allowed production.diagnostic) :
    Keeps J C production.capture := by
  rw [capture]
  split
  · exact keeps_pure ()
  · rename_i hgiven
    have hpicture : ∀ name ∈ production.diagnosticAction.deed.picture?, allowed name := by
      rw [picture?_diagnosticAction hgiven]
      rintro _ ⟨⟩
      exact hdiagnostic hgiven
    refine Running.keeps_attempt_bind (keeps_play hsaving hpicture) fun result hresult => ?_
    split
    · exact keeps_printErr hsaving _
    · split
      · exact keeps_printErr hsaving _
      · exact keeps_throw (hresult _ rfl)

/-- What plays keep is kept when a step is performed, if the outcomes of that step keep it too and its
pictures have names that do no harm. A step ends in a fault of its play, or in one that names the
step. -/
theorem keeps_perform {step : Step} (hpictures : ∀ name ∈ production.pictures step, allowed name)
    (hcause : ∀ fault, C fault → F fault) (hfailed : ∀ reason cause, F (.failed step reason cause))
    (houtcome : ∀ state outcome, Leaves C step outcome → J state →
      J { state with suite := state.suite.add outcome }) :
    Keeps J F (production.perform step) := by
  have haction : ∀ name ∈ step.action.deed.picture?, allowed name := fun name hname =>
    hpictures name (List.mem_append_left _ (Option.mem_toList.mpr hname))
  have hdiagnostic (hgiven : production.diagnostic ≠ "") : allowed production.diagnostic :=
    hpictures _ (List.mem_append_right _ (by simp [hgiven]))
  have hadd {outcome : Outcome τ} (hleaves : Leaves C step outcome) :
      Keeps J F (Running.addOutcome outcome) :=
    keeps_modify fun state => houtcome state outcome hleaves
  have hbounded {fault : Fault} (h : (step.action.bound : Except Fault τ) = .error fault) : F fault := by
    obtain ⟨cause, rfl⟩ := Action.duration_of_bound h
    exact hcause _ ((hsaving (.new "") false).duration cause)
  refine Running.keeps_ofExcept_bind (fun _ => hbounded) fun seconds hbound =>
    keeps_get_bind fun before _ => ?_
  refine Running.keeps_attempt_bind (keeps_play hsaving haction) fun result hresult => ?_
  refine keeps_get_bind fun after _ => ?_
  dsimp only
  split
  · refine (hadd (.success _ hbound)).bind fun _ => ?_
    exact ((keeps_printErr hsaving _).mono hcause).bind fun _ => keeps_pure _
  · have hplayed := hresult _ rfl
    split
    · refine (hadd (.failure _ hbound hplayed)).bind fun _ => ?_
      refine ((keeps_printErr hsaving _).mono hcause).bind fun _ => ?_
      exact ((keeps_capture production hsaving hdiagnostic).mono hcause).bind fun _ => keeps_throw (hfailed _ _)
    · exact keeps_throw (hcause _ hplayed)

end Perform

/-- What the outcomes of the steps of a production keep, the faults that these steps may end in, and the
faults that the production may end in itself. -/
structure Admits [TimeScale τ] (production : Production) (J : RunState τ → Prop)
    (C F : Fault → Prop) : Prop where
  cause : ∀ fault, C fault → F fault
  playbook : ∀ fault, fault.family = .playbook → F fault
  malformed : ∀ fault, F (.malformed fault)
  outcome : ∀ state step outcome, production.Reads step → Leaves C step outcome → J state →
    J { state with suite := state.suite.add outcome }

/-- What holds while the steps of a production are performed. -/
structure Sustained [TimeScale τ] (production : Production) (J : RunState τ → Prop)
    (C F : Fault → Prop) : Prop extends Admits production J C F where
  lasting : ∀ suite reported, Lasting (fun stage => J ⟨stage, suite, reported⟩) C

/-- What holds throughout the runs of a production. -/
structure Invariant [TimeScale τ] (production : Production) (J : RunState τ → Prop)
    (C F : Fault → Prop) : Prop extends Admits production J C F where
  steady : ∀ suite reported, Steady (fun stage => J ⟨stage, suite, reported⟩) C
  reported : ∀ state, J state → J { state with reported := true }
  noPath : F .noPath

namespace Sustained

variable [TimeScale τ] {production : Production} {J : RunState τ → Prop} {C F : Fault → Prop}

theorem perform (h : production.Sustained J C F) {step : Step} (hstep : production.Reads step) :
    Keeps J F (production.perform step) :=
  keeps_perform production h.lasting (fun _ _ => trivial) h.cause (fun _ _ => h.playbook _ rfl)
    fun state outcome => h.outcome state step outcome hstep

theorem takeLine (h : production.Sustained J C F) (buffer line : Text) :
    Keeps J F (production.takeLine buffer line) := by
  rw [Production.takeLine]
  split
  · rename_i fault _
    cases fault with
    | malformed fault => exact keeps_throw (h.malformed fault)
    | unbuildable fault => exact keeps_throw (h.playbook _ rfl)
  · exact keeps_pure _
  · rename_i step hstep
    refine Keeps.bind ?_ fun _ => keeps_pure _
    refine keeps_get_bind fun state _ => ?_
    split
    · exact keeps_throw (h.playbook _ rfl)
    · exact (h.perform ⟨_, hstep⟩).bind fun _ => keeps_pure _

theorem takeRead (h : production.Sustained J C F) (buffer : Text) (reader : Reader) (rounds : Nat) :
    Keeps J F (production.takeRead buffer reader rounds) := by
  induction rounds generalizing buffer reader with
  | zero => exact keeps_pure buffer
  | succ rounds ih =>
      refine keeps_get_bind fun state _ => ?_
      split
      · exact (h.takeLine buffer _).bind fun left => ih left _
      · exact ih buffer _
      · exact keeps_pure buffer
      · exact keeps_throw (h.playbook _ rfl)

/-- What holds while steps are performed holds when the playbook of a reader has been played. -/
theorem follow (h : production.Sustained J C F) (reader : Reader) :
    Keeps J F (production.follow (.read reader)) := by
  have hsource : Keeps J F (production.takeSource (.read reader)) :=
    keeps_get_bind fun state _ => h.takeRead "" reader _
  refine hsource.bind fun buffer => ?_
  split
  · exact keeps_pure ()
  · exact keeps_throw (h.playbook _ rfl)

end Sustained

namespace Invariant

variable [TimeScale τ] {production : Production} {J : RunState τ → Prop} {C F : Fault → Prop}

theorem sustained (h : production.Invariant J C F) : production.Sustained J C F where
  toAdmits := h.toAdmits
  lasting suite reported := (h.steady suite reported).lasting

theorem report (h : production.Invariant J C F) : Keeps J F production.report := by
  refine keeps_get_bind fun state _ => ?_
  split
  · exact keeps_pure ()
  · refine Keeps.bind (keeps_modify h.reported) fun _ => ?_
    split
    · exact keeps_pure ()
    · exact keeps_throw h.noPath
    · refine (Running.keeps_onStage fun suite reported => ?_).mono h.cause
      have hsteady := h.steady suite reported
      refine Keeps.bind ?_ fun _ => hsteady.printErr _
      exact (hsteady.writeText hsteady.encoding _ _).bind fun _ => keeps_pure _

/-- What holds throughout holds when the playbook of a reader has been played and the report was
tried. -/
theorem run (h : production.Invariant J C F) (reader : Reader) :
    Keeps J F (production.run (.read reader)) :=
  Running.keeps_endingWith (h.sustained.follow reader) h.report

end Invariant

end Production

end Playbook
