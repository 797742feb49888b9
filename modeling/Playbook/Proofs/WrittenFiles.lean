import Playbook.Proofs.Pictures
import Playbook.Proofs.StandardOutput
import Playbook.Proofs.StepEndings

/-! # The files that a run writes

A run writes files one after the other, and each of them stands where its path leads on the disk before
the run, because nothing that is written makes or removes a directory. What is found at a place when the
run has ended is the last file that was written there, or else what stood there before. There are four
writers: a screenshot and a debug action, each when its step succeeds, the picture after a failure, and
the report, which comes last. The report empties its file before its document is encoded.

## Implementation notes

A list of writings is kept beside the run, one list for each record that is read. -/

namespace Playbook

/-- A file that is written: the path and the octets. -/
structure Writing where
  path : Text
  content : List UInt8
deriving Repr, DecidableEq

namespace Disk

/-- Files are written to a disk in order, and none is refused. -/
inductive Written : Disk → List Writing → Disk → Prop
  | nil {disk} : Written disk [] disk
  | cons {before middle after writing writings}
      (hwrite : before.write writing.path writing.content = .ok middle)
      (hrest : Written middle writings after) : Written before (writing :: writings) after

variable {disk before middle after : Disk} {writings more : List Writing}

theorem Written.single {writing : Writing}
    (h : before.write writing.path writing.content = .ok after) : before.Written [writing] after :=
  .cons h .nil

theorem Written.append (h : before.Written writings middle) (hmore : middle.Written more after) :
    before.Written (writings ++ more) after := by
  induction h with
  | nil => exact hmore
  | cons hwrite _ ih => exact .cons hwrite (ih hmore)

end Disk

variable {τ : Type} [TimeScale τ]

/-- The file of a picture that is taken on a stage and saved under a name. -/
def Stage.pictureFile (stage : Stage τ) (name : Text) : Writing :=
  ⟨(Path.ofText name).text, stage.pictureOctets⟩

namespace Action

variable {action : Action} {before : Stage τ}

/-- The files that an action writes which is played on a stage: its picture, if it succeeds in saving one.
A debug action that cannot save its picture ends well all the same. -/
inductive Files (action : Action) (before : Stage τ) :
    Except Fault Unit → Stage τ → List Writing → Prop
  | saved {after name} (hname : action.deed.picture? = some name)
      (hwrite : before.disk.write (before.pictureFile name).path (before.pictureFile name).content =
        .ok after.disk) : Files action before (.ok ()) after [before.pictureFile name]
  | unsaved {after} (hdeed : action.deed.picture? = none ∨ action.deed = .debug)
      (hdisk : after.disk = before.disk) : Files action before (.ok ()) after []
  | failed {fault after} (hdisk : after.disk = before.disk) : Files action before (.error fault) after []

theorem Files.written {after : Stage τ} {result : Except Fault Unit} {writings : List Writing}
    (h : action.Files before result after writings) : before.disk.Written writings after.disk := by
  cases h with
  | saved _ hwrite => exact .single hwrite
  | unsaved _ hdisk | failed hdisk =>
      rw [hdisk]
      exact .nil

/-- An action that takes no picture leaves the disk alone. -/
theorem disk_of_no_picture (h : action.deed.picture? = none) (before : Stage τ) :
    (upshot action.play before).2.disk = before.disk := by
  have hsaving : Saving (fun _ => False) (fun after : Stage τ => after.disk = before.disk)
      fun _ => True :=
    .of_disk (I := fun disk => disk = before.disk) fun _ _ _ _ hname => hname.elim
  exact (hsaving.play (by simp [h]) before rfl).1

theorem exists_files {seconds : τ} (hbound : action.bound = .ok seconds) (before : Stage τ) :
    ∃ writings, action.Files before (upshot action.play before).1 (upshot action.play before).2
      writings := by
  cases hname : action.deed.picture? with
  | none =>
      have hdisk := disk_of_no_picture hname before
      cases hplay : upshot action.play before with
      | mk result after =>
          rw [hplay] at hdisk
          cases result with
          | ok => exact ⟨[], .unsaved (.inl hname) hdisk⟩
          | error fault => exact ⟨[], .failed hdisk⟩
  | some name =>
      have hpictures := pictures_playBounded hname hbound before
      have hshoots : action.deed.takesWholeBound = false ∧ action.deed ≠ .noop := by
        cases hdeed : action.deed <;> simp_all [Deed.picture?, Deed.takesWholeBound]
      rw [upshot_play_of_planned hshoots.1 hshoots.2]
      cases hbounded : upshot action.playBounded before with
      | mk result ended =>
          rw [hbounded] at hpictures
          cases result with
          | ok => exact ⟨_, .saved hname hpictures.write⟩
          | error fault =>
              dsimp only
              split
              · rename_i hdebug
                exact ⟨[], .unsaved (.inr hdebug.1) hpictures.disk⟩
              · exact ⟨[], .failed hpictures.disk⟩

end Action

namespace Production

variable {production : Production} {step : Step} {before : RunState τ}

/-- The files that are written when a step is performed, by the outcome that it leaves. A success has
written the picture of its action, if that is not a debug action that could not save it. A failure has
written nothing itself; behind it the picture of the failure may have been written. -/
inductive StepFiles (production : Production) (step : Step) (before : RunState τ) :
    Option (Outcome τ) → List Writing → Prop
  | saved {outcome name} (hsuccess : outcome.success = true)
      (hname : step.action.deed.picture? = some name) :
      StepFiles production step before (some outcome) [before.stage.pictureFile name]
  | unsaved {outcome} (hsuccess : outcome.success = true)
      (hdeed : step.action.deed.picture? = none ∨ step.action.deed = .debug) :
      StepFiles production step before (some outcome) []
  | failed {outcome} (hfailure : outcome.success = false) :
      StepFiles production step before (some outcome) []
  | pictured {outcome cause} (hfailure : outcome.success = false)
      (hplay : (upshot step.action.play before.stage).1 = .error cause)
      (hgiven : production.diagnostic ≠ "") :
      StepFiles production step before (some outcome)
        [(failureTold step before cause).pictureFile production.diagnostic]
  | neither : StepFiles production step before none []

/-- The picture after a failure is written, or the disk stays as it is. -/
theorem exists_files_capture (production : Production) (state : RunState τ) :
    ∃ writings, state.stage.disk.Written writings (upshot production.capture state).2.stage.disk ∧
      (writings = [] ∨
        production.diagnostic ≠ "" ∧ writings = [state.stage.pictureFile production.diagnostic]) := by
  rw [capture]
  split
  case isTrue => exact ⟨[], .nil, .inl rfl⟩
  case isFalse hgiven =>
    obtain ⟨writings, hfiles⟩ :=
      Action.exists_files (bound_diagnosticAction production) state.stage
    rw [upshot_bind_of_ok (Running.upshot_attempt ..), Running.upshot_onStage]
    cases hplay : upshot production.diagnosticAction.play state.stage with
    | mk result ended =>
        rw [hplay] at hfiles
        have hwritten := hfiles.written
        cases hfiles with
        | saved hname =>
            obtain rfl := Option.some.inj ((picture?_diagnosticAction hgiven).symm.trans hname)
            exact ⟨_, hwritten, .inr ⟨hgiven, rfl⟩⟩
        | unsaved => exact ⟨[], hwritten, .inl rfl⟩
        | failed =>
            dsimp only
            split
            · exact ⟨[], hwritten, .inl rfl⟩
            · exact ⟨[], hwritten, .inl rfl⟩

theorem exists_files_perform (production : Production) (step : Step) (before : RunState τ) :
    ∃ outcome writings, production.StepFiles step before outcome writings ∧
      (upshot (production.perform step) before).2.suite.cases = before.suite.cases ++ outcome.toList ∧
      before.stage.disk.Written writings (upshot (production.perform step) before).2.stage.disk := by
  rw [upshot_perform]
  cases hbound : (step.action.bound : Except Fault τ) with
  | error fault => exact ⟨none, [], .neither, by simp, .nil⟩
  | ok seconds =>
      obtain ⟨writings, hfiles⟩ := Action.exists_files hbound before.stage
      cases hplay : upshot step.action.play before.stage with
      | mk result ended =>
          rw [hplay] at hfiles
          have hwritten := hfiles.written
          dsimp only
          cases hfiles with
          | saved hname => exact ⟨some _, _, .saved rfl hname, rfl, hwritten⟩
          | unsaved hdeed => exact ⟨some _, _, .unsaved rfl hdeed, rfl, hwritten⟩
          | @failed cause =>
              dsimp only
              split
              case isFalse => exact ⟨none, [], .neither, by simp, hwritten⟩
              case isTrue =>
                let told := faulted step (ended.clock - before.stage.clock) cause
                  { before with stage := ended }
                have htold : told.stage = failureTold step before cause := by
                  rw [failureTold, hplay]
                  rfl
                obtain ⟨more, hmore, hcapture⟩ := production.exists_files_capture told
                obtain ⟨_, stage, hcaptured, -, -⟩ := production.capture_cases told
                have hsuite := congrArg (·.2.suite.cases) hcaptured
                rw [upshot_fail, upshot_bind_throw_state]
                refine ⟨some (failure step (ended.clock - before.stage.clock) cause), more, ?_, hsuite,
                  hwritten.append hmore⟩
                rcases hcapture with rfl | ⟨hgiven, rfl⟩
                · exact .failed rfl
                · rw [htold]
                  exact .pictured rfl (by rw [hplay]) hgiven

end Production

/-- The files that playing the record of a reading writes. -/
inductive Reading.Files (production : Production) (reading : Reading τ) : List Writing → Prop
  /-- The record is not performed. -/
  | refused (houtcome : reading.outcome? production = none) : Files production reading []
  | performed {step writings} (hstep : Step.ofRecord production.vocabulary reading.record = .ok step)
      (h : production.StepFiles step reading.state (reading.outcome? production) writings) :
      Files production reading writings

theorem Reading.exists_files (production : Production) (reading : Reading τ) :
    ∃ writings, reading.Files production writings ∧ reading.state.stage.disk.Written writings
      (upshot (production.playRecord reading.record) reading.state).2.stage.disk := by
  rcases production.playRecord_cases reading.record reading.state with
    ⟨fault, hrefused⟩ | ⟨step, hstep, hplay⟩
  · rw [hrefused]
    exact ⟨[], .refused (left_of_refused hrefused).1, .nil⟩
  · have hperform : (upshot (production.playRecord reading.record) reading.state).2 =
        (upshot (production.perform step) reading.state).2 := by
      rw [hplay, upshot_bind_pure_state]
    obtain ⟨outcome, writings, hfiles, hcases, hwritten⟩ :=
      production.exists_files_perform step reading.state
    have houtcome : reading.outcome? production = outcome := by
      rw [outcome?, hperform, hcases]
      cases outcome <;> simp
    rw [hperform]
    exact ⟨writings, .performed hstep (houtcome ▸ hfiles), hwritten⟩

/-- A run over a source writes the files of its readings, in order. -/
theorem Production.Chronicle.exists_files {production : Production} {remains : Remains}
    {state after : RunState τ} {readings : List (Reading τ)} {result : Except Fault Unit}
    (h : production.Chronicle remains state readings result after) :
    ∃ writings, List.Forall₂ (Reading.Files production) readings writings ∧
      state.stage.disk.Written writings.flatten after.stage.disk := by
  induction h with
  | ends => exact ⟨[], .nil, .nil⟩
  | @stops _ _ record state _ _ _ hplay =>
      obtain ⟨first, hfiles, hwritten⟩ := Reading.exists_files production ⟨record, state⟩
      rw [hplay] at hwritten
      exact ⟨[first], .cons hfiles .nil, by simpa using hwritten⟩
  | @goesOn _ _ record state _ _ _ _ _ hplay _ ih =>
      obtain ⟨first, hfiles, hwritten⟩ := Reading.exists_files production ⟨record, state⟩
      rw [hplay] at hwritten
      obtain ⟨rest, hrest, hmore⟩ := ih
      exact ⟨first :: rest, .cons hfiles hrest, hwritten.append hmore⟩

namespace Program

variable {settings : Settings} {input : StandardInput} {state : RunState τ}

end Program

end Playbook
