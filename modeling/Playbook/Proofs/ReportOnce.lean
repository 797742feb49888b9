import Mathlib.Data.List.Infix
import Playbook.Proofs.Chronicle
import Playbook.Proofs.Course
import Playbook.Proofs.DiskFiles
import Playbook.Proofs.Invariants

/-! # The report is attempted once

Whatever is asked of a production, and whatever files are deleted meanwhile, the report is attempted at
the end of the first run or when it is first asked for, with the outcomes recorded up to then. In every
other turn the production does what it would do without a path for the report. From the attempt on the
file of the report is neither made nor changed, unless a picture of a step is saved over it.

## Implementation notes

A production without a path for the report attempts none, so it says what a turn does besides. That it
follows a playbook in the same way is seen from the chronicle. Pictures never make or remove a directory,
so that a path leads to the same place throughout a turn. -/

namespace Playbook

variable {τ : Type}

namespace Disk

variable {disk before after : Disk} {path other : Text} {content : List UInt8}

/-- The content of the file that a path leads to, if there is one. -/
def read? (disk : Disk) (path : Text) : Option (List UInt8) :=
  match disk.locate path with
  | .ok location => disk.content? location
  | .error _ => none

/-- Two paths lead to the same place. -/
def SamePlace (disk : Disk) (path other : Text) : Prop :=
  ∃ location, disk.locate path = .ok location ∧ disk.locate other = .ok location

/-- A file is found under a path just if the path leads to it. -/
theorem read?_eq_some : disk.read? path = some content ↔
    ∃ location, disk.locate path = .ok location ∧ disk.content? location = some content := by
  rw [read?]
  cases disk.locate path <;> simp

/-- Between two disks no directory was made or removed, and the file that a path leads to was spared. -/
structure Spares (path : Text) (before after : Disk) : Prop where
  directories : ∀ place, after.entry? place = some .directory ↔ before.entry? place = some .directory
  file : ∀ location, before.locate path = .ok location → after.entry? location = before.entry? location

theorem Spares.refl (path : Text) (disk : Disk) : Spares path disk disk :=
  ⟨fun _ => .rfl, fun _ _ => rfl⟩

/-- All paths still lead to the same places. -/
theorem Spares.locate_iff {location : Location} (h : Spares path before after) (other : Text) :
    after.locate other = .ok location ↔ before.locate other = .ok location :=
  ⟨fun hother => locate_of_directories hother fun place => (h.directories place).mp,
    fun hother => locate_of_directories hother fun place => (h.directories place).mpr⟩

/-- A file that is written somewhere else spares it. -/
theorem Spares.write {written : Disk} (h : Spares path before after)
    (hother : ¬ before.SamePlace path other) (hwrite : after.write other content = .ok written) :
    Spares path before written := by
  have hdirectories := directory_iff_of_write hwrite
  obtain ⟨place, hplace, rfl⟩ := canWrite_of_write hwrite
  constructor
  case directories => exact fun location => (hdirectories location).trans (h.directories location)
  case file =>
    intro location hlocation
    have hne : location ≠ place := by
      rintro rfl
      exact hother ⟨location, hlocation, (h.locate_iff other).mp hplace.way⟩
    rw [after.entry?_put_of_ne _ hne, h.file location hlocation]

/-- A file that is spared is found as it was. -/
theorem Spares.read?_eq (h : Spares path before after) : after.read? path = before.read? path := by
  refine Option.ext fun content => ?_
  simp only [read?_eq_some, h.locate_iff, content?]
  refine exists_congr fun location => and_congr_right fun hlocation => ?_
  rw [h.file location hlocation]

/-- A file that is found after another one was deleted was there before. -/
theorem read?_of_delete (hdelete : disk.delete other = .ok after)
    (h : after.read? path = some content) : disk.read? path = some content := by
  rw [delete] at hdelete
  split at hdelete
  · cases hdelete
  · rename_i removed _
    split at hdelete
    · obtain rfl := Except.ok.inj hdelete
      have hentry {place : Location} {entry : Entry}
          (hplace : entry? ⟨disk.entries.filter (·.1 ≠ removed)⟩ place = some entry) :
          disk.entry? place = some entry := by
        rw [ entry?] at hplace ⊢
        split at hplace
        · rwa [if_pos ‹_›]
        · rw [if_neg ‹_›]
          by_cases hsame : place = removed
          · subst hsame
            cases (lookup_filter_self disk.entries place).symm.trans hplace
          · rwa [lookup_filter_ne _ hsame] at hplace
      obtain ⟨location, hlocation, hcontent⟩ := read?_eq_some.mp h
      refine read?_eq_some.mpr ⟨location, locate_of_directories hlocation fun _ => hentry, ?_⟩
      rw [content?] at hcontent ⊢
      split at hcontent
      · rename_i found hfound
        rw [hentry hfound]
        exact hcontent
      · cases hcontent
    · cases hdelete
    · cases hdelete

end Disk

/-- Delete a file. -/
def Play.unlink (path : Text) : Play τ Unit := do
  match (← get).disk.delete path with
  | .ok disk => modify fun stage => { stage with disk := disk }
  | .error fault => throw (.disk fault)

/-- A picture that is saved somewhere else spares a file. -/
theorem Stage.saving_spares [TimeScale τ] (path : Text) (disk : Disk) :
    Saving (fun name => ¬ disk.SamePlace path (Path.ofText name).text)
      (fun stage : Stage τ => disk.Spares path stage.disk) fun _ => True :=
  .of_disk fun _ _ _ _ hname hspares hwrite => hspares.write hname hwrite

namespace Production

open Running (onStage)

variable [TimeScale τ] {production : Production} {path : Text} {state : RunState τ}

/-- A production that is not asked for a report. -/
def silent (production : Production) : Production := { production with reportPath := none }

/-- What happens in the course of time: something is asked of a production, or a file is deleted. -/
inductive Turn where
  | ask (request : Request)
  | unlink (path : Text)
deriving Repr, DecidableEq

namespace Turn

/-- Let happen what happens. -/
def carryOut (production : Production) : Turn → Running τ Unit
  | ask request => request.carryOut production
  | unlink path => onStage (Play.unlink path)

/-- Decide whether it comes to the report in a turn: at the end of a run, or when it is asked for. -/
def reports : Turn → Bool
  | ask (.run _) | ask .report => true
  | ask (.perform _) | ask .cancel | unlink _ => false

/-- The steps that a turn takes up in some state: the one it is asked for, or those of the records that
are read. -/
inductive Takes (production : Production) (state : RunState τ) : Turn → Step → Prop
  | asked (step : Step) : Takes production state (.ask (.perform step)) step
  | read {source readings result after reading step}
      (h : production.Chronicle (source.remains state.stage) state readings result after)
      (hreading : reading ∈ readings)
      (hstep : Step.ofRecord production.vocabulary reading.record = .ok step) :
      Takes production state (.ask (.run source)) step

/-- No picture that may be saved in a turn is saved over the file that a path leads to. -/
def Spares (production : Production) (state : RunState τ) (turn : Turn) (path : Text) : Prop :=
  ∀ step, turn.Takes production state step → ∀ name ∈ production.pictures step,
    ¬ state.stage.disk.SamePlace path (Path.ofText name).text

end Turn

/-- The state after some turns, whether or not they end in faults. -/
def afterTurns (production : Production) (turns : List Turn) (state : RunState τ) : RunState τ :=
  turns.foldl (fun state turn => (upshot (turn.carryOut production) state).2) state

/-- A run over a source does not depend on the path of the report before it comes to its end. -/
theorem upshot_follow_silent (source : Source) (state : RunState τ) :
    upshot (production.silent.follow source) state = upshot (production.follow source) state := by
  obtain ⟨readings, h⟩ := production.exists_chronicle_follow source state
  have hsilent : production.silent.Chronicle (source.remains state.stage) state readings
      (upshot (production.follow source) state).1 (upshot (production.follow source) state).2 :=
    h.congr rfl fun _ _ => rfl
  rw [upshot_follow, hsilent.upshot_eq]

/-- What comes of an end when a file was written with a document, or refused. A document that cannot be
encoded is refused once the file is empty. -/
def concluded (file document : Text) (ended : Except Fault Unit × RunState τ) :
    Except DiskFault Disk → Except Fault Unit × RunState τ
  | .error fault => (.error (.disk fault), ended.2)
  | .ok disk =>
      match document.encodingFault? with
      | none => (ended.1, written file disk ended.2)
      | some fault => (.error (.encoding fault), tried disk ended.2)

/-- What comes of an end when the report was attempted with all outcomes recorded so far. A refusal takes
the place of how everything before it ended. -/
def attempted (path : Text) (ended : Except Fault Unit × RunState τ) :
    Except Fault Unit × RunState τ :=
  let file := (Path.ofText path).text
  let document := ended.2.suite.xml
  concluded file document ended (ended.2.stage.disk.write file document.octets)

theorem upshot_report_eq_attempted (hpath : production.reportPath = some (.value path))
    (h : state.reported = false) :
    upshot production.report state = attempted path (.ok (), state.marked) := by
  rw [upshot_report_of_path hpath h]
  dsimp only [attempted, RunState.marked]
  cases state.stage.disk.write (Path.ofText path).text state.suite.xml.octets with
  | error fault => rfl
  | ok disk =>
      dsimp only [concluded]
      cases state.suite.xml.encodingFault? <;> rfl

theorem upshot_run_eq_attempted (hpath : production.reportPath = some (.value path))
    (h : state.reported = false) (source : Source) :
    upshot (production.run source) state =
      attempted path ((upshot (production.follow source) state).1,
        (upshot (production.follow source) state).2.marked) := by
  have hfollowed : (upshot (production.follow source) state).2.reported = false :=
    (production.reported_follow source state).trans h
  rw [run, Running.upshot_endingWith, upshot_report_of_path hpath hfollowed]
  dsimp only [attempted, RunState.marked]
  generalize (upshot (production.follow source) state).2 = ended
  cases ended.stage.disk.write (Path.ofText path).text ended.suite.xml.octets with
  | error fault => rfl
  | ok disk =>
      dsimp only [concluded]
      cases ended.suite.xml.encodingFault? <;> rfl

namespace Turn

/-- The report counts as attempted after a turn in which it comes to it. -/
theorem reported_carryOut (turn : Turn) :
    (upshot (turn.carryOut production) state).2.reported = (state.reported || turn.reports) := by
  cases turn with
  | unlink path => simp [carryOut, reports, Running.upshot_onStage]
  | ask request =>
      cases request with
      | run source =>
          simp [carryOut, reports, Request.carryOut, production.reported_of_run]
      | perform step =>
          obtain ⟨outcomes, hshape⟩ :=
            (Request.takesCourse_perform production step state).exists_shape
          simp [carryOut, reports, hshape.reported]
      | report =>
          obtain ⟨result, stage, hreport, -⟩ := production.report_cases state
          simp [carryOut, reports, Request.carryOut, hreport]
      | cancel => simp [carryOut, reports, Request.carryOut, Running.upshot_onStage]

/-- Where it does not come to the report, or the report has been attempted, there is no attempt. -/
theorem upshot_carryOut_silent {turn : Turn} (h : turn.reports = false ∨ state.reported = true) :
    upshot (turn.carryOut production) state = upshot (turn.carryOut production.silent) state := by
  cases turn with
  | unlink path => rfl
  | ask request =>
      cases request with
      | perform | cancel => rfl
      | report =>
          have hreported : state.reported = true := h.resolve_left (by simp [reports])
          simp only [carryOut, Request.carryOut, upshot_report_of_reported _ hreported]
      | run source =>
          have hreported : state.reported = true := h.resolve_left (by simp [reports])
          have hfollowed : (upshot (production.follow source) state).2.reported = true :=
            (production.reported_follow source state).trans hreported
          simp only [carryOut, Request.carryOut, run, Running.upshot_endingWith, upshot_follow_silent,
            upshot_report_of_reported _ hfollowed]

/-- When it first comes to the report there is one attempt, at the end of the turn. -/
theorem upshot_carryOut_of_reports (hpath : production.reportPath = some (.value path)) {turn : Turn}
    (h : turn.reports = true) (hfresh : state.reported = false) :
    upshot (turn.carryOut production) state =
      attempted path (upshot (turn.carryOut production.silent) state) := by
  cases turn with
  | unlink path => cases h
  | ask request =>
      cases request with
      | perform | cancel => cases h
      | report =>
          have hsilent : production.silent.reportPath = none := rfl
          simp only [carryOut, Request.carryOut, upshot_report_of_no_report hsilent]
          exact upshot_report_eq_attempted hpath hfresh
      | run source =>
          have hsilent : production.silent.reportPath = none := rfl
          simp only [carryOut, Request.carryOut, upshot_run_of_no_report hsilent, upshot_follow_silent]
          exact upshot_run_eq_attempted hpath hfresh source

end Turn

theorem reported_afterTurns (turns : List Turn) :
    (afterTurns production turns state).reported = (state.reported || turns.any Turn.reports) := by
  induction turns generalizing state with
  | nil => simp [afterTurns]
  | cons turn turns ih =>
      rw [afterTurns, List.foldl_cons, ← afterTurns, ih, turn.reported_carryOut, List.any_cons,
        Bool.or_assoc]

/-- A file is spared when a step is performed whose pictures do not go there. -/
theorem keeps_spares {disk : Disk} {step : Step}
    (hpictures : ∀ name ∈ production.pictures step,
      ¬ disk.SamePlace path (Path.ofText name).text) :
    Keeps (fun state : RunState τ => disk.Spares path state.stage.disk) (fun _ => True)
      (Request.carryOut production (.perform step)) := by
  have hperform : Keeps (fun state : RunState τ => disk.Spares path state.stage.disk) (fun _ => True)
      (production.perform step) :=
    keeps_perform production (fun _ _ => Stage.saving_spares path disk) hpictures (fun _ _ => trivial)
      (fun _ _ => trivial) fun _ _ _ h => h
  exact hperform.bind fun _ => keeps_pure ()

/-- A file is spared when a record is played, if the pictures of its step do not go there. -/
theorem spares_playRecord {disk : Disk} {record : Record} (hspares : disk.Spares path state.stage.disk)
    (hpictures : ∀ step, Step.ofRecord production.vocabulary record = .ok step →
      ∀ name ∈ production.pictures step, ¬ disk.SamePlace path (Path.ofText name).text) :
    disk.Spares path (upshot (production.playRecord record) state).2.stage.disk := by
  rcases production.playRecord_cases record state with ⟨fault, hrefused⟩ | ⟨step, hstep, hplay⟩
  · rw [hrefused]
    exact hspares
  · rw [hplay]
    exact (keeps_spares (hpictures step hstep) state hspares).1

/-- After the attempt no turn makes or changes the file of the report. -/
theorem Turn.read?_of_carryOut {turn : Turn} {content : List UInt8} (hreported : state.reported = true)
    (hspares : turn.Spares production state path)
    (h : (upshot (turn.carryOut production) state).2.stage.disk.read? path = some content) :
    state.stage.disk.read? path = some content := by
  have hself : state.stage.disk.Spares path state.stage.disk := .refl path _
  cases turn with
  | unlink other =>
      rw [carryOut, Running.upshot_onStage, Play.unlink, upshot_bind_of_ok (upshot_get _)] at h
      cases hdelete : state.stage.disk.delete other with
      | ok disk =>
          rw [hdelete] at h
          exact Disk.read?_of_delete hdelete h
      | error fault =>
          rw [hdelete] at h
          exact h
  | ask request =>
      cases request with
      | cancel => exact h
      | report =>
          rw [carryOut, Request.carryOut, upshot_report_of_reported _ hreported] at h
          exact h
      | perform step =>
          have hkept := (keeps_spares (hspares step (.asked step)) state hself).1
          exact hkept.read?_eq.symm.trans h
      | run source =>
          obtain ⟨readings, hchronicle⟩ := production.exists_chronicle_follow source state
          have hkept := hchronicle.keeps
            (J := fun after => state.stage.disk.Spares path after.stage.disk)
            (fun reading hreading hreached => spares_playRecord hreached fun step hstep =>
              hspares step (.read hchronicle hreading hstep)) hself
          have hfollowed : (upshot (production.follow source) state).2.reported = true :=
            (production.reported_follow source state).trans hreported
          have hrun : (upshot (production.run source) state).2 =
              (upshot (production.follow source) state).2 := by
            rw [run, Running.endingWith_state, upshot_report_of_reported _ hfollowed]
          rw [carryOut, Request.carryOut, hrun, hkept.read?_eq] at h
          exact h

/-- Whatever happens in the course of time, a report that can be attempted is attempted in the first turn
in which it comes to it, with the outcomes recorded up to then, and in no other. From then on its file is
neither made nor changed, unless a picture of a step is saved over it. -/
theorem report_is_attempted_once (hpath : production.reportPath = some (.value path))
    (hfresh : state.reported = false) (earlier : List Turn) (turn : Turn) :
    let before := afterTurns production earlier state
    let besides := upshot (turn.carryOut production.silent) before
    let file := (Path.ofText path).text
    (turn.reports = true → (∀ other ∈ earlier, other.reports = false) →
      upshot (turn.carryOut production) before = attempted path besides) ∧
    (turn.reports = false ∨ (∃ other ∈ earlier, other.reports = true) →
      upshot (turn.carryOut production) before = besides) ∧
    ((∃ other ∈ earlier, other.reports = true) → turn.Spares production before file →
      ∀ content, (upshot (turn.carryOut production) before).2.stage.disk.read? file = some content →
        before.stage.disk.read? file = some content) := by
  intro before besides file
  have hreported : before.reported = earlier.any Turn.reports := by
    rw [reported_afterTurns, hfresh, Bool.false_or]
  have hlate (h : ∃ other ∈ earlier, other.reports = true) : before.reported = true := by
    rw [hreported, List.any_eq_true]
    exact h
  refine ⟨fun hreports hfirst => ?_, fun h => ?_, fun h hspares content hcontent => ?_⟩
  · have hnone : before.reported = false := by
      rw [hreported, List.any_eq_false]
      exact fun other hother => by simp [hfirst other hother]
    exact Turn.upshot_carryOut_of_reports hpath hreports hnone
  · exact Turn.upshot_carryOut_silent (h.imp_right hlate)
  · exact Turn.read?_of_carryOut (hlate h) hspares hcontent

/-- A production that is asked for a report and takes no pictures of failures. -/
def reporting (path : Text) : Production :=
  { unreported .literal with reportPath := some (.value path) }

/-- A run, after which its report is deleted. -/
def deletingTurns : List Turn :=
  [.ask (.run (.listed ["noop\x7b\x7d\n"] none)), .unlink "r.xml"]

/-- The state after these turns. -/
def deletedReport : RunState Float := afterTurns (reporting "r.xml") deletingTurns closedPage

/-- The report is not written again when it is asked for. -/
theorem deleted_report_is_not_written_again :
    (reporting "r.xml").reportPath = some (.value "r.xml") ∧ closedPage.reported = false ∧
      ((afterTurns (reporting "r.xml") (deletingTurns.take 1) closedPage).stage.disk.read?
        "r.xml").isSome ∧
      upshot (Turn.carryOut (reporting "r.xml") (.ask .report)) deletedReport =
        upshot (Turn.carryOut (reporting "r.xml").silent (.ask .report)) deletedReport ∧
      (upshot (Turn.carryOut (reporting "r.xml") (.ask .report)) deletedReport).2.stage.disk.read?
        "r.xml" = none := by
  have hpath : (reporting "r.xml").reportPath = some (.value "r.xml") := rfl
  have hfresh : closedPage.reported = false := rfl
  have hname : (Path.ofText "r.xml").text = "r.xml" := by decide +kernel
  obtain ⟨-, hbesides, hfile⟩ :=
    report_is_attempted_once hpath hfresh deletingTurns (.ask .report)
  rw [hname, ← deletedReport] at hfile
  rw [← deletedReport] at hbesides
  have hturn : ∃ other ∈ deletingTurns, other.reports = true := ⟨_, List.mem_cons_self, rfl⟩
  have hspares : Turn.Spares (reporting "r.xml") deletedReport (.ask .report) "r.xml" :=
    fun _ => nofun
  have hdeleted : deletedReport.stage.disk.read? "r.xml" = none := by decide +kernel
  refine ⟨hpath, hfresh, by decide +kernel, hbesides (.inr hturn), ?_⟩
  refine Option.eq_none_iff_forall_ne_some.mpr fun content hcontent => ?_
  have hbefore := hfile hturn hspares content hcontent
  rw [hdeleted] at hbefore
  cases hbefore

/-- A debug action. -/
def debugStep : Step := ⟨"debug", ⟨.debug, "60s"⟩⟩

/-- A state before a run in which a page is open. -/
def openPage : RunState Float :=
  { closedPage with stage := { closedPage.stage with browser.opened := true } }

/-- The state after the report was written to the file where debug actions save their pictures. -/
def debugReport : RunState Float := afterTurns (reporting "debug.png") [.ask .report] openPage

/-- A debug action is no screenshot action, but it saves a picture, too. It changes the file of a report
that was written to the same place. -/
theorem debug_picture_replaces_report :
    Step.ofRecord (reporting "debug.png").vocabulary ⟨"debug", []⟩ = .ok debugStep ∧
      (∀ name, debugStep.action.deed ≠ .screenshot name) ∧
      (reporting "debug.png").reportPath = some (.value "debug.png") ∧
      (reporting "debug.png").diagnostic = "" ∧ openPage.reported = false ∧
      debugReport.stage.disk.read? "debug.png" = some debugReport.suite.xml.octets ∧
      (upshot (Turn.carryOut (reporting "debug.png") (.ask (.perform debugStep)))
        debugReport).2.stage.disk.read? "debug.png" = some Play.plainPicture ∧
      Play.plainPicture ≠ debugReport.suite.xml.octets := by
  refine ⟨by decide +kernel, by simp [debugStep], rfl, rfl, rfl, ?_⟩
  decide +kernel

end Production

end Playbook
