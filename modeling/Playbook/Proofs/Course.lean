import Playbook.Proofs.Outcome
import Playbook.Proofs.Plays
import Playbook.Proofs.SuiteTotals

/-! # The course of a run

A run performs steps one after another until one does not succeed or until it stops between two steps.
Each step that succeeds leaves a success, and the last step may leave a failure. After its own calls
only a screenshot is tried, and no step is performed after it. -/

namespace Playbook

variable {τ : Type} [TimeScale τ]

namespace Duration

/-- Ten seconds as a duration denotes them. -/
def tenSeconds : τ :=
  TimeScale.seconds 1 * (TimeScale.none + Part.value ⟨⟨['1', '0'], []⟩, .second⟩)

theorem parse_tenSeconds : (parse "10s" : Except DurationFault τ) = .ok tenSeconds := by
  have hsign : (splitSign ("10s" : Text).toList : τ × List CodePoint) =
      (TimeScale.seconds 1, [.scalar '1', .scalar '0', .scalar 's']) := rfl
  have hpart : Part.read [.scalar '1', .scalar '0', .scalar 's'] =
      some (⟨⟨['1', '0'], []⟩, .second⟩, []) := by decide
  have hparts : readParts [.scalar '1', .scalar '0', .scalar 's'] =
      .ok [⟨⟨['1', '0'], []⟩, .second⟩] := by
    rw [readParts]
    split
    · rename_i hnone
      cases hpart.symm.trans hnone
    · rename_i part rest hsome
      obtain ⟨rfl, rfl⟩ := Prod.mk.inj (Option.some.inj (hpart.symm.trans hsome))
      rw [readParts, map_ok]
  simp only [parse, hsign, hparts]
  rfl

/-- In floating-point arithmetic they are ten thousand milliseconds. -/
theorem milliseconds_tenSeconds : TimeScale.milliseconds (tenSeconds : Float) = 10000 := by
  decide +kernel

end Duration

namespace Production

open Running (onStage attempt)

/-- The screenshot that is tried after a failure. -/
def lastCall : Call τ := .screenshot (TimeScale.milliseconds Duration.tenSeconds)

/-- What a step leaves that fails for some cause, when it is begun in one state: the stage at the end
of its own play, and the fault and the state after all. -/
structure Fails (production : Production) (step : Step) (before : RunState τ) (cause : Fault)
    (ended : Stage τ) (fault : Fault) (after : RunState τ) : Prop where
  played : upshot step.action.play before.stage = (.error cause, ended)
  expected : cause.isExpected = true
  suite : after.suite = before.suite.add (failure step (ended.clock - before.stage.clock) cause)
  reported : after.reported = before.reported
  /-- At most one more call is made, and that is a screenshot. -/
  calls : ended.Adds [] after.stage ∨ ended.Adds [lastCall] after.stage
  /-- The fault names the step, or else it is a defect that the screenshot has ended in. -/
  fault : fault = .failed step (reason step cause) cause ∨
    fault.isExpected = false ∧ ∃ stage, ended.Adds [] stage ∧
      (upshot production.diagnosticAction.play stage).1 = .error fault

/-- How a step is performed. -/
inductive Performed (production : Production) (step : Step) (before : RunState τ) :
    Except Fault (Outcome τ) → RunState τ → Prop
  /-- Its bound is no duration. -/
  | unbounded {fault} (hbound : (step.action.bound : Except Fault τ) = .error fault) :
      Performed production step before (.error fault) before
  /-- It is done, and a line tells of it. -/
  | done {ended} {after : RunState τ} (hplay : upshot step.action.play before.stage = (.ok (), ended))
      (hsuite : after.suite = before.suite.add (success step (ended.clock - before.stage.clock)))
      (hreported : after.reported = before.reported) (hadds : ended.Adds [] after.stage) :
      Performed production step before
        (.ok (success step (ended.clock - before.stage.clock))) after
  /-- It ends in a defect. -/
  | broken {fault ended} (hplay : upshot step.action.play before.stage = (.error fault, ended))
      (hdefect : fault.isExpected = false) :
      Performed production step before (.error fault) { before with stage := ended }
  /-- It fails. -/
  | failed {cause ended fault after} (h : Fails production step before cause ended fault after) :
      Performed production step before (.error fault) after

theorem bound_diagnosticAction (production : Production) :
    (production.diagnosticAction.bound : Except Fault τ) = .ok Duration.tenSeconds := by
  simp only [diagnosticAction, Action.bound, Duration.parse_tenSeconds]

/-- What is done after a failure changes the stage only, and makes at most one call there. -/
theorem capture_cases (production : Production) (state : RunState τ) :
    ∃ result stage, upshot production.capture state = (result, { state with stage := stage }) ∧
      (state.stage.Adds [] stage ∨ state.stage.Adds [lastCall] stage) ∧
      ∀ fault, result = .error fault → fault.isExpected = false ∧
        (upshot production.diagnosticAction.play state.stage).1 = .error fault := by
  rw [capture]
  split
  · exact ⟨.ok (), state.stage, rfl, .inl (.refl _), by simp⟩
  · have hcalls := MakesOne.screenshot rfl (bound_diagnosticAction production) state.stage
    rw [upshot_bind_of_ok (Running.upshot_attempt ..), Running.upshot_onStage]
    cases hplay : upshot production.diagnosticAction.play state.stage with
    | mk result ended =>
        rw [hplay] at hcalls
        have htold (line : Text) := hcalls.imp (·.trans (Stage.Adds.printErr ended line))
          (·.trans (Stage.Adds.printErr ended line))
        cases result with
        | ok => exact ⟨.ok (), _, rfl, htold _, by simp⟩
        | error fault =>
            dsimp only
            split
            · exact ⟨.ok (), _, rfl, htold _, by simp⟩
            · rename_i hdefect
              refine ⟨.error fault, ended, rfl, hcalls, ?_⟩
              rintro _ ⟨⟩
              exact ⟨by simpa using hdefect, rfl⟩

/-- What a step that is done makes of a state: a success is added, and a line tells of it. -/
def succeeded (step : Step) (time : τ) (state : RunState τ) : RunState τ where
  stage := state.stage.noting (.err ("[runner] " ++ timed step time ++ "\n"))
  suite := state.suite.add (success step time)
  reported := state.reported

theorem upshot_succeed (step : Step) (time : τ) (state : RunState τ) :
    upshot (succeed step time) state = (.ok (success step time), succeeded step time state) := rfl

/-- What a step that ends in a fault makes of a state: a failure is added, and a line tells of it. -/
def faulted (step : Step) (time : τ) (cause : Fault) (state : RunState τ) : RunState τ where
  stage := state.stage.noting
    (.err ("[runner] FAIL " ++ timed step time ++ ": " ++ reason step cause ++ "\n"))
  suite := state.suite.add (failure step time cause)
  reported := state.reported

/-- After that a picture is tried, and the fault ends the run. -/
theorem upshot_fail (production : Production) (step : Step) (time : τ) (cause : Fault)
    (state : RunState τ) :
    upshot (production.fail step time cause) state =
      upshot (production.capture >>= fun _ => throw (.failed step (reason step cause) cause))
        (faulted step time cause state) := by
  rw [fail, upshot_bind_of_ok (Running.upshot_addOutcome ..),
    upshot_bind_of_ok (Running.upshot_onStage ..)]
  rfl

/-- A step that fails leaves a failure, and its fault ends the run. -/
theorem fails_of_played (production : Production) {step : Step} {before : RunState τ} {cause : Fault}
    {ended : Stage τ} (hplay : upshot step.action.play before.stage = (.error cause, ended))
    (hexpected : cause.isExpected = true) :
    ∃ fault after, upshot (production.fail step (ended.clock - before.stage.clock) cause)
        { before with stage := ended } = (.error fault, after) ∧
      Fails production step before cause ended fault after := by
  let told := faulted step (ended.clock - before.stage.clock) cause { before with stage := ended }
  have htold : ended.Adds [] told.stage := .printErr ended _
  obtain ⟨result, stage, hcapture, hcalls, hdefect⟩ := production.capture_cases told
  have hends : ∀ fault, (fault = .failed step (reason step cause) cause ∨
      fault.isExpected = false ∧ ∃ stage, ended.Adds [] stage ∧
        (upshot production.diagnosticAction.play stage).1 = .error fault) →
      Fails production step before cause ended fault { told with stage := stage } := by
    intro fault hfault
    exact ⟨hplay, hexpected, rfl, rfl, hcalls.imp htold.trans htold.trans, hfault⟩
  rw [upshot_fail, upshot_bind, hcapture]
  cases result with
  | ok => exact ⟨_, _, rfl, hends _ (.inl rfl)⟩
  | error fault =>
      obtain ⟨hunexpected, hplayed⟩ := hdefect fault rfl
      exact ⟨fault, _, rfl, hends fault (.inr ⟨hunexpected, told.stage, htold, hplayed⟩)⟩

/-- A step with a proper bound is played, and how that ends decides what follows. -/
theorem upshot_perform (production : Production) (step : Step) (before : RunState τ) :
    upshot (production.perform step) before =
      match (step.action.bound : Except Fault τ) with
      | .error fault => (.error fault, before)
      | .ok _ =>
          match upshot step.action.play before.stage with
          | (.ok (), ended) =>
              upshot (succeed step (ended.clock - before.stage.clock)) { before with stage := ended }
          | (.error cause, ended) =>
              if cause.isExpected then
                upshot (production.fail step (ended.clock - before.stage.clock) cause)
                  { before with stage := ended }
              else (.error cause, { before with stage := ended }) := by
  have hfirst := Running.upshot_ofExcept (step.action.bound : Except Fault τ) before
  cases hbound : (step.action.bound : Except Fault τ) with
  | error fault =>
      rw [hbound] at hfirst
      rw [perform, hbound, upshot_bind_of_error hfirst]
  | ok seconds =>
      rw [hbound] at hfirst
      rw [perform, hbound, upshot_bind_of_ok hfirst, upshot_bind_of_ok (upshot_get _),
        upshot_bind_of_ok (Running.upshot_attempt ..), upshot_bind_of_ok (upshot_get _),
        Running.upshot_onStage]
      cases upshot step.action.play before.stage with
      | mk result ended =>
          cases result with
          | ok => rfl
          | error cause =>
              dsimp only
              split <;> rfl

/-- Every way to perform a step is one of four. -/
theorem performed (production : Production) (step : Step) (before : RunState τ) :
    Performed production step before (upshot (production.perform step) before).1
      (upshot (production.perform step) before).2 := by
  rw [upshot_perform]
  cases hbound : (step.action.bound : Except Fault τ) with
  | error fault => exact .unbounded hbound
  | ok seconds =>
      cases hplay : upshot step.action.play before.stage with
      | mk result ended =>
          cases result with
          | ok =>
              dsimp only
              rw [upshot_succeed]
              exact .done hplay rfl rfl (.printErr ended _)
          | error cause =>
              dsimp only
              split
              · rename_i hexpected
                obtain ⟨fault, after, hfail, hfails⟩ :=
                  fails_of_played production hplay hexpected
                rw [hfail]
                exact .failed hfails
              · rename_i hdefect
                exact .broken hplay (by simpa using hdefect)

/-- The course that a part of a run takes: it stops between two steps, or it performs a step and goes
on if that was done. -/
inductive Course (production : Production) {α : Type} :
    RunState τ → Except Fault α → RunState τ → Prop
  | stopped {state result} : Course production state result state
  | done {state middle after step outcome result}
      (hstep : upshot (production.perform step) state = (.ok outcome, middle))
      (tail : Course production middle result after) : Course production state result after
  | ended {state after step fault}
      (hstep : upshot (production.perform step) state = (.error fault, after)) :
      Course production state (.error fault) after

/-- A part of a run takes a course from every state. -/
def TakesCourse {α : Type} (production : Production) (m : Running τ α) : Prop :=
  ∀ state, Course production state (upshot m state).1 (upshot m state).2

namespace TakesCourse

variable {α β : Type} {production : Production} {m : Running τ α} {f : α → Running τ β}

theorem pure (a : α) : TakesCourse production (Pure.pure a : Running τ α) := fun _ => .stopped

theorem throw (fault : Fault) : TakesCourse production (MonadExcept.throw fault : Running τ α) :=
  fun _ => .stopped

theorem get : TakesCourse production (MonadState.get : Running τ (RunState τ)) := fun _ => .stopped

theorem perform (step : Step) :
    TakesCourse production (production.perform step : Running τ (Outcome τ)) := by
  intro state
  cases hstep : upshot (production.perform step) state with
  | mk result after =>
      cases result with
      | ok outcome => exact .done hstep .stopped
      | error fault => exact .ended hstep

theorem bind (h : TakesCourse production m) (hf : ∀ a, TakesCourse production (f a)) :
    TakesCourse production (m >>= f) := by
  intro state
  have hfirst := h state
  rw [upshot_bind]
  cases hm : upshot m state with
  | mk result middle =>
      rw [hm] at hfirst
      dsimp only at hfirst
      clear hm
      induction hfirst with
      | @stopped state result =>
          cases result with
          | ok a => exact hf a state
          | error fault => exact .stopped
      | done hstep _ ih => exact .done hstep ih
      | ended hstep => exact .ended hstep

end TakesCourse

/-- The step that a line completes is all that taking the line performs. -/
theorem takesCourse_takeLine (production : Production) (buffer line : Text) :
    TakesCourse production (production.takeLine buffer line : Running τ Text) := by
  rw [takeLine]
  split
  · exact .throw _
  · exact .pure _
  · refine TakesCourse.bind ?_ fun _ => .pure _
    refine TakesCourse.get.bind fun state => ?_
    split
    · exact .throw _
    · exact (TakesCourse.perform _).bind fun _ => .pure _

theorem takesCourse_takeLines (production : Production) (buffer : Text) (lines : List Text) :
    TakesCourse production (production.takeLines buffer lines : Running τ Text) := by
  induction lines generalizing buffer with
  | nil => exact .pure buffer
  | cons line lines ih => exact (production.takesCourse_takeLine buffer line).bind ih

theorem takesCourse_takeRead (production : Production) (buffer : Text) (reader : Reader)
    (rounds : Nat) :
    TakesCourse production (production.takeRead buffer reader rounds : Running τ Text) := by
  induction rounds generalizing buffer reader with
  | zero => exact .pure buffer
  | succ rounds ih =>
      refine TakesCourse.get.bind fun state => ?_
      split
      · exact (production.takesCourse_takeLine buffer _).bind fun left => ih left _
      · exact ih buffer _
      · exact .pure buffer
      · exact .throw _

/-- A source is followed by performing steps one after another. -/
theorem takesCourse_follow (production : Production) (source : Source) :
    TakesCourse production (production.follow source : Running τ Unit) := by
  have hsource : TakesCourse production (production.takeSource source : Running τ Text) := by
    cases source with
    | listed lines fault =>
        refine (production.takesCourse_takeLines "" lines).bind fun buffer => ?_
        split
        · exact .throw _
        · exact .pure buffer
    | read reader =>
        exact TakesCourse.get.bind fun state => production.takesCourse_takeRead "" reader _
  refine hsource.bind fun buffer => ?_
  split
  · exact .pure ()
  · exact .throw _

/-- The shape of a course: the outcomes that it adds to the suite are successes, except that the last
one may be a failure. A failure is the end: its step has brought about the last state and the fault. -/
structure Shape (production : Production) {α : Type} (before : RunState τ) (result : Except Fault α)
    (after : RunState τ) (outcomes : List (Outcome τ)) : Prop where
  suite : after.suite = outcomes.foldl Suite.add before.suite
  reported : after.reported = before.reported
  successes : ∀ outcome ∈ outcomes.dropLast, outcome.success = true
  failure : ∀ last ∈ outcomes.getLast?, last.success = false →
    ∃ step start cause ended fault, Fails production step start cause ended fault after ∧
      start.suite = outcomes.dropLast.foldl Suite.add before.suite ∧
      last = Production.failure step (ended.clock - start.stage.clock) cause ∧
      result = .error fault

/-- A success may come first. -/
theorem Shape.cons {α : Type} {production : Production} {before middle after : RunState τ}
    {result : Except Fault α} {outcome : Outcome τ} {outcomes : List (Outcome τ)}
    (h : Shape production middle result after outcomes) (hsuccess : outcome.success = true)
    (hsuite : middle.suite = before.suite.add outcome)
    (hreported : middle.reported = before.reported) :
    Shape production before result after (outcome :: outcomes) := by
  constructor
  case suite => rw [h.suite, hsuite, List.foldl_cons]
  case reported => rw [h.reported, hreported]
  case successes =>
    cases outcomes with
    | nil => simp
    | cons next outcomes =>
        intro other hother
        rcases List.mem_cons.mp hother with rfl | hrest
        · exact hsuccess
        · exact h.successes other hrest
  case failure =>
    cases outcomes with
    | nil => simp [hsuccess]
    | cons next outcomes =>
        intro last hlast hfailed
        obtain ⟨step, start, cause, ended, fault, hfails, hstart, hends⟩ :=
          h.failure last hlast hfailed
        rw [hsuite] at hstart
        exact ⟨step, start, cause, ended, fault, hfails, hstart, hends⟩

/-- Every course has this shape. -/
theorem Course.exists_shape {α : Type} {production : Production} {before after : RunState τ}
    {result : Except Fault α} (h : Course production before result after) :
    ∃ outcomes, Shape production before result after outcomes := by
  induction h with
  | stopped => exact ⟨[], rfl, rfl, by simp, by simp⟩
  | @done before middle after step outcome result hstep _ ih =>
      obtain ⟨outcomes, hshape⟩ := ih
      have hperformed := production.performed step before
      rw [hstep] at hperformed
      cases hperformed with
      | done _ hsuite hreported => exact ⟨_ :: outcomes, hshape.cons rfl hsuite hreported⟩
  | @ended before after step fault hstep =>
      have hperformed := production.performed step before
      rw [hstep] at hperformed
      cases hperformed with
      | unbounded | broken => exact ⟨[], rfl, rfl, by simp, by simp⟩
      | failed hfails =>
          refine ⟨[failure step _ _], hfails.suite, hfails.reported, by simp, ?_⟩
          intro last hlast _
          obtain rfl := Option.some.inj hlast
          exact ⟨step, before, _, _, fault, hfails, rfl, rfl, rfl⟩

/-- The report is not attempted while a source is followed. -/
theorem reported_follow (production : Production) (source : Source) (state : RunState τ) :
    (upshot (production.follow source) state).2.reported = state.reported := by
  obtain ⟨_, hshape⟩ := (production.takesCourse_follow source state).exists_shape
  exact hshape.reported

/-- The document of a suite is written under the path in normal form or refused. -/
theorem upshot_save (suite : Suite τ) (path : Text) (stage : Stage τ) :
    upshot (suite.save path) stage =
      match stage.disk.write (Path.ofText path).text suite.xml.octets with
      | .error fault => (.error (.disk fault), stage)
      | .ok disk =>
          match suite.xml.encodingFault? with
          | none => (.ok (Path.ofText path).text, { stage with disk := disk })
          | some fault => (.error (.encoding fault), { stage with disk := disk }) := by
  rw [Suite.save, upshot_bind, Play.upshot_writeText]
  cases stage.disk.write (Path.ofText path).text suite.xml.octets with
  | error fault => rfl
  | ok disk => cases suite.xml.encodingFault? <;> rfl

/-- The fault that the report of a run is refused with, if it is. -/
def refusal? (production : Production) (state : RunState τ) : Option Fault :=
  if state.reported then none
  else
    match production.reportPath with
    | none => none
    | some .nothing => some .noPath
    | some (.value path) =>
        match state.stage.disk.write (Path.ofText path).text state.suite.xml.octets with
        | .error fault => some (.disk fault)
        | .ok _ => state.suite.xml.encodingFault?.map .encoding

theorem report_result (production : Production) (state : RunState τ) :
    (upshot production.report state).1 =
      match production.refusal? state with
      | none => .ok ()
      | some fault => .error fault := by
  rw [report, refusal?, upshot_bind_of_ok (upshot_get state)]
  cases state.reported with
  | true => rfl
  | false =>
      rw [if_neg (by simp), if_neg (by simp), upshot_bind_of_ok (upshot_modify ..)]
      cases production.reportPath with
      | none => rfl
      | some given =>
          cases given with
          | nothing => rfl
          | value path =>
              dsimp only
              rw [Running.upshot_onStage, upshot_bind, upshot_save]
              cases state.stage.disk.write (Path.ofText path).text state.suite.xml.octets with
              | error fault => rfl
              | ok disk => cases state.suite.xml.encodingFault? <;> rfl

/-- A report that has been attempted is not attempted again. -/
theorem upshot_report_of_reported (production : Production) {state : RunState τ}
    (h : state.reported = true) : upshot production.report state = (.ok (), state) := by
  rw [report, upshot_bind_of_ok (upshot_get state), if_pos h, upshot_pure]

/-- A state after the report was tried and left a disk. -/
def tried (disk : Disk) (state : RunState τ) : RunState τ :=
  { state with stage := { state.stage with disk := disk }, reported := true }

/-- A state after the report was written to a file, and a line tells of it. -/
def written (file : Text) (disk : Disk) (state : RunState τ) : RunState τ where
  stage := (tried disk state).stage.noting (.err ("[runner] Report written to " ++ file ++ "\n"))
  suite := state.suite
  reported := true

/-- A report that has a path and has not been attempted is written there or refused. -/
theorem upshot_report_of_path {production : Production} {state : RunState τ} {path : Text}
    (hpath : production.reportPath = some (.value path)) (h : state.reported = false) :
    upshot production.report state =
      match state.stage.disk.write (Path.ofText path).text state.suite.xml.octets with
      | .error fault => (.error (.disk fault), tried state.stage.disk state)
      | .ok disk =>
          match state.suite.xml.encodingFault? with
          | none => (.ok (), written (Path.ofText path).text disk state)
          | some fault => (.error (.encoding fault), tried disk state) := by
  rw [report, upshot_bind_of_ok (upshot_get state), if_neg (by simp [h]),
    upshot_bind_of_ok (upshot_modify ..), hpath]
  dsimp only
  rw [Running.upshot_onStage, upshot_bind, upshot_save]
  cases state.stage.disk.write (Path.ofText path).text state.suite.xml.octets with
  | error fault => rfl
  | ok disk => cases state.suite.xml.encodingFault? <;> rfl

/-- The report calls nothing and leaves the suite as it is. -/
theorem report_cases (production : Production) (state : RunState τ) :
    ∃ result stage, upshot production.report state =
        (result, { state with stage := stage, reported := true }) ∧ state.stage.Adds [] stage := by
  rw [report, upshot_bind_of_ok (upshot_get state)]
  split
  · rename_i hreported
    exact ⟨.ok (), state.stage, by simp [← hreported], .refl _⟩
  · rw [upshot_bind_of_ok (upshot_modify ..)]
    split
    · exact ⟨.ok (), state.stage, rfl, .refl _⟩
    · exact ⟨.error .noPath, state.stage, rfl, .refl _⟩
    · rename_i path _
      have hquiet : Quiet (state.suite.save path >>= fun path =>
          Play.printErr ("[runner] Report written to " ++ path) : Play τ Unit) := by
        intro stage calls
        have hadds := Stage.Adds.unaffected stage calls
        have hsave := (hadds.writeText (fun _ => trivial) (Path.ofText path).text
          state.suite.xml).bind fun _ => keeps_pure (Path.ofText path).text
        exact hsave.bind fun path => hadds.printErr _
      exact ⟨_, _, Running.upshot_onStage _ _, (hquiet state.stage [] _ (.refl _)).1⟩

/-- A run ends in the fault of its report, if that is refused, and else as the playbook ended. -/
theorem run_result (production : Production) (source : Source) (state : RunState τ) :
    (upshot (production.run source) state).1 =
      match production.refusal? (upshot (production.follow source) state).2 with
      | none => (upshot (production.follow source) state).1
      | some fault => .error fault := by
  have hreport := production.report_result (upshot (production.follow source) state).2
  rw [run, Running.upshot_endingWith]
  cases hupshot : upshot production.report (upshot (production.follow source) state).2 with
  | mk result after =>
      rw [hupshot] at hreport
      dsimp only at hreport
      subst hreport
      cases production.refusal? (upshot (production.follow source) state).2 <;> rfl

/-- What is asked of a production in the course of time. -/
inductive Request where
  | run (source : Source)
  | perform (step : Step)
  | report
  | cancel
deriving Repr, DecidableEq

/-- Do what is asked. -/
def Request.carryOut (production : Production) : Request → Running τ Unit
  | run source => production.run source
  | perform step => do
      let _ ← production.perform step
  | report => production.report
  | cancel => onStage Play.cancel

/-- The state after requests, whether or not they end in faults. -/
def afterAll (production : Production) (requests : List Request) (state : RunState τ) : RunState τ :=
  requests.foldl (fun state request => (upshot (request.carryOut production) state).2) state

/-- A run is a course and the report. -/
theorem run_cases (production : Production) (source : Source) (state : RunState τ) :
    ∃ outcomes result ended stage,
      upshot (production.follow source) state = (result, ended) ∧
      Shape production state result ended outcomes ∧
      (upshot (production.run source) state).2 = { ended with stage := stage, reported := true } ∧
      ended.stage.Adds [] stage := by
  obtain ⟨outcomes, hshape⟩ := (production.takesCourse_follow source state).exists_shape
  obtain ⟨result, stage, hreport, hadds⟩ :=
    production.report_cases (upshot (production.follow source) state).2
  refine ⟨outcomes, _, _, stage, rfl, hshape, ?_, hadds⟩
  rw [run, Running.upshot_endingWith, hreport]
  cases result <;> rfl

theorem reported_of_run (production : Production) (source : Source) (state : RunState τ) :
    (upshot (production.run source) state).2.reported = true := by
  obtain ⟨-, -, ended, stage, -, -, hrun, -⟩ := production.run_cases source state
  rw [hrun]

/-- A step that is asked for is a course of its own. -/
theorem Request.takesCourse_perform (production : Production) (step : Step) :
    TakesCourse production (carryOut production (.perform step) : Running τ Unit) :=
  (TakesCourse.perform step).bind fun _ => .pure ()

/-- Whatever is asked, the totals of the suite stay those of its outcomes. -/
theorem Request.totals (production : Production) (request : Request) {state : RunState τ}
    (h : state.suite.Totals) : (upshot (request.carryOut production) state).2.suite.Totals := by
  cases request with
  | run source =>
      obtain ⟨outcomes, result, ended, stage, -, hshape, hrun, -⟩ :=
        production.run_cases source state
      rw [carryOut, hrun, hshape.suite]
      exact h.foldl_add outcomes
  | perform step =>
      obtain ⟨outcomes, hshape⟩ := (takesCourse_perform production step state).exists_shape
      rw [hshape.suite]
      exact h.foldl_add outcomes
  | report =>
      obtain ⟨result, stage, hreport, -⟩ := production.report_cases state
      rw [carryOut, hreport]
      exact h
  | cancel => exact h

theorem totals_afterAll (production : Production) (requests : List Request) {state : RunState τ}
    (h : state.suite.Totals) : (afterAll production requests state).suite.Totals := by
  induction requests generalizing state with
  | nil => exact h
  | cons request requests ih => exact ih (request.totals production h)

/-- A run only adds outcomes to the suite, and none but the last may be a failure. A failure is the
end: after the calls of its step at most a screenshot is tried, for ten thousand milliseconds, and the
fault names that step unless the screenshot ends in a defect. Whatever is asked of a production, the
totals of a suite that began empty are those of its outcomes. -/
theorem run_shape (production : Production) :
    (∀ (source : Source) (state : RunState τ), ∃ outcomes result ended,
      upshot (production.follow source) state = (result, ended) ∧
      Shape production state result ended outcomes ∧
      (upshot (production.run source) state).2.suite.cases = state.suite.cases ++ outcomes ∧
      ended.stage.Adds [] (upshot (production.run source) state).2.stage) ∧
    (lastCall : Call Float) = .screenshot 10000 ∧
    ∀ (requests : List Request) (name : Text) (stage : Stage τ),
      (afterAll production requests ⟨stage, .new name, false⟩).suite.Totals ∧
      (afterAll production requests ⟨stage, .new name, false⟩).suite.passed =
        (afterAll production requests ⟨stage, .new name, false⟩).suite.cases.countP (·.success) := by
  refine ⟨?run, ?call, ?totals⟩
  case run =>
    intro source state
    obtain ⟨outcomes, result, ended, stage, hfollow, hshape, hrun, hadds⟩ :=
      production.run_cases source state
    refine ⟨outcomes, result, ended, hfollow, hshape, ?_, ?_⟩
    · rw [hrun, hshape.suite, Suite.cases_foldl_add]
    · rw [hrun]
      exact hadds
  case call => rw [lastCall, Duration.milliseconds_tenSeconds]
  case totals =>
    intro requests name stage
    have htotals := production.totals_afterAll requests
      (show (⟨stage, .new name, false⟩ : RunState τ).suite.Totals from Suite.totals_new name)
    exact ⟨htotals, htotals.passed⟩

end Production

end Playbook
