import Playbook.Given
import Playbook.Performance
import Playbook.Source
import Playbook.Suite.Summary
import Playbook.Suite.Xml

/-! # Productions

A production plays a playbook: it takes the lines from a source, makes steps of them and performs
these in order. Each step that is performed leaves an outcome. The first failure ends the run, after
a picture of the page has been tried. However a run ends, the report is written, and it is written
once only.

## Implementation notes

A run is a play that also keeps a suite and whether the report was attempted. Plays on the stage know
nothing of these, so they cannot change them. -/

namespace Playbook

/-- What a playbook is played with. -/
structure Production where
  vocabulary : Vocabulary
  dialect : Dialect
  /-- Where the report goes, if one is asked for. -/
  reportPath : Option (Given Text)
  /-- The picture taken after a failure; none if empty. -/
  diagnostic : Text
deriving Repr, DecidableEq

/-- The stage together with the outcomes so far and whether the report was attempted. -/
structure RunState (τ : Type) where
  stage : Stage τ
  suite : Suite τ
  reported : Bool
deriving DecidableEq

/-- A part of a run. -/
abbrev Running (τ : Type) := ExceptT Fault (StateM (RunState τ))

namespace Running

variable {τ : Type} [TimeScale τ] {α : Type}

/-- Play a part of a run on its stage. -/
def onStage (play : Play τ α) : Running τ α :=
  ExceptT.mk fun (state : RunState τ) =>
    let (result, stage) := (ExceptT.run play).run state.stage
    (result, { state with stage := stage })

/-- Run something and hand out how it ended. -/
def attempt (run : Running τ α) : Running τ (Except Fault α) :=
  ExceptT.mk do
    let result ← run.run
    return .ok result

/-- Run something at the end, however the first part ended; a fault at the end is the one that
stays. -/
def endingWith (first : Running τ α) (last : Running τ Unit) : Running τ α :=
  ExceptT.mk do
    let result ← first.run
    match ← last.run with
    | .ok () => return result
    | .error fault => return .error fault

/-- Add an outcome to the suite. -/
def addOutcome (outcome : Outcome τ) : Running τ Unit :=
  modify fun state => { state with suite := state.suite.add outcome }

end Running

/-- Write the document of a suite to a file; the path in normal form is handed out. -/
def Suite.save {τ : Type} [TimeScale τ] (suite : Suite τ) (path : Text) : Play τ Text := do
  let path := (Path.ofText path).text
  Play.writeText path suite.xml
  return path

namespace Production

open Running (onStage attempt endingWith)

variable {τ : Type} [TimeScale τ]

/-- The number of decimal places of times in messages. -/
def places : Nat := 3

/-- Write the report unless that has been attempted before. -/
def report (production : Production) : Running τ Unit := do
  let state ← get
  if state.reported then pure ()
  else
    modify fun state => { state with reported := true }
    match production.reportPath with
    | none => pure ()
    | some .nothing => throw .noPath
    | some (.value path) => onStage do
        let path ← state.suite.save path
        Play.printErr ("[runner] Report written to " ++ path)

/-- The action that takes the picture after a failure. -/
def diagnosticAction (production : Production) : Action :=
  ⟨.screenshot production.diagnostic, "10s"⟩

/-- Try to take a picture after a failure, and tell how that went. -/
def capture (production : Production) : Running τ Unit := do
  if production.diagnostic = "" then pure ()
  else
    match ← attempt (onStage production.diagnosticAction.play) with
    | .ok () =>
        onStage (Play.printErr ("[runner] Diagnostic screenshot saved to " ++ production.diagnostic))
    | .error fault =>
        if fault.isExpected then
          onStage (Play.printErr ("[runner] Diagnostic screenshot failed: " ++ fault.message))
        else throw fault

/-- The reason of a failure: the message of the fault, or the bound if there is none. -/
def reason (step : Step) (fault : Fault) : Text :=
  if fault.message = "" then "timed out after " ++ step.action.timeout else fault.message

/-- The outcome of a step that was done. -/
def success (step : Step) (time : τ) : Outcome τ :=
  ⟨step.name, step.action.describe, time, true, "", ""⟩

/-- The outcome of a step that ended in a fault. -/
def failure (step : Step) (time : τ) (fault : Fault) : Outcome τ :=
  ⟨step.name, step.action.describe, time, false, reason step fault, fault.className⟩

/-- The description of a step with the time it took. -/
def timed (step : Step) (time : τ) : Text :=
  step.action.describe ++ " " ++ TimeScale.fixed places time ++ "s"

/-- Note that a step was done. -/
def succeed (step : Step) (time : τ) : Running τ (Outcome τ) := do
  Running.addOutcome (success step time)
  onStage (Play.printErr ("[runner] " ++ timed step time))
  return success step time

/-- Note that a step ended in a fault, and end the run. -/
def fail (production : Production) (step : Step) (time : τ) (fault : Fault) :
    Running τ (Outcome τ) := do
  Running.addOutcome (failure step time fault)
  onStage (Play.printErr ("[runner] FAIL " ++ timed step time ++ ": " ++ reason step fault))
  production.capture
  throw (.failed step (reason step fault) fault)

/-- Perform a step and leave its outcome. A bound that is no duration is a fault of the playbook and
leaves none, and so does a defect. -/
def perform (production : Production) (step : Step) : Running τ (Outcome τ) := do
  let _ : τ ← onStage (Play.ofExcept step.action.bound)
  let start := (← get).stage.clock
  let result ← attempt (onStage step.action.play)
  let time := (← get).stage.clock - start
  match result with
  | .ok () => succeed step time
  | .error fault => if fault.isExpected then production.fail step time fault else throw fault

/-- Perform a step unless the run is cancelled. -/
def proceed (production : Production) (step : Step) : Running τ Unit := do
  if (← get).stage.cancelled = some true then throw (.cancelled step)
  else
    let _ ← production.perform step

/-- What is to be read once a line has been added to what was left over. Only literals span lines. -/
def addLine (production : Production) (buffer line : Text) : Text :=
  match production.dialect with
  | .literal => buffer ++ Text.trimLineEnd line
  | .flat => Text.trimLineEnd line

/-- Take a line and perform the step that it completes, if it does: what is left over. -/
def takeLine (production : Production) (buffer line : Text) : Running τ Text := do
  let buffer := production.addLine buffer line
  match Step.parse production.vocabulary production.dialect buffer with
  | .error fault => throw (.ofParse fault)
  | .ok none => return buffer
  | .ok (some step) =>
      production.proceed step
      return ""

/-- Take lines one by one. -/
def takeLines (production : Production) (buffer : Text) : List Text → Running τ Text
  | [] => return buffer
  | line :: lines => do
      let buffer ← production.takeLine buffer line
      production.takeLines buffer lines

/-- Take the lines of a reader one by one, going on a limited number of times. -/
def takeRead (production : Production) (buffer : Text) (reader : Reader) :
    Nat → Running τ Text
  | 0 => return buffer
  | rounds + 1 => do
      match reader.advance (← get).stage.disk with
      | .line line reader =>
          let buffer ← production.takeLine buffer line
          production.takeRead buffer reader rounds
      | .more reader => production.takeRead buffer reader rounds
      | .done => return buffer
      | .broken fault => throw (.input (.found fault))

/-- The greatest number of octets that a medium can come to hold on a stage: those it holds, or those
of a picture that is saved over it. -/
def reach (stage : Stage τ) (medium : Medium) : Nat :=
  let pictures := Play.plainPicture :: stage.rules.filterMap (·.picture)
  (pictures.map List.length).foldr max (medium.content stage.disk).length

/-- Take the lines of a source and perform each step as soon as it is complete: what is left over at
the end. -/
def takeSource (production : Production) : Source → Running τ Text
  | .listed lines fault => do
      let buffer ← production.takeLines "" lines
      match fault with
      | some fault => throw (Source.raised fault)
      | none => return buffer
  | .read reader => do
      let octets := reach (← get).stage reader.medium
      production.takeRead "" reader (Reader.rounds octets)

/-- Follow a source to its end, where nothing may be left over. -/
def follow (production : Production) (source : Source) : Running τ Unit := do
  let buffer ← production.takeSource source
  if Text.isBlankText buffer then pure () else throw (.malformed (.unfinished buffer))

/-- Play the playbook of a source and write the report. -/
def run (production : Production) (source : Source) : Running τ Unit :=
  endingWith (production.follow source) production.report

/-- Print the summary of the outcomes. -/
def printSummary : Running τ Unit := do
  let suite := (← get).suite
  onStage ((Summary.lines suite).forM Play.printErr)

end Production

end Playbook
