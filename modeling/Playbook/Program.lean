import Playbook.CommandLine
import Playbook.Production

/-! # The program

The program reads its command line, opens the page, plays the playbook on it and prints the summary.
It ends with status zero if everything went well, and with status one after telling what did not. -/

namespace Playbook

namespace Program

open Running (onStage attempt endingWith)

variable {τ : Type} [TimeScale τ]

/-- The settings that a command line and an environment make. -/
def settings (dashes : CommandLine.DashRule) (words : List Text) (environment : Environment) :
    Except CommandLine.Stop Settings :=
  match CommandLine.parse dashes words with
  | .error stop => .error stop
  | .ok flags =>
      match Settings.ofEnvironment environment with
      | .error fault => .error (.usage (.environment fault))
      | .ok settings =>
          match flags.apply settings with
          | .error fault => .error (.defect fault)
          | .ok settings => .ok settings

/-- The production that settings ask for. -/
def production (settings : Settings) : Production where
  vocabulary := Vocabulary.builtin.withStrict (some settings.strict)
  dialect := settings.dialect
  reportPath := some settings.reportPath
  diagnostic := settings.diagnostic

/-- The source of the playbook, which is the standard input for a dash. -/
def openPlaybook (settings : Settings) (input : StandardInput) : Running τ Source := do
  if settings.playbook = "-" then return .read input.reader
  else
    match (← get).stage.disk.placeOf settings.playbook with
    | .ok location => return .read (.new (.file location) .file)
    | .error fault => throw (.disk fault)

/-- How long the browser stays open after a failure when debugging. -/
def pause : τ := TimeScale.seconds 10

/-- Decide whether a fault is worth a pause when debugging. -/
def pausesOn (fault : Fault) : Bool :=
  fault.family = .playbook || fault.family = .system

/-- Keep the browser open for a while. -/
def pauseBeforeExit : Running τ Unit := onStage do
  Play.printErr ("[cli] Pausing " ++ TimeScale.fixed 0 (pause : τ) ++ "s before exit")
  Play.pass none pause

/-- Play the playbook on the open page. -/
def playOpen (settings : Settings) (input : StandardInput) : Running τ Unit := do
  let source ← openPlaybook settings input
  (production settings).run source

/-- Play the playbook on the open page, and pause after a failure when debugging. -/
def playWatched (settings : Settings) (input : StandardInput) : Running τ Unit :=
  tryCatch (playOpen settings input) fun fault => do
    if pausesOn fault && settings.debug then pauseBeforeExit else pure ()
    throw fault

/-- Open the page, play the playbook and close the browser. What could not be opened as a whole is
not closed. -/
def playOnPage (settings : Settings) (input : StandardInput) : Running τ Unit := do
  onStage Play.enter
  endingWith (playWatched settings input) (onStage Play.leave)

/-- Play the playbook and tell of what went wrong: the status of the program. -/
def status (settings : Settings) (input : StandardInput) : Running τ Nat := do
  match ← attempt (playOnPage settings input) with
  | .ok () => return 0
  | .error fault =>
      if fault.isExpected then
        onStage (Play.printErr ("[cli] " ++ fault.message))
        return 1
      else throw fault

/-- Report and print the outcomes. -/
def conclude (settings : Settings) : Running τ Unit := do
  (production settings).report
  Production.printSummary

/-- Run the program with its settings. -/
def run (settings : Settings) (input : StandardInput) : Running τ Nat :=
  endingWith (status settings input) (conclude settings)

/-- The state before the program runs, on a page with a script. -/
def start (settings : Settings) (rules : List (Rule τ)) (texts : List (Text × Option Text))
    (text : Option Text) (disk : Disk) (console : Text.ErrorHandler) : RunState τ where
  stage :=
    { browser := Browser.new settings.headless (settings.proxy.getD "")
      rules, texts, text
      clock := TimeScale.none
      cancelled := none
      disk
      console
      trace := [] }
  suite := Suite.new settings.suiteName
  reported := false

end Program

end Playbook
