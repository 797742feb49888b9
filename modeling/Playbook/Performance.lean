import Playbook.Browser
import Playbook.Text.CaseFold

/-! # Playing actions

Most actions are bounded by their duration as a whole: a bound that is not positive is exceeded at
once, and the calls of one action share the bound. A noop does nothing, sleeping takes the whole
duration, and a debug action only reports that it failed. -/

namespace Playbook

variable {τ : Type} [TimeScale τ]

namespace Play

/-- Play something that has to end before a number of seconds has passed. -/
def within {α : Type} (seconds : τ) (play : τ → Play τ α) : Play τ α := do
  if TimeScale.before TimeScale.none seconds then play ((← get).clock + seconds)
  else throw .timedOut

/-- Save a picture of the page. -/
def savePicture (limit : Option τ) (name : Text) (timeout : τ) : Play τ Unit := do
  let octets ← picture limit timeout
  writeFile (Path.ofText name).text octets

end Play

namespace Deed

/-- The name of the picture that a debug action saves. -/
def debugPicture : Text := "debug.png"

/-- Do on the page what a deed says, with a limit on the clock and one for each call. -/
def act (deed : Deed) (limit timeout : τ) : Play τ Unit := do
  match deed with
  | .idle | .noop | .sleep => pure ()
  | .load url => let _ ← Play.onPage limit (.goto url timeout)
  | .click selector => let _ ← Play.onPage limit (.click selector timeout)
  | .type selector text => let _ ← Play.onPage limit (.press selector text timeout)
  | .submit selector => let _ ← Play.onPage limit (.submit selector timeout)
  | .value selector v => let _ ← Play.onPage limit (.setValue selector v timeout)
  | .wait selector =>
      let _ ← Play.onPage limit (.waitVisible selector timeout)
      let _ ← Play.onPage limit (.waitAttached selector timeout)
  | .scroll selector => let _ ← Play.onPage limit (.scroll selector timeout)
  | .compare selector v =>
      let text ← Play.textOf limit selector timeout
      if Text.caseFold text ≠ Text.caseFold v then throw (.mismatch selector text v)
  | .record selector =>
      let text ← Play.textOf limit selector timeout
      Play.printOut text
  | .screenshot name => Play.savePicture limit (pictureName name) timeout
  | .debug => Play.savePicture limit debugPicture timeout

/-- Decide whether a deed consists in letting the whole bound pass. -/
def takesWholeBound : Deed → Bool
  | sleep => true
  | wait selector => selector = ""
  | _ => false

end Deed

namespace Action

/-- The bound of an action in seconds. -/
def bound (action : Action) : Except Fault τ :=
  match Duration.parse action.timeout with
  | .ok seconds => .ok seconds
  | .error fault => .error (.duration fault)

/-- Do the deed of an action within its bound. -/
def playBounded (action : Action) : Play τ Unit := do
  let seconds : τ ← Play.ofExcept action.bound
  Play.within seconds fun limit => action.deed.act limit (TimeScale.milliseconds seconds)

/-- Let the whole bound of an action pass. -/
def playSleep (action : Action) : Play τ Unit := do
  let seconds : τ ← Play.ofExcept action.bound
  Play.pass none seconds

/-- Decide whether a debug action only reports a fault. -/
def debugTolerates (fault : Fault) : Bool :=
  fault.family = .browser || fault.family = .system

/-- Play an action. -/
def play (action : Action) : Play τ Unit :=
  match action.deed with
  | .noop => pure ()
  | .debug =>
      tryCatch action.playBounded fun fault =>
        if debugTolerates fault then Play.printErr ("[debug] Screenshot failed: " ++ fault.message)
        else throw fault
  | deed => if deed.takesWholeBound then action.playSleep else action.playBounded

end Action

end Playbook
