import Playbook.Fault

/-! # The stage

A playbook is played on a stage: a browser page, a clock, a disk and two output streams. What the
page does is laid down in a script of rules. Each call to the browser is noted in the trace, and then
the first rule that fits it and is not used up says what happens: a dialog opens and is dismissed,
time passes, the run is cancelled, a fault is reported.

## Implementation notes

A call may be made under a limit, the time on the clock at which it is abandoned. A delay that would
reach the limit ends there, and nothing that the rule says after the delay happens. -/

namespace Playbook

/-- The kinds of calls to the browser that a rule can name. -/
inductive CallKind where
  | start | launch | newContext | newPage | goto | click | press | submit | setValue
  | waitVisible | waitAttached | scroll | textContent | screenshot | close | stop
deriving Repr, DecidableEq

/-- The calls to the browser with their arguments; those on the page carry a limit in milliseconds. -/
inductive Call (τ : Type) where
  | start
  | launch (headless : Bool) (proxy : Text)
  | newContext (width height : Nat)
  | newPage
  | listen
  | dismiss
  | goto (url : Text) (timeout : τ)
  | click (selector : Text) (timeout : τ)
  | press (selector text : Text) (timeout : τ)
  | submit (selector : Text) (timeout : τ)
  | setValue (selector value : Text) (timeout : τ)
  | waitVisible (selector : Text) (timeout : τ)
  | waitAttached (selector : Text) (timeout : τ)
  | scroll (selector : Text) (timeout : τ)
  | textContent (selector : Text) (timeout : τ)
  | screenshot (timeout : τ)
  | close
  | stop
deriving Repr, DecidableEq

namespace Call

variable {τ : Type}

/-- The kind of a call, unless no rule applies to it. -/
def kind? : Call τ → Option CallKind
  | start => some .start
  | launch .. => some .launch
  | newContext .. => some .newContext
  | newPage => some .newPage
  | listen | dismiss => none
  | goto .. => some .goto
  | click .. => some .click
  | press .. => some .press
  | submit .. => some .submit
  | setValue .. => some .setValue
  | waitVisible .. => some .waitVisible
  | waitAttached .. => some .waitAttached
  | scroll .. => some .scroll
  | textContent .. => some .textContent
  | screenshot _ => some .screenshot
  | close => some .close
  | stop => some .stop

/-- The argument that a rule can ask for: the selector, or the address to open. -/
def argument? : Call τ → Option Text
  | goto url _ => some url
  | click selector _ | press selector _ _ | submit selector _ | setValue selector _ _
  | waitVisible selector _ | waitAttached selector _ | scroll selector _
  | textContent selector _ => some selector
  | start | launch .. | newContext .. | newPage | listen | dismiss | screenshot _ | close
  | stop => none

end Call

/-- A rule of a page script: the calls it fits, how often it applies and what it makes happen. -/
structure Rule (τ : Type) where
  call : CallKind
  /-- The argument that the call must have. -/
  argument : Option Text
  /-- How often the rule may still apply, if not without end. -/
  times : Option Nat
  /-- The type and the message of a dialog that opens. -/
  dialog : Option (Text × Text)
  /-- The time that passes. -/
  delay : Option τ
  /-- Whether the run is cancelled. -/
  cancels : Bool
  /-- The fault that is reported. -/
  fault : Option Fault
  /-- The text that the element has, if the rule tells one; there may be none. -/
  text : Option (Option Text)
  /-- The picture that is taken. -/
  picture : Option (List UInt8)
deriving Repr, DecidableEq

namespace Rule

variable {τ : Type}

/-- Decide whether a rule fits a call and is not used up. -/
def fits (rule : Rule τ) (call : Call τ) : Bool :=
  call.kind? = some rule.call
    && (rule.argument.isNone || rule.argument = call.argument?)
    && rule.times ≠ some 0

/-- A rule that has been applied once more. -/
def used (rule : Rule τ) : Rule τ := { rule with times := rule.times.map (· - 1) }

/-- Find the first rule that fits a call, and the rules after its use. -/
def pick (call : Call τ) : List (Rule τ) → Option (Rule τ × List (Rule τ))
  | [] => none
  | rule :: rest =>
      if rule.fits call then some (rule, rule.used :: rest)
      else (pick call rest).map fun (found, rest) => (found, rule :: rest)

end Rule

/-- What can be observed of a run, in order of happening. -/
inductive Event (τ : Type) where
  | call (call : Call τ)
  /-- Text on the standard output. -/
  | out (text : Text)
  /-- Text on the error output. -/
  | err (text : Text)
deriving Repr, DecidableEq

/-- The browser: what it is asked for, and which of its parts have been made. -/
structure Browser where
  headless : Bool
  /-- The address of a proxy; none if empty. -/
  proxy : Text
  width : Nat
  height : Nat
  /-- Whether the engine was started. -/
  started : Bool
  /-- Whether the browser was launched. -/
  launched : Bool
  /-- Whether the page was opened. -/
  opened : Bool
deriving Repr, DecidableEq

/-- A browser that has not been started, with the common window. -/
def Browser.new (headless : Bool) (proxy : Text) : Browser :=
  ⟨headless, proxy, 1280, 720, false, false, false⟩

/-- All that playing a playbook can see or change, the outcomes apart. -/
structure Stage (τ : Type) where
  browser : Browser
  rules : List (Rule τ)
  /-- The texts of elements by selector; an element may have none. -/
  texts : List (Text × Option Text)
  /-- The text of all other elements. -/
  text : Option Text
  clock : τ
  /-- Whether the run is cancelled, if it can be. -/
  cancelled : Option Bool
  disk : Disk
  /-- What the standard output does about surrogates; the error output takes any text. -/
  console : Text.ErrorHandler
  trace : List (Event τ)
deriving DecidableEq

/-- A part of a play: it changes the stage and ends with a value or a fault. -/
abbrev Play (τ : Type) := ExceptT Fault (StateM (Stage τ))

namespace Play

variable {τ : Type} [TimeScale τ]

/-- End with what a computation without effects ends with. -/
def ofExcept {α : Type} : Except Fault α → Play τ α
  | .ok value => pure value
  | .error fault => throw fault

/-- Note an event. -/
def note (event : Event τ) : Play τ Unit :=
  modify fun stage => { stage with trace := stage.trace ++ [event] }

/-- Print a line to the standard output. -/
def printOut (line : Text) : Play τ Unit := do
  match line.encode (← get).console with
  | .ok _ => note (.out (line ++ "\n"))
  | .error fault => throw (.encoding fault)

/-- Print a line to the error output. -/
def printErr (line : Text) : Play τ Unit := note (.err (line ++ "\n"))

/-- Let time pass, up to a limit; no time passes for a delay that is not positive. -/
def pass (limit : Option τ) (delay : τ) : Play τ Unit := do
  if TimeScale.before TimeScale.none delay then
    let arrival := (← get).clock + delay
    match limit with
    | none => modify fun stage => { stage with clock := arrival }
    | some limit =>
        if TimeScale.before arrival limit then
          modify fun stage => { stage with clock := arrival }
        else
          modify fun stage => { stage with clock := limit }
          throw .timedOut

/-- Dismiss a dialog that opened, and tell of it. -/
def dismiss (type message : Text) : Play τ Unit := do
  printErr ("[session] Dismissing " ++ type ++ " dialog: " ++ message)
  note (.call .dismiss)

/-- Cancel the run, if it can be. -/
def cancel : Play τ Unit :=
  modify fun stage => { stage with cancelled := stage.cancelled.map fun _ => true }

/-- Let happen what a rule says. -/
def obey (limit : Option τ) (rule : Rule τ) : Play τ Unit := do
  match rule.dialog with
  | some (type, message) => dismiss type message
  | none => pure ()
  match rule.delay with
  | some delay => pass limit delay
  | none => pure ()
  if rule.cancels then cancel
  match rule.fault with
  | some fault => throw fault
  | none => pure ()

/-- Call the browser; the rule that applied is what the browser answers. -/
def call (limit : Option τ) (call : Call τ) : Play τ (Option (Rule τ)) := do
  note (.call call)
  match Rule.pick call (← get).rules with
  | none => return none
  | some (rule, rules) =>
      modify fun stage => { stage with rules := rules }
      obey limit rule
      return some rule

/-- Write a file. -/
def writeFile (path : Text) (content : List UInt8) : Play τ Unit := do
  match (← get).disk.write path content with
  | .ok disk => modify fun stage => { stage with disk := disk }
  | .error fault => throw (.disk fault)

/-- Write a text file. The file is emptied before the text is encoded, and stays empty if the text cannot
be. -/
def writeText (path text : Text) : Play τ Unit :=
  match text.encode .strict with
  | .ok octets => writeFile path octets
  | .error fault => do
      writeFile path []
      throw (.encoding fault)

end Play

end Playbook
