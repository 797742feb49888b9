import Playbook.Disk.Path
import Playbook.Given
import Playbook.Record
import Playbook.Text.LowerCase

/-! # Settings

What a run is set up with: defaults, overridden by variables of the environment, and those by flags
of the command line. A flag may override a setting by nothing at all. -/

namespace Playbook

/-- The variables of an environment. -/
abbrev Environment := List (Text × Text)

/-- The settings of a run. -/
structure Settings where
  /-- The file of the playbook; a dash for the standard input. -/
  playbook : Text
  reportPath : Given Text
  /-- Show the browser, and pause before the end of a run that fails. -/
  debug : Bool
  proxy : Given Text
  dialect : Dialect
  /-- Refuse kinds that name no action. -/
  strict : Bool
  diagnostic : Text
deriving Repr, DecidableEq

/-- A variable asks for a dialect that does not exist. -/
structure SettingsFault where
  dialect : Text
deriving Repr, DecidableEq

/-- The message of a fault. -/
def SettingsFault.message (fault : SettingsFault) : Text :=
  "invalid WEBPLAY_SYNTAX " ++ Text.shown fault.dialect ++ " (choose from "
    ++ Text.intercalate ", " (Dialect.all.map Dialect.name) ++ ")"

namespace Settings

/-- The settings where nothing else is said. -/
def default : Settings where
  playbook := "-"
  reportPath := .value "report.xml"
  debug := false
  proxy := .value ""
  dialect := .literal
  strict := false
  diagnostic := "fatal.png"

/-- Decide whether a run hides its browser. -/
def headless (settings : Settings) : Bool := !settings.debug

/-- The name of the suite of a run. -/
def suiteName (settings : Settings) : Text :=
  if settings.playbook = "-" then "stdin" else (Path.ofText settings.playbook).text

/-- The words that switch a variable on, in lower case. -/
def trueWords : List Text := ["1", "true", "yes", "on"]

/-- The word that a variable holds, without blanks around it and in lower case. -/
def word (text : Text) : Text := Text.lower (Text.trim text)

/-- Read a switch. -/
def switch (environment : Environment) (name : Text) (fallback : Bool) : Bool :=
  match environment.lookup name with
  | none => fallback
  | some text => trueWords.contains (word text)

/-- Read a text. -/
def text (environment : Environment) (name fallback : Text) : Text :=
  (environment.lookup name).getD fallback

/-- Read a text that something else may stand for. -/
def given (environment : Environment) (name : Text) (fallback : Given Text) : Given Text :=
  match environment.lookup name with
  | none => fallback
  | some text => .value text

/-- The settings that an environment makes. -/
def ofEnvironment (environment : Environment) : Except SettingsFault Settings :=
  let choice := word (text environment "WEBPLAY_SYNTAX" default.dialect.name)
  match Dialect.ofName? choice with
  | none => .error ⟨choice⟩
  | some dialect =>
      .ok
        { playbook := text environment "WEBPLAY_PLAYBOOK" default.playbook
          reportPath := given environment "WEBPLAY_REPORT" default.reportPath
          debug := switch environment "WEBPLAY_DEBUG" default.debug
          proxy := given environment "WEBPLAY_PROXY" default.proxy
          dialect
          strict := switch environment "WEBPLAY_STRICT" default.strict
          diagnostic := text environment "WEBPLAY_DIAGNOSTIC_SCREENSHOT" default.diagnostic }

end Settings

end Playbook
