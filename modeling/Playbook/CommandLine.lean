import Playbook.Fault
import Playbook.Settings
import Playbook.Text.Digit

/-! # The command line

The words of a command line are first told apart: flags, perhaps with a value attached, and operands.
A flag may be shortened as long as only one flag fits. After a word of two dashes all words are
operands. Then the flags are taken in order, the last one of a name counting. No operands are
expected.

## Implementation notes

Faults of the first stage come before all others, because every word is told apart before any flag is
taken. A word that looks like a negative number or that holds a space is an operand, unless it is a
flag.

Releases of the option parser differ in one thing. Earlier ones drop two dashes that are attached to a
flag as its value, so that the flag is given nothing; for later ones they are a value like any other. -/

namespace Playbook

/-- The flags. -/
inductive Flag where
  | help | input | debug | proxy | report | dialect | strict
deriving Repr, DecidableEq

namespace Flag

/-- The ways to write a flag in full. -/
def spellings : Flag → List Text
  | help => ["-h", "--help"]
  | input => ["--in"]
  | debug => ["--debug"]
  | proxy => ["--proxy"]
  | report => ["--report"]
  | dialect => ["--syntax"]
  | strict => ["--strict"]

/-- All flags. -/
def all : List Flag := [help, input, debug, proxy, report, dialect, strict]

/-- All flags by the ways to write them. -/
def bySpelling : List (Text × Flag) :=
  all.flatMap fun flag => flag.spellings.map fun spelling => (spelling, flag)

/-- Decide whether a flag has a value. -/
def takesValue : Flag → Bool
  | input | proxy | report | dialect => true
  | help | debug | strict => false

/-- The name of a flag in messages. -/
def title (flag : Flag) : Text := Text.intercalate "/" flag.spellings

end Flag

namespace CommandLine

/-- Why a command line is refused. -/
inductive UsageFault where
  /-- Several flags fit a word. -/
  | ambiguous (word : Text) (spellings : List Text)
  /-- A flag lacks its value. -/
  | missingValue (flag : Flag)
  /-- A value is attached to a flag that has none. -/
  | ignoredValue (flag : Flag) (value : Text)
  /-- No dialect has this name. -/
  | invalidChoice (value : Text)
  /-- Some words mean nothing. -/
  | unrecognized (words : List Text)
  /-- The environment is at fault. -/
  | environment (fault : SettingsFault)
deriving Repr, DecidableEq

namespace UsageFault

open Text (shown)

/-- The message of a fault. -/
def message : UsageFault → Text
  | ambiguous word spellings =>
      "ambiguous option: " ++ word ++ " could match " ++ Text.intercalate ", " spellings
  | missingValue flag => "argument " ++ flag.title ++ ": expected one argument"
  | ignoredValue flag value =>
      "argument " ++ flag.title ++ ": ignored explicit argument " ++ shown value
  | invalidChoice value =>
      "argument " ++ Flag.dialect.title ++ ": invalid choice: " ++ shown value ++ " (choose from "
        ++ Text.intercalate ", " (Dialect.all.map fun dialect => shown dialect.name) ++ ")"
  | unrecognized words => "unrecognized arguments: " ++ Text.intercalate " " words
  | environment fault => fault.message

end UsageFault

/-- Why no run follows a command line. -/
inductive Stop where
  | help
  | usage (fault : UsageFault)
  /-- Something that has to be given is not. -/
  | defect (fault : Fault)
deriving Repr, DecidableEq

namespace Stop

/-- The status that the program ends with. -/
def status : Stop → Nat
  | help => 0
  | usage _ => 2
  | defect _ => 1

/-- The message that the program ends with. -/
def message : Stop → Text
  | help => ""
  | usage fault => "webplay: error: " ++ fault.message
  | defect fault => fault.className ++ ": " ++ fault.message

end Stop

/-- What a word of the command line is. -/
inductive Word where
  /-- A flag, written with one dash or two, and the value attached to it. -/
  | flag (flag : Flag) (short : Bool) (attached : Option Text)
  /-- An operand, or the value of the flag before it. -/
  | operand
  /-- Two dashes. -/
  | separator
  /-- Something that begins like a flag and is none. -/
  | unknown
deriving Repr, DecidableEq

/-- The dash that begins flags. -/
def dash : CodePoint := '-'

/-- A flag that was found, by its full spelling. -/
def flagWord (spelling : Text) (flag : Flag) (attached : Option Text) : Word :=
  .flag flag (spelling.toList[1]? ≠ some dash) attached

/-- Cut a text at its first equals sign. -/
def cutEquals (cs : List CodePoint) : List CodePoint × Option (List CodePoint) :=
  match cs.dropWhile (· ≠ .scalar '=') with
  | [] => (cs, none)
  | _ :: value => (cs.takeWhile (· ≠ .scalar '='), some value)

/-- The flags that a word with two dashes may stand for, by their full spellings. -/
def longCandidates (word : List CodePoint) : List (Text × Word) :=
  let (start, value) := cutEquals word
  let attached := value.map Text.ofList
  (Flag.bySpelling.filter fun (spelling, _) => start.isPrefixOf spelling.toList).map
    fun (spelling, flag) => (spelling, flagWord spelling flag attached)

/-- The flags that a word with one dash may stand for; more words of that kind may be glued to it. -/
def shortCandidates (word : List CodePoint) : List (Text × Word) :=
  Flag.bySpelling.filterMap fun (spelling, flag) =>
    if spelling.toList = word.take 2 then
      some (spelling, flagWord spelling flag (some (Text.ofList (word.drop 2))))
    else if word.isPrefixOf spelling.toList then
      some (spelling, flagWord spelling flag none)
    else none

/-- Decide whether a word is a negative number; a line feed at its end is overlooked. -/
def isNegativeNumber (word : List CodePoint) : Bool :=
  match word with
  | [] => false
  | c :: cs =>
      let body := if cs.getLast? = some '\n' then cs.dropLast else cs
      let whole := body.takeWhile Text.isDigit
      c = dash &&
        match body.dropWhile Text.isDigit with
        | [] => !whole.isEmpty
        | .scalar '.' :: fraction => !fraction.isEmpty && fraction.all Text.isDigit
        | _ => false

/-- Tell a word that begins with a dash apart when it is no flag in full. -/
def classifyDashed (word : Text) : Except UsageFault Word :=
  let cs := word.toList
  let candidates :=
    if cs[1]? = some dash then longCandidates cs else shortCandidates cs
  match candidates with
  | [(_, found)] => .ok found
  | _ :: _ :: _ => .error (.ambiguous word (candidates.map (·.1)))
  | [] => if isNegativeNumber cs || cs.contains ' ' then .ok .operand else .ok .unknown

/-- Tell a word apart that stands before any separator. -/
def classify (word : Text) : Except UsageFault Word :=
  match word.toList with
  | [] => .ok .operand
  | c :: cs =>
      if c ≠ dash then .ok .operand
      else
        match Flag.bySpelling.lookup word with
        | some flag => .ok (flagWord word flag none)
        | none =>
            if cs.isEmpty then .ok .operand
            else
              match cutEquals word.toList with
              | (start, some value) =>
                  match Flag.bySpelling.lookup (Text.ofList start) with
                  | some flag =>
                      .ok (flagWord (Text.ofList start) flag (some (Text.ofList value)))
                  | none => classifyDashed word
              | (_, none) => classifyDashed word

/-- Tell all words apart. -/
def classifyAll : List Text → Except UsageFault (List (Text × Word))
  | [] => .ok []
  | word :: words =>
      if word = "--" then .ok ((word, .separator) :: words.map (·, .operand))
      else do
        let first ← classify word
        let rest ← classifyAll words
        return (word, first) :: rest

/-- What the flags of a command line say. -/
structure Flags where
  playbook : Option (Given Text)
  reportPath : Option (Given Text)
  debug : Bool
  proxy : Option (Given Text)
  dialect : Option (Given Dialect)
  strict : Bool
deriving Repr, DecidableEq

/-- A command line without flags. -/
def Flags.none : Flags := ⟨.none, .none, false, .none, .none, false⟩

/-- Take a flag that has no value. -/
def Flags.switch (flags : Flags) : Flag → Except Stop Flags
  | .help => .error .help
  | .debug => .ok { flags with debug := true }
  | .strict => .ok { flags with strict := true }
  | _ => .ok flags

/-- The dialect that a name gives. -/
def givenDialect : Given Text → Except Stop (Given Dialect)
  | .nothing => .ok .nothing
  | .value name =>
      match Dialect.ofName? name with
      | some dialect => .ok (.value dialect)
      | none => .error (.usage (.invalidChoice name))

/-- Take a flag with what it is given. -/
def Flags.give (flags : Flags) (given : Given Text) : Flag → Except Stop Flags
  | .input => .ok { flags with playbook := some given }
  | .proxy => .ok { flags with proxy := some given }
  | .report => .ok { flags with reportPath := some given }
  | .dialect => (givenDialect given).map fun dialect => { flags with dialect := some dialect }
  | _ => .ok flags

/-- What a release of the option parser makes of two dashes attached to a flag as its value. -/
inductive DashRule where
  /-- They are dropped. -/
  | drop
  /-- They are the value. -/
  | keep
deriving Repr, DecidableEq

/-- What an attached value gives. -/
def givenByAttached (dashes : DashRule) (value : Text) : Given Text :=
  if dashes = .drop && value = "--" then .nothing else .value value

/-- Read what is glued to the short flag for help, which may be that flag again. -/
def gluedToHelp : List CodePoint → Stop
  | [.scalar 'h'] => .help
  | .scalar 'h' :: cs => gluedToHelp cs
  | cs => .usage (.ignoredValue .help (Text.ofList cs))

/-- Take a flag that has no value but has one attached. -/
def attachedToSwitch (flag : Flag) (short : Bool) (value : Text) : Stop :=
  if short then gluedToHelp value.toList else .usage (.ignoredValue flag value)

/-- Take the words in order, keeping those that mean nothing. -/
def take (dashes : DashRule) (flags : Flags) (extras : List Text) :
    List (Text × Word) → Except Stop Flags
  | [] => if extras.isEmpty then .ok flags else .error (.usage (.unrecognized extras))
  | (_, .flag flag short attached) :: rest =>
      if flag.takesValue then
        match attached with
        | some value => do
            take dashes (← flags.give (givenByAttached dashes value) flag) extras rest
        | .none =>
            match rest with
            | (value, .operand) :: rest => do
                take dashes (← flags.give (.value value) flag) extras rest
            | _ => .error (.usage (.missingValue flag))
      else
        match attached with
        | some value => .error (attachedToSwitch flag short value)
        | .none => do take dashes (← flags.switch flag) extras rest
  | (word, _) :: rest => take dashes flags (extras ++ [word]) rest

/-- Read a command line. -/
def parse (dashes : DashRule) (words : List Text) : Except Stop Flags :=
  match classifyAll words with
  | .error fault => .error (.usage fault)
  | .ok words => take dashes .none [] words

/-- Override a setting that has to be given. -/
def override {α : Type} (setting : α) (absent : Fault) : Option (Given α) → Except Fault α
  | none => .ok setting
  | some (.value value) => .ok value
  | some .nothing => .error absent

/-- Override settings by the flags that were given. -/
def Flags.apply (flags : Flags) (settings : Settings) : Except Fault Settings := do
  let dialect ← override settings.dialect .noDialect flags.dialect
  let playbook ← override settings.playbook .noPath flags.playbook
  return { settings with
    playbook
    reportPath := flags.reportPath.getD settings.reportPath
    debug := flags.debug || settings.debug
    proxy := flags.proxy.getD settings.proxy
    dialect
    strict := flags.strict || settings.strict }

end CommandLine

end Playbook
