import Playbook.Program

/-! # Rehearsals from the command line

The program run from a shell rehearses a playbook: every call to the page succeeds and takes no time.
What the run prints is printed, and the files it writes are written at the end. The standard input ends
its lines at line feeds only, and both streams refuse what is no UTF-8. -/

namespace Playbook.Rehearsal

/-- A text as a string; surrogates are shown by their numbers. -/
def string (text : Text) : String :=
  String.ofList (text.toList.flatMap fun c =>
    match c with
    | .scalar c => [c]
    | .surrogate n => '\\' :: 'u' :: Nat.toDigits 16 (0xD800 + n))

/-- The variables of the environment that settings are made of. -/
def variableNames : List String :=
  ["WEBPLAY_PLAYBOOK", "WEBPLAY_REPORT", "WEBPLAY_DEBUG", "WEBPLAY_PROXY", "WEBPLAY_SYNTAX",
    "WEBPLAY_STRICT", "WEBPLAY_DIAGNOSTIC_SCREENSHOT"]

/-- How the program is called. -/
def usage : String :=
  "usage: webplay" ++ String.join (Flag.all.map fun flag =>
    " [" ++ string (flag.spellings.headD "") ++ (if flag.takesValue then " VALUE" else "") ++ "]")

/-- The environment that the program was given. -/
def environment : IO Environment := do
  let found ← variableNames.mapM fun name => do
    return (← IO.getEnv name).map fun value => (Text.ofString name, Text.ofString value)
  return found.filterMap id

/-- The disk that a run sees: the playbook, and the directory that the report goes to. -/
def disk (settings : Settings) : IO Disk := do
  let start := Disk.empty.addDirectory (Location.ofPath (settings.reportPath.getD "")).parent
  try
    let content ← IO.FS.readBinFile (string settings.playbook)
    return start.addFile (Location.ofPath settings.playbook) content.toList
  catch _ => return start

/-- The standard input, which is read only if it holds the playbook. -/
def input (settings : Settings) : IO StandardInput := do
  let octets ←
    if settings.playbook = "-" then pure (← (← IO.getStdin).readBinToEnd).toList else pure []
  return ⟨octets, .lineFeed, .strict⟩

/-- Print what a run printed. -/
def replay (trace : List (Event Float)) : IO Unit :=
  trace.forM fun event =>
    match event with
    | .out text => IO.print (string text)
    | .err text => IO.eprint (string text)
    | .call _ => return

/-- Write the files that a run has written. -/
def save (before after : Disk) : IO Unit :=
  let old := before.files
  after.files.forM fun (place, content) => do
    if old.lookup place ≠ some content then IO.FS.writeBinFile (string place.path) ⟨content.toArray⟩

/-- Rehearse the playbook that settings name. -/
def rehearse (settings : Settings) : IO UInt32 := do
  let disk ← disk settings
  let start : RunState Float := Program.start settings [] [] (some "") disk .strict
  let (result, last) := (Program.run settings (← input settings)).run.run start
  replay last.stage.trace
  save disk last.stage.disk
  match result with
  | .ok status => return status.toUInt32
  | .error fault =>
      IO.eprintln (string (fault.className ++ ": " ++ fault.message))
      return 1

end Playbook.Rehearsal

/-- Run the program with the words of the command line. -/
def main (words : List String) : IO UInt32 := do
  let environment ← Playbook.Rehearsal.environment
  match Playbook.Program.settings .keep (words.map Playbook.Text.ofString) environment with
  | .ok settings => Playbook.Rehearsal.rehearse settings
  | .error .help =>
      IO.println Playbook.Rehearsal.usage
      return 0
  | .error stop =>
      IO.eprintln Playbook.Rehearsal.usage
      IO.eprintln (Playbook.Rehearsal.string stop.message)
      return stop.status.toUInt32
