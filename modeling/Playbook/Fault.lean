import Playbook.Disk
import Playbook.Duration
import Playbook.Step
import Playbook.Text.Encoding

/-! # Faults

All that can go wrong while a playbook is read and played, by cause. A fault belongs to a family,
which decides who handles it: faults of the playbook, of the browser and of the system are what a
step may end in, all others pass through every handler. -/

namespace Playbook

/-- Why the octets of a text cannot be decoded: a fault found in them, or one that a page reports. -/
inductive DecodingFault where
  | found (fault : Text.Utf8.Fault)
  | reported (reason : Text)
deriving Repr, DecidableEq

namespace DecodingFault

/-- The words for the reason of a fault. -/
def reasonText : Text.Utf8.Reason → Text
  | .start => "invalid start byte"
  | .continuation => "invalid continuation byte"
  | .cutOff => "unexpected end of data"

/-- Name octets by their place; a single one also by its value. -/
def placeText (position : Nat) : List UInt8 → Text
  | [octet] =>
      "byte 0x" ++ Text.ofList (Text.hexDigits 2 octet.toNat) ++ " in position "
        ++ toString position
  | octets =>
      "bytes in position " ++ toString position ++ "-" ++ toString (position + octets.length - 1)

/-- The message of a fault. -/
def message : DecodingFault → Text
  | found fault =>
      "'utf-8' codec can't decode " ++ placeText fault.position fault.octets ++ ": "
        ++ reasonText fault.reason
  | reported reason => "'utf-8' codec can't decode " ++ placeText 0 [0xFF] ++ ": " ++ reason

end DecodingFault

/-- The faults that a page reports in words of its own. -/
inductive ReportedKind where
  | browser | browserTimeout | timeout | system | missingFile | playbook | duration | value
deriving Repr, DecidableEq

/-- The families of faults. -/
inductive FaultFamily where
  /-- The playbook cannot go on. -/
  | playbook
  /-- The browser refused. -/
  | browser
  /-- A file or the time ran out. -/
  | system
  /-- A defect that nothing handles. -/
  | defect
deriving Repr, DecidableEq

/-- Faults of reading and playing a playbook. -/
inductive Fault where
  /-- No record is read from a text. -/
  | malformed (fault : RecordFault)
  /-- A record makes no action. -/
  | unbuildable (fault : ActionFault)
  /-- The bound of an action is no duration. -/
  | duration (fault : DurationFault)
  /-- The text of an element is not the expected one. -/
  | mismatch (selector text value : Text)
  /-- A step ended in a fault. -/
  | failed (step : Step) (reason : Text) (cause : Fault)
  /-- The run was cancelled before a step. -/
  | cancelled (step : Step)
  /-- The source of a playbook cannot be decoded. -/
  | input (fault : DecodingFault)
  /-- Octets cannot be decoded. -/
  | decoding (fault : DecodingFault)
  /-- A text cannot be encoded. -/
  | encoding (fault : Text.EncodingFault)
  /-- A file cannot be opened. -/
  | disk (fault : DiskFault)
  /-- The bound of an action is exceeded. -/
  | timedOut
  /-- The page is used before one has been opened. -/
  | notStarted
  /-- No dialect has this name. -/
  | unknownDialect (name : Text)
  /-- Nothing is given where a dialect belongs. -/
  | noDialect
  /-- Nothing is given where a path belongs. -/
  | noPath
  /-- A fault that the page reports. -/
  | reported (kind : ReportedKind) (message : Text)
deriving Repr, DecidableEq

/-- A text from which no record is read, or a record that makes no action. -/
def Fault.ofParse : ParseFault → Fault
  | .malformed fault => .malformed fault
  | .unbuildable fault => .unbuildable fault

namespace DiskCause

/-- The name of the class of a cause. -/
def className : DiskCause → Text
  | missing => "FileNotFoundError"
  | notDirectory => "NotADirectoryError"
  | isDirectory => "IsADirectoryError"
  | nameTooLong => "OSError"
  | nulCharacter => "ValueError"
  | unencodable _ => "UnicodeEncodeError"

/-- The family of a cause. -/
def family : DiskCause → FaultFamily
  | nulCharacter | unencodable _ => .defect
  | _ => .system

end DiskCause

namespace ReportedKind

/-- The name of the class of a reported fault. -/
def className : ReportedKind → Text
  | browser => "Error"
  | browserTimeout | timeout => "TimeoutError"
  | system => "OSError"
  | missingFile => "FileNotFoundError"
  | playbook => "PlaybookError"
  | duration => "DurationError"
  | value => "ValueError"

/-- The family of a reported fault. -/
def family : ReportedKind → FaultFamily
  | browser | browserTimeout => .browser
  | timeout | system | missingFile => .system
  | playbook | duration => .playbook
  | value => .defect

end ReportedKind

namespace Fault

open Text (quoted shown)

/-- The message of a fault. -/
def message : Fault → Text
  | malformed fault => fault.message
  | unbuildable fault => fault.message
  | duration fault => fault.message
  | mismatch selector text value =>
      "Selector " ++ quoted selector ++ " value " ++ quoted text ++ " does not match "
        ++ quoted value
  | failed step reason _ => step.action.describe ++ " failed: " ++ reason
  | cancelled step => "run cancelled before " ++ step.action.describe
  | input fault => "playbook is not valid UTF-8: " ++ fault.message
  | decoding fault => fault.message
  | encoding fault => fault.message
  | disk fault => fault.message
  | timedOut => ""
  | notStarted => "Browser not started, use async with"
  | unknownDialect name => shown name ++ " is not a valid Syntax"
  | noDialect => "[] is not a valid Syntax"
  | noPath => "expected str, bytes or os.PathLike object, not list"
  | reported .missingFile message => "[Errno 2] " ++ message
  | reported _ message => message

/-- The name of the class of a fault, as reports give it. -/
def className : Fault → Text
  | malformed fault => if fault.isSyntax then "PlaybookSyntaxError" else "UnicodeEncodeError"
  | unbuildable (.unknownField ..) => "UnknownFieldError"
  | unbuildable (.unknownAction _) => "UnknownActionError"
  | duration _ => "DurationError"
  | mismatch .. => "ComparisonError"
  | failed .. => "ActionFailed"
  | cancelled _ => "RunCancelled"
  | input _ => "PlaybookInputError"
  | decoding _ => "UnicodeDecodeError"
  | encoding _ => "UnicodeEncodeError"
  | disk fault => fault.cause.className
  | timedOut => "TimeoutError"
  | notStarted => "RuntimeError"
  | unknownDialect _ | noDialect => "ValueError"
  | noPath => "TypeError"
  | reported kind _ => kind.className

/-- The family of a fault. -/
def family : Fault → FaultFamily
  | malformed fault => if fault.isSyntax then .playbook else .defect
  | unbuildable _ | duration _ | mismatch .. | failed .. | cancelled _ | input _ => .playbook
  | disk fault => fault.cause.family
  | timedOut => .system
  | reported kind _ => kind.family
  | decoding _ | encoding _ | notStarted | unknownDialect _ | noDialect | noPath => .defect

/-- Decide whether a step may end in a fault; any other is a defect and passes through. -/
def isExpected (fault : Fault) : Bool := fault.family ≠ .defect

end Fault

end Playbook
