import Playbook.Disk
import Playbook.Text.Encoding

/-! # Reading lines as they are needed

A reader takes octets from a medium in chunks, decodes them and hands out lines. It takes a chunk only
when it holds no complete line, so a file that is written to while it is read shows its new content
from the place that the reader has come to. A fault in a chunk is met before any line of it is handed
out. The end of a file is no lasting state: when the file has grown, the reader goes on.

## Implementation notes

Where carriage returns end lines as well, one that stands last is left open, because a line feed might
follow it, until no more octets follow. -/

namespace Playbook

/-- What octets are taken from. -/
inductive Medium where
  /-- Octets that never change. -/
  | octets (content : List UInt8)
  /-- A file on the disk. -/
  | file (location : Location)
deriving Repr, DecidableEq

/-- The octets of a medium. -/
def Medium.content (disk : Disk) : Medium → List UInt8
  | octets content => content
  | file location => (disk.content? location).getD []

/-- What ends a line. -/
inductive LineEnds where
  /-- A line feed, a carriage return or both together. -/
  | universal
  /-- A line feed. -/
  | lineFeed
deriving Repr, DecidableEq

/-- Decide whether a character is a carriage return that ends lines. -/
def LineEnds.isReturn (ends : LineEnds) (c : CodePoint) : Bool := ends = universal && c = '\r'

/-- How octets are read as lines. -/
structure LineFormat where
  ends : LineEnds
  handler : Text.ErrorHandler
deriving Repr, DecidableEq

/-- The format of files. -/
def LineFormat.file : LineFormat := ⟨.universal, .strict⟩

/-- A reader: its medium and its format, the number of octets taken, the octets held back because they
do not make a character yet, and the text that has not been handed out. -/
structure Reader where
  medium : Medium
  format : LineFormat
  offset : Nat
  held : List UInt8
  text : List CodePoint
deriving Repr, DecidableEq

namespace Reader

/-- A reader at the beginning of a medium. -/
def new (medium : Medium) (format : LineFormat) : Reader := ⟨medium, format, 0, [], []⟩

/-- The greatest number of octets in a chunk. -/
def chunkLimit : Nat := 8192

/-- The next chunk, which is empty at the end. -/
def chunk (disk : Disk) (reader : Reader) : List UInt8 :=
  ((reader.medium.content disk).drop reader.offset).take chunkLimit

/-- Cut a text after its first complete line, which loses its end. -/
def cutLine (ends : LineEnds) : List CodePoint → Option (List CodePoint × List CodePoint)
  | [] => none
  | c :: cs =>
      if c = '\n' then some ([], cs)
      else if ends.isReturn c then
        match cs with
        | [] => none
        | d :: ds => some ([], if d = '\n' then ds else d :: ds)
      else (cutLine ends cs).map fun (line, rest) => (c :: line, rest)

/-- What a reader comes to. -/
inductive Advance where
  /-- A line is handed out. -/
  | line (line : Text) (reader : Reader)
  /-- A chunk was taken, or octets were given up that nothing followed. -/
  | more (reader : Reader)
  /-- Nothing is left. -/
  | done
  /-- The octets are no text. -/
  | broken (fault : Text.Utf8.Fault)
deriving Repr, DecidableEq

/-- Hand out what is left when no octets follow. -/
def finish (reader : Reader) : Advance :=
  match Text.decodeHeld reader.format.handler reader.held with
  | .error fault => .broken fault
  | .ok (c :: cs) => .more { reader with held := [], text := reader.text ++ c :: cs }
  | .ok [] =>
      if reader.text.isEmpty then .done
      else
        let line := reader.text.takeWhile fun c => !reader.format.ends.isReturn c
        .line (Text.ofList line) { reader with text := [] }

/-- Decode a chunk. -/
def take (reader : Reader) (chunk : List UInt8) : Advance :=
  match Text.decodePart reader.format.handler (reader.held ++ chunk) with
  | .error fault => .broken fault
  | .ok (cs, held) =>
      .more
        { reader with offset := reader.offset + chunk.length, held, text := reader.text ++ cs }

/-- Go on by one line or one chunk. -/
def advance (disk : Disk) (reader : Reader) : Advance :=
  match cutLine reader.format.ends reader.text with
  | some (line, rest) => .line (Text.ofList line) { reader with text := rest }
  | none =>
      let chunk := reader.chunk disk
      if chunk.isEmpty then reader.finish else reader.take chunk

/-- The number of times that a reader can go on when its medium never holds more than a number of
octets: every octet is taken once, given up at most once, makes at most one character, and that is
handed out once. -/
def rounds (octets : Nat) : Nat := 3 * octets + 1

end Reader

end Playbook
