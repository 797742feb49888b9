import Playbook.Disk.Path
import Playbook.Text.Encoding
import Playbook.Text.Shown

/-! # The disk

The files and directories that a run can see, named from the working directory. A path is followed
part by part: each part is looked up in a directory that exists, and two dots lead to the directory
above. What lies above the working directory is taken to hold nothing else.

## Implementation notes

A disk knows names by their octets, and a path is encoded before it is followed; stray octets of a name
stand in the path as surrogates. There are no links, and the way from the root to the working directory
is not known: a file that is named both from the root and from the working directory is two files here.
A file that can be opened is written as a whole: no disk runs full and no device fails half-way. -/

namespace Playbook

/-- Why a file cannot be opened. -/
inductive DiskCause where
  | missing | notDirectory | isDirectory | nameTooLong | nulCharacter
  /-- The path cannot be encoded. -/
  | unencodable (fault : Text.EncodingFault)
deriving Repr, DecidableEq

/-- A fault of the disk: its cause and the path as it was asked for. -/
structure DiskFault where
  cause : DiskCause
  path : Text
deriving Repr, DecidableEq

namespace DiskFault

/-- The message of a fault with a number. -/
def numbered (number : Nat) (text path : Text) : Text :=
  "[Errno " ++ toString number ++ "] " ++ text ++ ": " ++ Text.shown path

/-- The message of a fault. -/
def message (fault : DiskFault) : Text :=
  match fault.cause with
  | .missing => numbered 2 "No such file or directory" fault.path
  | .notDirectory => numbered 20 "Not a directory" fault.path
  | .isDirectory => numbered 21 "Is a directory" fault.path
  | .nameTooLong => numbered 36 "File name too long" fault.path
  | .nulCharacter => "embedded null byte"
  | .unencodable fault => fault.message

end DiskFault

/-- A directory that always exists: the root, or one some levels above the working directory. -/
inductive Anchor where
  | root
  | above (levels : Nat)
deriving Repr, DecidableEq

/-- A place on the disk: names to follow down from an anchor. -/
structure Location where
  anchor : Anchor
  names : List (List UInt8)
deriving Repr, DecidableEq

namespace Location

/-- The working directory. -/
def working : Location := ⟨.above 0, []⟩

/-- The place that a path names where no part of it leads up. -/
def ofPath (path : Text) : Location :=
  let path := Path.ofText path
  ⟨if path.root = "" then .above 0 else .root,
    path.parts.map fun part => (part.encode .escape).toOption.getD []⟩

/-- A path that names a place. -/
def path (location : Location) : Text :=
  let names := location.names.map fun name => Text.ofList (Text.Utf8.decode Text.Utf8.escape name)
  match location.anchor with
  | .root => "/" ++ Text.intercalate "/" names
  | .above levels => Text.intercalate "/" (List.replicate levels (Text.ofString "..") ++ names)

/-- The directory above. -/
def parent (location : Location) : Location :=
  match location.names, location.anchor with
  | [], .root => location
  | [], .above levels => ⟨.above (levels + 1), []⟩
  | _ :: _, anchor => ⟨anchor, location.names.dropLast⟩

/-- The place with a name in a directory. -/
def child (location : Location) (name : List UInt8) : Location :=
  { location with names := location.names ++ [name] }

end Location

/-- What stands at a place. -/
inductive Entry where
  | directory
  | file (content : List UInt8)
deriving Repr, DecidableEq

/-- The disk: what stands at the places that have been filled. -/
structure Disk where
  entries : List (Location × Entry)
deriving Repr, DecidableEq

namespace Disk

/-- A disk that holds nothing. -/
def empty : Disk := ⟨[]⟩

/-- What stands at a place; an anchor is a directory. -/
def entry? (disk : Disk) (location : Location) : Option Entry :=
  if location.names.isEmpty then some .directory else disk.entries.lookup location

/-- The content of the file at a place. -/
def content? (disk : Disk) (location : Location) : Option (List UInt8) :=
  match disk.entry? location with
  | some (.file content) => some content
  | _ => none

/-- Put something at a place. -/
def put (disk : Disk) (location : Location) (entry : Entry) : Disk :=
  ⟨(location, entry) :: disk.entries.filter (·.1 ≠ location)⟩

/-- The greatest number of octets in a name. -/
def nameLimit : Nat := 255

/-- The number of octets that no path reaches. -/
def pathLimit : Nat := 4096

/-- The octets of a dot. -/
def dot : List UInt8 := Text.Utf8.encodeChar '.'

/-- The octet of a slash. -/
def slash : UInt8 := 0x2F

/-- Follow one part of a path from a place. -/
def follow (disk : Disk) (location : Location) (part : List UInt8) : Except DiskCause Location :=
  match disk.entry? location with
  | none => .error .missing
  | some (.file _) => .error .notDirectory
  | some .directory =>
      if part = [] || part = dot then .ok location
      else if part = dot ++ dot then .ok location.parent
      else if nameLimit < part.length then .error .nameTooLong
      else .ok (location.child part)

/-- The place that a path names. -/
def locate (disk : Disk) (path : Text) : Except DiskCause Location :=
  match path.encode .escape with
  | .error fault => .error (.unencodable fault)
  | .ok octets =>
      if path.toList.contains '\x00' then .error .nulCharacter
      else if octets = [] then .error .missing
      else if pathLimit ≤ octets.length then .error .nameTooLong
      else
        let start : Location := if octets.head? = some slash then ⟨.root, []⟩ else .working
        (Path.splitAt slash octets).foldlM disk.follow start

/-- The place of the file that a path names. -/
def placeOf (disk : Disk) (path : Text) : Except DiskFault Location :=
  match disk.locate path with
  | .error cause => .error ⟨cause, path⟩
  | .ok location =>
      match disk.entry? location with
      | some (.file _) => .ok location
      | some .directory => .error ⟨.isDirectory, path⟩
      | none => .error ⟨.missing, path⟩

/-- Write the file that a path names, which need not exist yet. -/
def write (disk : Disk) (path : Text) (content : List UInt8) : Except DiskFault Disk :=
  match disk.locate path with
  | .error cause => .error ⟨cause, path⟩
  | .ok location =>
      match disk.entry? location with
      | some .directory => .error ⟨.isDirectory, path⟩
      | _ => .ok (disk.put location (.file content))

/-- Delete the file that a path names. -/
def delete (disk : Disk) (path : Text) : Except DiskFault Disk :=
  match disk.locate path with
  | .error cause => .error ⟨cause, path⟩
  | .ok location =>
      match disk.entry? location with
      | some (.file _) => .ok ⟨disk.entries.filter (·.1 ≠ location)⟩
      | some .directory => .error ⟨.isDirectory, path⟩
      | none => .error ⟨.missing, path⟩

/-- Make a directory, and those above it, whatever stood there. -/
def addDirectory (disk : Disk) (location : Location) : Disk :=
  (List.range location.names.length).foldl
    (fun disk n => disk.put { location with names := location.names.take (n + 1) } .directory) disk

/-- Put a file at a place, and make the directories above it. -/
def addFile (disk : Disk) (location : Location) (content : List UInt8) : Disk :=
  (disk.addDirectory location.parent).put location (.file content)

/-- The files on the disk with their places. -/
def files (disk : Disk) : List (Location × List UInt8) :=
  disk.entries.filterMap fun (location, entry) =>
    match entry with
    | .file content => some (location, content)
    | .directory => none

end Disk

end Playbook
