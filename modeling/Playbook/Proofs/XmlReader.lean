import Playbook.Text.Hex
import Playbook.Text.Ranges

/-! # Reading XML documents

A reader for documents of XML 1.0, to say what a document that was written is worth: whether it is
well-formed, and which elements, attributes and texts it has for whoever reads it. Line ends are settled
before all else. As no `<` may stand for itself in a text or a value, the document is then taken apart
before each of them: every part begins with a tag, and text follows up to the next tag.

## Implementation notes

Comments, processing instructions, sections of character data and document types are not read, and the
opening declaration in one form only: a document that has others is refused, and so is one that is not
well-formed. Documents without these are read as XML 1.0 asks for. -/

namespace Playbook.Xml

open Text (Ranges)

/-- The characters that may stand in a document. -/
def charRanges : Ranges :=
  [(0x9, 0xA), (0xD, 0xD), (0x20, 0xD7FF), (0xE000, 0xFFFD), (0x10000, 0x10FFFF)]

/-- Decide whether a character may stand in a document, as itself or by its code. -/
def isChar (c : CodePoint) : Bool := charRanges.contains c.toNat

/-- A text whose characters may all stand in a document. -/
def OnlyChars (text : Text) : Prop := text.toList.all isChar = true

instance (text : Text) : Decidable (OnlyChars text) :=
  inferInstanceAs (Decidable (text.toList.all isChar = true))

/-- Decide whether a character is white space. -/
def isSpace (c : CodePoint) : Bool := c = ' ' || c = '\t' || c = '\n' || c = '\r'

/-- The characters that a name may start with. -/
def nameStartRanges : Ranges :=
  [(0x3A, 0x3A), (0x41, 0x5A), (0x5F, 0x5F), (0x61, 0x7A), (0xC0, 0xD6), (0xD8, 0xF6),
    (0xF8, 0x2FF), (0x370, 0x37D), (0x37F, 0x1FFF), (0x200C, 0x200D), (0x2070, 0x218F),
    (0x2C00, 0x2FEF), (0x3001, 0xD7FF), (0xF900, 0xFDCF), (0xFDF0, 0xFFFD), (0x10000, 0xEFFFF)]

/-- The further characters of names. -/
def namePartRanges : Ranges :=
  [(0x2D, 0x2E), (0x30, 0x39), (0xB7, 0xB7), (0x300, 0x36F), (0x203F, 0x2040)]

/-- Decide whether a character may stand at the start of a name. -/
def startsName (c : CodePoint) : Bool := nameStartRanges.contains c.toNat

/-- Decide whether a character may stand in a name. -/
def continuesName (c : CodePoint) : Bool := startsName c || namePartRanges.contains c.toNat

/-- Decide whether characters make a name. -/
def isName : List CodePoint → Bool
  | [] => false
  | c :: cs => startsName c && cs.all continuesName

/-- Settle the line ends: a carriage return, alone or with a line feed after it, becomes a line feed. It
is told whether a carriage return came just before. -/
def settleEnds : Bool → List CodePoint → List CodePoint
  | _, [] => []
  | returned, c :: cs =>
      if c = '\r' then '\n' :: settleEnds true cs
      else if c = '\n' && returned then settleEnds false cs
      else c :: settleEnds false cs

/-- The number that digits denote in a base of at most sixteen. -/
def number? (base : Nat) : List CodePoint → Option Nat
  | [] => none
  | digits => digits.foldlM (fun n c => do
      let digit ← Text.hexValue? c
      if digit < base then some (base * n + digit) else none) 0

/-- The character with a code, if it may stand in a document. -/
def charWithCode? (code : Nat) : Option CodePoint :=
  let c := Char.ofNat code
  if c.toNat = code && isChar c then some c else none

/-- The character that a reference stands for, which is given without its ampersand and semicolon. -/
def referent? : List CodePoint → Option CodePoint
  | .scalar '#' :: .scalar 'x' :: digits => (number? 16 digits).bind charWithCode?
  | .scalar '#' :: digits => (number? 10 digits).bind charWithCode?
  | ['l', 't'] => some '<'
  | ['g', 't'] => some '>'
  | ['a', 'm', 'p'] => some '&'
  | ['q', 'u', 'o', 't'] => some '"'
  | ['a', 'p', 'o', 's'] => some '\''
  | _ => none

/-- Replace references by the characters that they stand for, and any other character by what it is
read as. The reference that has begun, if one has, is given without its ampersand. -/
def expand (readAs : CodePoint → Option CodePoint) :
    Option (List CodePoint) → List CodePoint → Option (List CodePoint)
  | none, [] => some []
  | some _, [] => none
  | none, c :: cs =>
      if c = '&' then expand readAs (some []) cs
      else do return (← readAs c) :: (← expand readAs none cs)
  | some begun, c :: cs =>
      if c = ';' then do return (← referent? begun) :: (← expand readAs none cs)
      else expand readAs (some (begun ++ [c])) cs

/-- Decide whether the end of a section of character data stands in a text. -/
def endsSection : List CodePoint → Bool
  | .scalar ']' :: .scalar ']' :: .scalar '>' :: _ => true
  | _ :: cs => endsSection cs
  | [] => false

/-- Read text between tags. -/
def readText (cs : List CodePoint) : Option (List CodePoint) :=
  if endsSection cs then none else expand some none cs

/-- What a character of a value is read as when it stands for itself. -/
def valueReadAs (c : CodePoint) : Option CodePoint :=
  if c = '<' then none else if isSpace c then some ' ' else some c

/-- Read the value of an attribute. -/
def readValue (cs : List CodePoint) : Option (List CodePoint) := expand valueReadAs none cs

/-- Read a name. -/
def readName (cs : List CodePoint) : Option (Text × List CodePoint) :=
  if isName (cs.takeWhile continuesName) then
    some (Text.ofList (cs.takeWhile continuesName), cs.dropWhile continuesName)
  else none

/-- Read the sign between the name of an attribute and its value. -/
def readEquals (cs : List CodePoint) : Option (List CodePoint) :=
  match cs.dropWhile isSpace with
  | .scalar '=' :: rest => some (rest.dropWhile isSpace)
  | _ => none

/-- Read a value between quotes of either kind. -/
def readQuoted : List CodePoint → Option (List CodePoint × List CodePoint)
  | [] => none
  | quote :: cs =>
      if quote = '"' || quote = '\'' then
        match cs.dropWhile (· ≠ quote) with
        | _ :: rest => (readValue (cs.takeWhile (· ≠ quote))).map fun value => (value, rest)
        | [] => none
      else none

/-- Read one attribute, which stands after white space. -/
def readAttribute : List CodePoint → Option ((Text × Text) × List CodePoint)
  | [] => none
  | c :: cs =>
      if isSpace c then do
        let (name, rest) ← readName (cs.dropWhile isSpace)
        let (value, rest) ← readQuoted (← readEquals rest)
        return ((name, Text.ofList value), rest)
      else none

theorem length_dropWhile_le (p : CodePoint → Bool) (cs : List CodePoint) :
    (cs.dropWhile p).length ≤ cs.length :=
  (List.dropWhile_sublist p).length_le

theorem readName_length {cs rest : List CodePoint} {name : Text} (h : readName cs = some (name, rest)) :
    rest.length ≤ cs.length := by
  rw [readName] at h
  split at h
  · obtain ⟨-, rfl⟩ := Prod.mk.inj (Option.some.inj h)
    exact length_dropWhile_le _ _
  · cases h

theorem readEquals_length {cs rest : List CodePoint} (h : readEquals cs = some rest) :
    rest.length ≤ cs.length := by
  have hspaces := length_dropWhile_le isSpace cs
  rw [readEquals] at h
  split at h
  · rename_i after hafter
    obtain rfl := Option.some.inj h
    have hmore := length_dropWhile_le isSpace after
    rw [hafter, List.length_cons] at hspaces
    omega
  · cases h

theorem readQuoted_length {cs value rest : List CodePoint} (h : readQuoted cs = some (value, rest)) :
    rest.length ≤ cs.length := by
  cases cs with
  | nil => cases h
  | cons quote cs =>
      have hvalue := length_dropWhile_le (· ≠ quote) cs
      rw [readQuoted] at h
      split at h
      · split at h
        · rename_i hrest
          obtain ⟨_, -, hpair⟩ := Option.map_eq_some_iff.mp h
          obtain ⟨-, rfl⟩ := Prod.mk.inj hpair
          rw [hrest, List.length_cons] at hvalue
          rw [List.length_cons]
          omega
        · cases h
      · cases h

theorem readAttribute_length {cs rest : List CodePoint} {entry : Text × Text}
    (h : readAttribute cs = some (entry, rest)) : rest.length < cs.length := by
  cases cs with
  | nil => cases h
  | cons c cs =>
      rw [readAttribute] at h
      split at h
      · simp only [Option.bind_eq_bind, Option.bind_eq_some_iff, Prod.exists, Option.pure_def,
          Option.some.injEq, Prod.mk.injEq] at h
        obtain ⟨name, afterName, hname, afterEquals, hequals, value, last, hquoted, -, rfl⟩ := h
        have h₁ := length_dropWhile_le isSpace cs
        have h₂ := readName_length hname
        have h₃ := readEquals_length hequals
        have h₄ := readQuoted_length hquoted
        rw [List.length_cons]
        omega
      · cases h

/-- Read attributes as long as there are any: these and what follows. -/
def readAttributes (cs : List CodePoint) : List (Text × Text) × List CodePoint :=
  match _h : readAttribute cs with
  | none => ([], cs)
  | some (entry, rest) =>
      let (attributes, rest) := readAttributes rest
      (entry :: attributes, rest)
termination_by cs.length
decreasing_by exact readAttribute_length ‹_›

/-- The tags. -/
inductive Tag where
  | opening (name : Text) (attributes : List (Text × Text))
  | single (name : Text) (attributes : List (Text × Text))
  | closing (name : Text)
deriving Repr, DecidableEq

/-- Read the end of a tag with attributes. -/
def Tag.readEnd (name : Text) (attributes : List (Text × Text)) (cs : List CodePoint) :
    Option (Tag × List CodePoint) :=
  match cs.dropWhile isSpace with
  | .scalar '>' :: rest => some (.opening name attributes, rest)
  | .scalar '/' :: .scalar '>' :: rest => some (.single name attributes, rest)
  | _ => none

/-- Read a tag that begins after its `<`: the tag and what follows. No attribute may stand twice. -/
def Tag.read : List CodePoint → Option (Tag × List CodePoint)
  | .scalar '/' :: cs => do
      let (name, rest) ← readName cs
      match rest.dropWhile isSpace with
      | .scalar '>' :: rest => some (.closing name, rest)
      | _ => none
  | cs => do
      let (name, rest) ← readName cs
      let (attributes, rest) := readAttributes rest
      if (attributes.map (·.1)).Nodup then readEnd name attributes rest else none

/-- What a document consists of. -/
inductive Node where
  | element (name : Text) (attributes : List (Text × Text)) (children : List Node)
  | text (content : Text)
deriving Repr

namespace Node

/-- The name of an element. -/
def name? : Node → Option Text
  | element name _ _ => some name
  | text _ => none

/-- The attributes of an element. -/
def attributes : Node → List (Text × Text)
  | element _ attributes _ => attributes
  | text _ => []

/-- The elements inside an element. -/
def elements : Node → List Node
  | element _ _ children => children.filter (·.name?.isSome)
  | text _ => []

/-- A text, or the texts that stand directly inside an element. -/
def content : Node → Text
  | element _ _ children => Text.join (children.filterMap fun
      | text content => some content
      | element .. => none)
  | text content => content

end Node

/-- An element that is open, with the children that it has so far. -/
structure Frame where
  name : Text
  attributes : List (Text × Text)
  children : List Node
deriving Repr

namespace Frame

/-- Add a child. -/
def add (frame : Frame) (child : Node) : Frame :=
  { frame with children := frame.children ++ [child] }

/-- Add the text between two tags, if there is any. -/
def addText (frame : Frame) (cs : List CodePoint) : Option Frame := do
  let content ← readText cs
  return if content = [] then frame else frame.add (.text (Text.ofList content))

/-- The element when it is closed. -/
def node (frame : Frame) : Node := .element frame.name frame.attributes frame.children

end Frame

/-- What a document has come to: the innermost open element with those around it, or its root. -/
inductive Progress where
  | within (frame : Frame) (frames : List Frame)
  | done (root : Node)
deriving Repr

/-- Close an element inside others, or the root. -/
def Progress.close (node : Node) : List Frame → Progress
  | [] => done node
  | frame :: frames => within (frame.add node) frames

/-- What a tag does to the elements that are open. -/
def Tag.apply : Tag → List Frame → Option Progress
  | opening name attributes, frames => some (.within ⟨name, attributes, []⟩ frames)
  | single name attributes, frames => some (.close (.element name attributes []) frames)
  | closing _, [] => none
  | closing name, frame :: frames =>
      if frame.name = name then some (.close frame.node frames) else none

/-- Take a text apart before each `<`. -/
def split : List CodePoint → List (List CodePoint)
  | [] => [[]]
  | c :: cs =>
      if c = '<' then [] :: split cs
      else
        match split cs with
        | [] => [[c]]
        | part :: parts => (c :: part) :: parts

/-- Read parts that begin with a tag each until the root is closed. Only white space may follow. -/
def readParts : List Frame → List (List CodePoint) → Option Node
  | _, [] => none
  | frames, part :: parts => do
      let (tag, text) ← Tag.read part
      match ← tag.apply frames with
      | .done root => if parts.isEmpty && text.all isSpace then some root else none
      | .within frame frames => readParts ((← frame.addText text) :: frames) parts

/-- The declaration that may open a document. -/
def xmlDeclaration : List CodePoint := ("<?xml version=\"1.0\" encoding=\"UTF-8\"?>" : Text).toList

/-- Leave out the declaration at the start. -/
def dropDeclaration (cs : List CodePoint) : List CodePoint :=
  if xmlDeclaration.isPrefixOf cs then cs.drop xmlDeclaration.length else cs

/-- Read a document: its root, if it is well-formed. -/
def read (text : Text) : Option Node :=
  let cs := settleEnds false text.toList
  if cs.all isChar then
    match split (dropDeclaration cs) with
    | [] => none
    | before :: parts => if before.all isSpace then readParts [] parts else none
  else none

/-- A text that can be read as a document. -/
def WellFormed (text : Text) : Prop := (read text).isSome = true

instance (text : Text) : Decidable (WellFormed text) :=
  inferInstanceAs (Decidable ((read text).isSome = true))

end Playbook.Xml
