import Playbook.Text.Shown
import Playbook.TextLiteral
import Playbook.Token

/-! # Records

A playbook is a sequence of records: a kind and named fields, not yet resolved to an action. Records
are written in one of two dialects, as composite literals or as flat lines of pairs. -/

namespace Playbook

/-- A record: the kind as written, and the fields in order, duplicates kept. -/
structure Record where
  kind : Text
  fields : List (Text × Text)
deriving Repr, DecidableEq

/-- The two ways to write records. -/
inductive Dialect where
  /-- Composite literals, which may span lines. -/
  | literal
  /-- Flat lines of pairs. -/
  | flat
deriving Repr, DecidableEq

namespace Dialect

/-- The name by which settings choose a dialect. -/
def name : Dialect → Text
  | literal => "literal"
  | flat => "logfmt"

/-- All dialects. -/
def all : List Dialect := [literal, flat]

/-- The dialect with a given name. -/
def ofName? (text : Text) : Option Dialect := all.find? (·.name = text)

theorem ofName?_name (dialect : Dialect) : ofName? dialect.name = some dialect := by
  cases dialect <;> decide

end Dialect

/-- Why no record is read from a text. -/
inductive RecordFault where
  /-- A literal is not closed. -/
  | unterminated (fault : Token.Unterminated)
  /-- A value denotes no text. -/
  | value (fault : TextLiteral.Fault)
  /-- A composite literal begins with no kind. -/
  | noKind (found : Text)
  /-- A kind is followed by no opening brace. -/
  | noBrace (kind found : Text)
  /-- A mark stands where a field name is due. -/
  | strayMark (mark kind : Text)
  /-- A field name is followed by no colon. -/
  | noFieldName (key kind : Text)
  /-- A field name is no identifier. -/
  | notIdentifier (key kind : Text)
  /-- A field has a value that is no text. -/
  | notText (key kind found : Text)
  /-- A value is followed neither by a comma nor by a closing brace. -/
  | noSeparator (key kind found : Text)
  /-- Something follows the closing brace. -/
  | trailing (found kind : Text)
  /-- What stands on a flat line after `position` characters is no pair. -/
  | malformedPair (position : Nat) (rest : Text)
  /-- The name of a pair is no identifier. -/
  | invalidName (name : Text) (position : Nat)
  /-- The first pair of a flat line has a value. -/
  | kindWithValue (kind value : Text)
  /-- The playbook ended inside a record. -/
  | unfinished (buffer : Text)
deriving Repr, DecidableEq

namespace RecordFault

open Text (shown)

/-- The number of a column, counted from one. -/
def column (position : Nat) : Text := toString (position + 1)

/-- The message of a fault. -/
def message : RecordFault → Text
  | unterminated fault =>
      fault.delimiter.literalName ++ " not terminated at column " ++ column fault.position
  | value fault => fault.message
  | noKind found =>
      "Invalid definition found, expected kind\x7bfield:\"value\"\x7d, got " ++ shown found
  | noBrace kind found => "expected '\x7b' after " ++ shown kind ++ ", found " ++ shown found
  | strayMark mark kind => "unexpected " ++ shown mark ++ " in " ++ shown kind ++ " record"
  | noFieldName key kind => "No field name given for " ++ key ++ " on type " ++ shown kind
  | notIdentifier key kind =>
      "Field name " ++ key ++ " on type " ++ shown kind ++ " is not an identifier"
  | notText key kind found =>
      "Attribute " ++ shown key ++ " on type " ++ shown kind ++ " is not a string: " ++ found
  | noSeparator key kind found =>
      "expected ',' or '\x7d' after " ++ shown key ++ " on type " ++ shown kind ++ ", found "
        ++ shown found
  | trailing found kind => "unexpected " ++ shown found ++ " after " ++ shown kind ++ " record"
  | malformedPair position rest =>
      "malformed key=value pair at column " ++ column position ++ ": " ++ shown rest
  | invalidName name position =>
      "invalid field name " ++ shown name ++ " at column " ++ column position
  | kindWithValue kind given =>
      "expected an action kind first, found " ++ kind ++ "=" ++ shown given
  | unfinished buffer => "unexpected end of playbook in record " ++ shown buffer

/-- Decide whether a text is no record by its form. -/
def isSyntax : RecordFault → Bool
  | value fault => fault.isSyntax
  | _ => true

end RecordFault

end Playbook
