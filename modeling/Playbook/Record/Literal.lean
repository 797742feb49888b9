import Playbook.Record

/-! # Records as composite literals

A composite literal is a kind and, between braces, fields separated by commas: a name, a colon and a
text literal. A comma may follow the last field. White space may stand between any two tokens, so a
literal may span lines: a text that ends too early is no fault, it only asks for more.

## Implementation notes

The reader takes one token at a time, so that what it makes of a text stands when more text
follows. -/

namespace Playbook.Record

/-- How far a record has been read. -/
inductive Progress where
  /-- Nothing was read. -/
  | start
  /-- The kind was read; an opening brace is due. -/
  | named (kind : Text)
  /-- Some fields were read; a field name or the closing brace is due. -/
  | listing (kind : Text) (fields : List (Text × Text))
  /-- What stands for a field name was read; a colon is due. -/
  | keyed (kind : Text) (fields : List (Text × Text)) (key : Token)
  /-- A field name and the colon were read; a value is due. -/
  | awaiting (kind : Text) (fields : List (Text × Text)) (name : Text)
  /-- A field was read; a comma or the closing brace is due. -/
  | valued (kind : Text) (fields : List (Text × Text)) (name : Text)
  /-- The closing brace was read; nothing more is due. -/
  | closed (record : Record)
deriving Repr, DecidableEq

/-- Take a token as the value of a field. -/
def Progress.takeValue (kind : Text) (fields : List (Text × Text)) (name : Text)
    (token : Token) : Except RecordFault Progress :=
  if token.kind = .quoted || token.kind = .raw then
    match TextLiteral.decode token.text with
    | .ok value => .ok (.valued kind (fields ++ [(name, value)]) name)
    | .error fault => .error (.value fault)
  else .error (.notText name kind token.text)

/-- Take a token. -/
def Progress.take (progress : Progress) (token : Token) : Except RecordFault Progress :=
  match progress with
  | .start => if token.kind = .identifier then .ok (.named token.text) else .error (.noKind token.text)
  | .named kind =>
      if token.text = "\x7b" then .ok (.listing kind []) else .error (.noBrace kind token.text)
  | .listing kind fields =>
      if token.text = "\x7d" then .ok (.closed ⟨kind, fields⟩)
      else if token.kind = .mark then .error (.strayMark token.text kind)
      else .ok (.keyed kind fields token)
  | .keyed kind fields key =>
      if token.text ≠ ":" then .error (.noFieldName key.text kind)
      else if key.kind ≠ .identifier then .error (.notIdentifier key.text kind)
      else .ok (.awaiting kind fields key.text)
  | .awaiting kind fields name => Progress.takeValue kind fields name token
  | .valued kind fields name =>
      if token.text = "\x7d" then .ok (.closed ⟨kind, fields⟩)
      else if token.text = "," then .ok (.listing kind fields)
      else .error (.noSeparator name kind token.text)
  | .closed record => .error (.trailing token.text record.kind)

/-- The record that was read, if its closing brace was reached. -/
def Progress.record? : Progress → Option Record
  | .closed record => some record
  | _ => none

/-- Read one composite literal. There is no record when the text ends before the closing brace. -/
def ofLiteral (text : Text) : Except RecordFault (Option Record) :=
  match Token.scan text with
  | .error fault => .error (.unterminated fault)
  | .ok tokens => (tokens.foldlM Progress.take .start).map Progress.record?

end Playbook.Record
