import Playbook.Record.Flat
import Playbook.Record.Literal
import Playbook.Vocabulary

/-! # Steps

A step is an action together with the kind as the record wrote it. A record makes a step when its
kind names an action and each of its fields, taken in order, is a field of that action. -/

namespace Playbook

/-- A resolved action and the kind it was written as. -/
structure Step where
  name : Text
  action : Action
deriving Repr, DecidableEq

namespace Step

/-- The kind that a fault shows: the one written, or the name of the action if none was. -/
def shownKind (written : Text) (action : Action) : Text :=
  if written = "" then action.kind.name else written

/-- Resolve the kind of a record and set its fields in order. -/
def ofRecord (vocabulary : Vocabulary) (record : Record) : Except ActionFault Step := do
  let action ← vocabulary.action record.kind
  let action ← record.fields.foldlM
    (fun action (field, value) =>
      action.withField (shownKind record.kind action) field value) action
  return ⟨record.kind, action⟩

end Step

/-- Why a text makes no step. -/
inductive ParseFault where
  | malformed (fault : RecordFault)
  | unbuildable (fault : ActionFault)
deriving Repr, DecidableEq

/-- Read a record in a dialect. There is none on a blank line or when more text is needed. -/
def Dialect.read : Dialect → Text → Except RecordFault (Option Record)
  | literal => Record.ofLiteral
  | flat => Record.ofFlat

/-- Read a record and make its step. -/
def Step.parse (vocabulary : Vocabulary) (dialect : Dialect) (text : Text) :
    Except ParseFault (Option Step) :=
  match dialect.read text with
  | .error fault => .error (.malformed fault)
  | .ok none => .ok none
  | .ok (some record) =>
      match Step.ofRecord vocabulary record with
      | .error fault => .error (.unbuildable fault)
      | .ok step => .ok (some step)

end Playbook
