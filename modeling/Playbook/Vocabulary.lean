import Playbook.Action

/-! # Vocabularies

A vocabulary says which names a playbook may use for actions, without regard to case, and which kind
and bound the actions of each name have. Names keep the order in which they were first defined. A
name that is not defined stands for a noop, unless the vocabulary is strict. -/

namespace Playbook

/-- A name and the actions that it stands for. -/
structure Term where
  name : Text
  kind : ActionKind
  timeout : Text
deriving Repr, DecidableEq

/-- A new action of a term. -/
def Term.action (term : Term) : Action := .new term.kind term.timeout

/-- What a name may be defined to stand for: the actions of a kind. Anything else is refused. -/
inductive Meaning where
  | actions (kind : ActionKind)
  | other
deriving Repr, DecidableEq

/-- Why a definition is refused. -/
inductive VocabularyFault where
  | notAction
deriving Repr, DecidableEq

/-- The message of a refusal. -/
def VocabularyFault.message : VocabularyFault → Text
  | notAction => "model must subclass Action"

/-- A vocabulary: whether undefined names are refused, and the terms in order. -/
structure Vocabulary where
  strict : Bool
  terms : List Term
deriving Repr, DecidableEq

namespace Vocabulary

open Text (lower)

/-- The bound of actions for which no other is given. -/
def commonTimeout : Text := "60s"

/-- A vocabulary without names. -/
def empty (strict : Bool) : Vocabulary := ⟨strict, []⟩

/-- Put a term in the place of the one with its name, or at the end. -/
def insertTerm (term : Term) : List Term → List Term
  | [] => [term]
  | old :: rest => if old.name = term.name then term :: rest else old :: insertTerm term rest

/-- The term with a name. -/
def findTerm? (terms : List Term) (name : Text) : Option Term := terms.find? (·.name = name)

/-- After an insertion the inserted term is found under its name, and all others as before. -/
theorem findTerm?_insertTerm (term : Term) (terms : List Term) (name : Text) :
    findTerm? (insertTerm term terms) name =
      if term.name = name then some term else findTerm? terms name := by
  induction terms with
  | nil => simp [insertTerm, findTerm?, List.find?_cons]; split <;> simp_all
  | cons old rest ih =>
      simp only [findTerm?] at ih
      simp only [insertTerm, findTerm?]
      split
      · rename_i hname
        by_cases h : term.name = name
        · simp [h]
        · have : ¬ old.name = name := fun e => h (hname ▸ e)
          simp [h, this]
      · rename_i hname
        by_cases h : old.name = name
        · have : ¬ term.name = name := fun e => hname (h.trans e.symm)
          simp [h, this]
        · simp [h, ih]

/-- An insertion keeps the order of names and adds a new one at the end. -/
theorem insertTerm_names (term : Term) (terms : List Term) :
    (insertTerm term terms).map (·.name) =
      if term.name ∈ terms.map (·.name) then terms.map (·.name)
      else terms.map (·.name) ++ [term.name] := by
  induction terms with
  | nil => simp [insertTerm]
  | cons old rest ih =>
      simp only [insertTerm]
      split
      · rename_i h
        simp [h]
      · rename_i h
        have h' : ¬ term.name = old.name := fun e => h e.symm
        simp only [List.map_cons, ih, List.mem_cons, h', false_or]
        split <;> simp

/-- The name that is defined: the one given, or the name of the kind if none is. -/
def definedName (kind : ActionKind) : Option Text → Text
  | none => lower kind.name
  | some name => if name = "" then lower kind.name else lower name

/-- Define a name. -/
def define (vocabulary : Vocabulary) (meaning : Meaning) (name : Option Text)
    (timeout : Text) : Except VocabularyFault Vocabulary :=
  match meaning with
  | .other => .error .notAction
  | .actions kind =>
      let term : Term := ⟨definedName kind name, kind, timeout⟩
      .ok { vocabulary with terms := insertTerm term vocabulary.terms }

/-- The term that a name stands for. -/
def find? (vocabulary : Vocabulary) (name : Text) : Option Term :=
  findTerm? vocabulary.terms (lower name)

/-- Decide whether a name is defined. -/
def contains (vocabulary : Vocabulary) (name : Text) : Bool := (vocabulary.find? name).isSome

/-- A new action of a name. -/
def action (vocabulary : Vocabulary) (name : Text) : Except ActionFault Action :=
  match vocabulary.find? name with
  | some term => .ok term.action
  | none =>
      if vocabulary.strict then .error (.unknownAction name)
      else .ok (.new .noop commonTimeout)

/-- The defined names in increasing order of their code points. -/
def names (vocabulary : Vocabulary) : List Text :=
  (vocabulary.terms.map (·.name)).mergeSort fun a b => decide (a ≤ b)

/-- The same names with another strictness, or with the same one if none is given. -/
def withStrict (vocabulary : Vocabulary) (strict : Option Bool) : Vocabulary :=
  { vocabulary with strict := strict.getD vocabulary.strict }

/-- The built-in names, each for the kind it names. -/
def builtin : Vocabulary where
  strict := false
  terms :=
    [.load, .click, .type, .submit, .value, .wait, .scroll, .compare, .record, .screenshot, .sleep,
      .debug, .noop].map fun (kind : ActionKind) => ⟨kind.name, kind, kind.ownTimeout⟩

end Vocabulary

end Playbook
