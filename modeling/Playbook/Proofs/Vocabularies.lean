import Mathlib.Data.List.Forall2
import Mathlib.Data.List.Induction
import Mathlib.Data.List.Nodup
import Playbook.Proofs.Lowering
import Playbook.Vocabulary

/-! # What vocabularies have been told

Vocabularies are made, empty or as copies of others, names are defined in them, and actions are taken
from them and changed afterwards. Whatever is done, a vocabulary stands for the definitions that were
made in it, and before that in the one it is a copy of. A name is defined if one of them is for that
name, without regard to case, and the last of these says what the name stands for.

## Implementation notes

Beside each vocabulary its past is kept, the list of these definitions. What holds of a vocabulary is
said of its past, which knows nothing of terms that are put in the place of others. -/

namespace Playbook

open Text (lower lower_lower)

/-- What is searched from the end is found in a further element first. -/
theorem findRev?_concat {α : Type} (p : α → Bool) (front : List α) (last : α) :
    (front ++ [last]).findRev? p = if p last then some last else front.findRev? p := by
  rw [List.findRev?_eq_find?_reverse, List.findRev?_eq_find?_reverse, List.reverse_append,
    List.reverse_singleton, List.singleton_append, List.find?_cons]
  cases p last <;> rfl

/-- A further name is kept if it is new. -/
theorem eraseDups_concat (names : List Text) (name : Text) :
    (names ++ [name]).eraseDups =
      if name ∈ names then names.eraseDups else names.eraseDups ++ [name] := by
  rw [List.eraseDups_append]
  split <;> simp_all [List.removeAll, List.eraseDups_cons]

theorem nodup_eraseDups (names : List Text) : names.eraseDups.Nodup := by
  induction names using List.reverseRecOn with
  | nil => exact List.nodup_nil
  | append_singleton names name ih =>
      rw [eraseDups_concat]
      split
      · exact ih
      · rename_i hnew
        rw [← List.concat_eq_append]
        exact ih.concat (List.mem_eraseDups.not.mpr hnew)

/-- A definition of a name, or of the name of the kind if no name is given. -/
structure Definition where
  kind : ActionKind
  name : Option Text
  timeout : Text
deriving Repr, DecidableEq

namespace Definition

/-- The name that is meant, as it was written. -/
def given (definition : Definition) : Text :=
  match definition.name with
  | none | some "" => definition.kind.name
  | some name => name

/-- The name that is defined. -/
def key (definition : Definition) : Text := lower definition.given

/-- The term that a definition leads to. -/
def term (definition : Definition) : Term :=
  ⟨definition.key, definition.kind, definition.timeout⟩

theorem definedName_eq_key (definition : Definition) :
    Vocabulary.definedName definition.kind definition.name = definition.key := by
  obtain ⟨kind, name, timeout⟩ := definition
  unfold key given Vocabulary.definedName
  cases name with
  | none => rfl
  | some name =>
      by_cases hname : name = ""
      · subst hname
        rfl
      · dsimp only
        rw [if_neg hname]
        split
        · rename_i heq
          cases heq
        · rename_i heq
          exact absurd (Option.some.inj heq) hname
        · rename_i heq
          rw [Option.some.inj heq]

/-- An action as it comes from a definition: of its kind, with its bound, and told nothing else. -/
structure Makes (definition : Definition) (action : Action) : Prop where
  kind : action.kind = definition.kind
  timeout : action.timeout = definition.timeout
  untold : ∀ slot : Attribute, slot ≠ .timeout → action.get slot = ""

theorem get_blank (kind : ActionKind) (slot : Attribute) : (Deed.blank kind).get slot = "" := by
  cases kind <;> cases slot <;> rfl

theorem makes_action (definition : Definition) : definition.Makes definition.term.action := by
  refine ⟨Action.kind_new _ _, rfl, fun slot hslot => ?_⟩
  cases slot
  case timeout => exact absurd rfl hslot
  all_goals exact get_blank _ _

/-- The terms that definitions lead to, one after another. -/
def terms (definitions : List Definition) : List Term :=
  definitions.foldl (fun terms definition => Vocabulary.insertTerm definition.term terms) []

theorem terms_concat (definitions : List Definition) (definition : Definition) :
    terms (definitions ++ [definition]) =
      Vocabulary.insertTerm definition.term (terms definitions) := by
  rw [terms, List.foldl_append]
  rfl

/-- Under each name the term of the last definition is found. -/
theorem findTerm?_terms (definitions : List Definition) (name : Text) :
    Vocabulary.findTerm? (terms definitions) name =
      (definitions.findRev? (·.key = name)).map term := by
  induction definitions using List.reverseRecOn with
  | nil => rfl
  | append_singleton definitions definition ih =>
      rw [terms_concat, Vocabulary.findTerm?_insertTerm, ih, findRev?_concat]
      by_cases hname : definition.key = name <;> simp [term, hname]

/-- The names come in the order of their first definitions. -/
theorem names_terms (definitions : List Definition) :
    (terms definitions).map (·.name) = (definitions.map key).eraseDups := by
  induction definitions using List.reverseRecOn with
  | nil => rfl
  | append_singleton definitions definition ih =>
      rw [terms_concat, Vocabulary.insertTerm_names, ih, List.map_append, List.map_singleton,
        eraseDups_concat]
      simp only [List.mem_eraseDups]
      rfl

/-- Each term is found under its name. -/
theorem findTerm?_of_mem {definitions : List Definition} {term : Term} (h : term ∈ terms definitions) :
    Vocabulary.findTerm? (terms definitions) term.name = some term := by
  have hdistinct : ((terms definitions).map (·.name)).Nodup :=
    names_terms definitions ▸ nodup_eraseDups _
  cases hfind : Vocabulary.findTerm? (terms definitions) term.name with
  | none => exact absurd (decide_eq_true rfl) (List.find?_eq_none.mp hfind term h)
  | some other =>
      have hname : other.name = term.name := by simpa using List.find?_some hfind
      rw [List.inj_on_of_nodup_map hdistinct (List.mem_of_find?_eq_some hfind) h hname]

end Definition

/-- What matters of all that happened to a vocabulary: whether it is strict, and the definitions that were
made in it, and before that in the one it is a copy of, from the first to the last. -/
structure Past where
  strict : Bool
  definitions : List Definition
deriving Repr, DecidableEq

namespace Past

/-- The last definition for a name, without regard to case. -/
def latest? (past : Past) (name : Text) : Option Definition :=
  past.definitions.findRev? (·.key = lower name)

theorem latest?_isSome_iff {past : Past} {name : Text} :
    (past.latest? name).isSome ↔ ∃ definition ∈ past.definitions, definition.key = lower name := by
  simp [latest?, List.findRev?_eq_find?_reverse]

/-- The vocabulary that comes of a past. -/
def vocabulary (past : Past) : Vocabulary := ⟨past.strict, Definition.terms past.definitions⟩

/-- The built-in names are defined one after another. -/
def builtin : Past where
  strict := false
  definitions :=
    [.load, .click, .type, .submit, .value, .wait, .scroll, .compare, .record, .screenshot, .sleep,
      .debug, .noop].map fun (kind : ActionKind) => ⟨kind, none, kind.ownTimeout⟩

theorem vocabulary_builtin : builtin.vocabulary = Vocabulary.builtin := by decide +kernel

theorem find?_vocabulary (past : Past) (name : Text) :
    past.vocabulary.find? name = (past.latest? name).map Definition.term :=
  Definition.findTerm?_terms past.definitions (lower name)

end Past

/-- A vocabulary does what its past says. -/
structure Vocabulary.Follows (vocabulary : Vocabulary) (past : Past) : Prop where
  contains : ∀ name, vocabulary.contains name = true ↔
    ∃ definition ∈ past.definitions, definition.key = lower name
  /-- The last definition of a name says which actions are taken under it. -/
  defined : ∀ name definition, past.latest? name = some definition →
    ∃ action, vocabulary.action name = .ok action ∧ definition.Makes action
  undefined : ∀ name, past.latest? name = none → vocabulary.action name =
    if past.strict then .error (.unknownAction name) else .ok ⟨.noop, "60s"⟩
  increasing : vocabulary.names.Pairwise (· < ·)
  listed : ∀ name, name ∈ vocabulary.names ↔ ∃ definition ∈ past.definitions, definition.key = name
  /-- What is listed is the name of the definition that it leads to. -/
  own : ∀ name ∈ vocabulary.names, ∃ definition, past.latest? name = some definition ∧
    definition.key = name
  /-- Each name comes once, where it was defined first. -/
  order : vocabulary.terms.map (·.name) = (past.definitions.map Definition.key).eraseDups
  latest : ∀ term ∈ vocabulary.terms, ∃ definition, past.latest? term.name = some definition ∧
    term = definition.term

namespace Past

variable (past : Past)

theorem names_terms : past.vocabulary.terms.map (·.name) =
    (past.definitions.map Definition.key).eraseDups := Definition.names_terms past.definitions

theorem mem_names_iff {name : Text} :
    name ∈ past.vocabulary.names ↔ ∃ definition ∈ past.definitions, definition.key = name := by
  rw [Vocabulary.names, List.mem_mergeSort, names_terms, List.mem_eraseDups, List.mem_map]

theorem names_increasing : past.vocabulary.names.Pairwise (· < ·) := by
  have hordered : past.vocabulary.names.Pairwise fun a b => decide (a ≤ b) = true := by
    apply List.pairwise_mergeSort
    · intro a b c hab hbc
      simp only [decide_eq_true_eq] at *
      exact Text.le_trans hab hbc
    · intro a b
      simpa using Text.le_total a b
  have hdistinct : past.vocabulary.names.Nodup :=
    (List.mergeSort_perm _ _).nodup_iff.mpr (past.names_terms ▸ nodup_eraseDups _)
  refine (hordered.and hdistinct).imp fun ⟨hle, hne⟩ => Text.not_le.mp fun hge => hne ?_
  exact Text.le_antisymm (of_decide_eq_true hle) hge

/-- A name that is defined is in lower case already, so it is its own name. -/
theorem latest?_of_mem {definition : Definition} (h : definition ∈ past.definitions) :
    ∃ last, past.latest? definition.key = some last ∧ last.key = definition.key := by
  have hlower : lower definition.key = definition.key := lower_lower definition.given
  obtain ⟨last, hlast⟩ := Option.isSome_iff_exists.mp
    (latest?_isSome_iff.mpr ⟨definition, h, hlower.symm⟩)
  have hkey : last.key = lower definition.key := by
    rw [latest?, List.findRev?_eq_find?_reverse] at hlast
    simpa using List.find?_some hlast
  exact ⟨last, hlast, hkey.trans hlower⟩

/-- The vocabulary of a past follows it. -/
theorem follows : past.vocabulary.Follows past where
  contains name := by
    rw [Vocabulary.contains, find?_vocabulary, Option.isSome_map, latest?_isSome_iff]
  defined name definition h := by
    refine ⟨definition.term.action, ?_, definition.makes_action⟩
    rw [Vocabulary.action, find?_vocabulary, h]
    rfl
  undefined name h := by
    rw [Vocabulary.action, find?_vocabulary, h]
    rfl
  increasing := past.names_increasing
  listed name := past.mem_names_iff
  own name h := by
    obtain ⟨definition, hmem, rfl⟩ := past.mem_names_iff.mp h
    exact past.latest?_of_mem hmem
  order := past.names_terms
  latest term h := by
    obtain ⟨definition, -, hkey⟩ : ∃ definition ∈ past.definitions, definition.key = term.name := by
      have hname : term.name ∈ past.vocabulary.terms.map (·.name) := List.mem_map_of_mem h
      rwa [names_terms, List.mem_eraseDups, List.mem_map] at hname
    have hfind : past.vocabulary.find? term.name = some term := by
      rw [Vocabulary.find?, ← hkey, Definition.key, lower_lower, ← Definition.key, hkey]
      exact Definition.findTerm?_of_mem h
    rw [find?_vocabulary] at hfind
    obtain ⟨last, hlast, heq⟩ := Option.map_eq_some_iff.mp hfind
    exact ⟨last, hlast, heq.symm⟩

end Past

/-- Why an order is refused. -/
inductive Refusal where
  | definition (fault : VocabularyFault)
  | action (fault : ActionFault)
deriving Repr, DecidableEq

/-- The vocabularies and the actions that are at hand, each known by its place. -/
structure Workshop where
  vocabularies : List Vocabulary
  actions : List Action
deriving Repr, DecidableEq

namespace Workshop

/-- What is done with vocabularies and actions. -/
inductive Order where
  /-- Make a vocabulary without names. -/
  | new (strict : Bool)
  /-- Copy a vocabulary, as strict as it is or as told. -/
  | copy (source : Nat) (strict : Option Bool)
  /-- Define a name in a vocabulary. -/
  | define (target : Nat) (meaning : Meaning) (name : Option Text) (timeout : Text)
  /-- Take an action of a name. -/
  | resolve (source : Nat) (name : Text)
  /-- Set a field of an action that was taken. -/
  | setField (target : Nat) (field value : Text)
deriving Repr, DecidableEq

/-- Carry out an order. One for a place where nothing is does nothing. -/
def carryOut (workshop : Workshop) : Order → Except Refusal Unit × Workshop
  | .new strict => (.ok (), { workshop with vocabularies := workshop.vocabularies ++ [.empty strict] })
  | .copy source strict =>
      match workshop.vocabularies[source]? with
      | none => (.ok (), workshop)
      | some vocabulary =>
          (.ok (), { workshop with
            vocabularies := workshop.vocabularies ++ [vocabulary.withStrict strict] })
  | .define target meaning name timeout =>
      match workshop.vocabularies[target]? with
      | none => (.ok (), workshop)
      | some vocabulary =>
          match vocabulary.define meaning name timeout with
          | .error fault => (.error (.definition fault), workshop)
          | .ok defined =>
              (.ok (), { workshop with vocabularies := workshop.vocabularies.set target defined })
  | .resolve source name =>
      match workshop.vocabularies[source]? with
      | none => (.ok (), workshop)
      | some vocabulary =>
          match vocabulary.action name with
          | .error fault => (.error (.action fault), workshop)
          | .ok action => (.ok (), { workshop with actions := workshop.actions ++ [action] })
  | .setField target field value =>
      match workshop.actions[target]? with
      | none => (.ok (), workshop)
      | some action =>
          match action.withField action.kind.name field value with
          | .error fault => (.error (.action fault), workshop)
          | .ok action => (.ok (), { workshop with actions := workshop.actions.set target action })

/-- The built-in vocabulary is at hand at first. -/
def start : Workshop := ⟨[.builtin], []⟩

/-- The workshop after orders, whatever was refused. -/
def afterAll (workshop : Workshop) (orders : List Order) : Workshop :=
  orders.foldl (fun workshop order => (workshop.carryOut order).2) workshop

end Workshop

namespace Past

open Workshop (Order)

/-- What an order adds to the pasts of the vocabularies: only a definition that can be made adds to the
past of one that is there. -/
def record (pasts : List Past) : Order → List Past
  | .new strict => pasts ++ [⟨strict, []⟩]
  | .copy source strict =>
      match pasts[source]? with
      | none => pasts
      | some past => pasts ++ [⟨strict.getD past.strict, past.definitions⟩]
  | .define target (.actions kind) name timeout =>
      match pasts[target]? with
      | none => pasts
      | some past => pasts.set target ⟨past.strict, past.definitions ++ [⟨kind, name, timeout⟩]⟩
  | .define _ .other _ _ | .resolve _ _ | .setField _ _ _ => pasts

/-- The pasts of the vocabularies after orders. -/
def afterAll (pasts : List Past) (orders : List Order) : List Past := orders.foldl record pasts

variable {past : Past}

theorem withStrict_vocabulary (strict : Option Bool) :
    past.vocabulary.withStrict strict =
      (Past.mk (strict.getD past.strict) past.definitions).vocabulary := rfl

theorem define_vocabulary (kind : ActionKind) (name : Option Text) (timeout : Text) :
    past.vocabulary.define (.actions kind) name timeout =
      .ok (Past.mk past.strict (past.definitions ++ [⟨kind, name, timeout⟩])).vocabulary := by
  have hterm : (⟨Vocabulary.definedName kind name, kind, timeout⟩ : Term) =
      Definition.term ⟨kind, name, timeout⟩ := by
    rw [Definition.term, ← Definition.definedName_eq_key]
  rw [Vocabulary.define, hterm, vocabulary, vocabulary, Definition.terms_concat]

end Past

namespace Workshop

variable {workshop : Workshop} {pasts : List Past}

/-- Each order leaves vocabularies that come of their pasts. -/
theorem vocabularies_carryOut (h : workshop.vocabularies = pasts.map Past.vocabulary) (order : Order) :
    (workshop.carryOut order).2.vocabularies = (Past.record pasts order).map Past.vocabulary := by
  cases order with
  | new strict => simp [carryOut, Past.record, h, Past.vocabulary, Definition.terms, Vocabulary.empty]
  | copy source strict =>
      cases hpast : pasts[source]? with
      | none => simp [carryOut, Past.record, h, hpast]
      | some past => simp [carryOut, Past.record, h, hpast, Past.withStrict_vocabulary]
  | define target meaning name timeout =>
      cases meaning with
      | other =>
          have hsame : ∀ vocabulary : Vocabulary,
              vocabulary.define .other name timeout = .error .notAction := fun _ => rfl
          cases hpast : pasts[target]? <;> simp [carryOut, Past.record, h, hpast, hsame]
      | actions kind =>
          cases hpast : pasts[target]? with
          | none => simp [carryOut, Past.record, h, hpast]
          | some past => simp [carryOut, Past.record, h, hpast, Past.define_vocabulary]
  | resolve source name =>
      have hsame : (workshop.carryOut (.resolve source name)).2.vocabularies =
          workshop.vocabularies := by
        rw [carryOut]
        split
        · rfl
        · split <;> rfl
      rw [hsame, h, Past.record]
  | setField target field value =>
      have hsame : (workshop.carryOut (.setField target field value)).2.vocabularies =
          workshop.vocabularies := by
        rw [carryOut]
        split
        · rfl
        · split <;> rfl
      rw [hsame, h, Past.record]

/-- So all orders do. -/
theorem vocabularies_afterAll (h : workshop.vocabularies = pasts.map Past.vocabulary)
    (orders : List Order) :
    (workshop.afterAll orders).vocabularies = (Past.afterAll pasts orders).map Past.vocabulary := by
  induction orders generalizing workshop pasts with
  | nil => exact h
  | cons order orders ih => exact ih (vocabularies_carryOut h order)

/-- How an order deals with what is at hand. -/
structure Conducts (workshop : Workshop) (order : Order) : Prop where
  /-- What is refused changes nothing. -/
  refused : ∀ fault, (workshop.carryOut order).1 = .error fault → (workshop.carryOut order).2 = workshop
  /-- Whatever is not a kind of actions is refused as a meaning, and nothing else. -/
  meant : ∀ target meaning name timeout vocabulary, order = .define target meaning name timeout →
    workshop.vocabularies[target]? = some vocabulary →
    (workshop.carryOut order).1 =
      if meaning = .other then .error (.definition .notAction) else .ok ()
  /-- An action that is taken is the one that the vocabulary has under the name, and a new one. -/
  taken : ∀ source name vocabulary action, order = .resolve source name →
    workshop.vocabularies[source]? = some vocabulary → vocabulary.action name = .ok action →
    workshop.carryOut order = (.ok (), { workshop with actions := workshop.actions ++ [action] })
  untaken : ∀ source name vocabulary fault, order = .resolve source name →
    workshop.vocabularies[source]? = some vocabulary → vocabulary.action name = .error fault →
    (workshop.carryOut order).1 = .error (.action fault)
  /-- Only setting a field of it changes an action. -/
  kept : ∀ place action, workshop.actions[place]? = some action →
    (∀ field value, order ≠ .setField place field value) →
    (workshop.carryOut order).2.actions[place]? = some action

theorem conducts (workshop : Workshop) (order : Order) : workshop.Conducts order where
  refused fault h := by
    -- each way to carry out an order either succeeds or gives back the workshop
    revert h
    fun_cases carryOut workshop order
    all_goals first | exact fun _ => rfl | exact nofun
  meant target meaning name timeout vocabulary horder hplace := by
    subst horder
    cases meaning <;> simp [carryOut, hplace, Vocabulary.define]
  taken source name vocabulary action horder hplace haction := by
    subst horder
    simp [carryOut, hplace, haction]
  untaken source name vocabulary fault horder hplace haction := by
    subst horder
    simp [carryOut, hplace, haction]
  kept place action hplace horder := by
    cases order with
    | new => exact hplace
    | copy =>
        rw [carryOut]
        split <;> exact hplace
    | define =>
        rw [carryOut]
        split
        · exact hplace
        · split <;> exact hplace
    | resolve =>
        obtain ⟨hbound, -⟩ := List.getElem?_eq_some_iff.mp hplace
        rw [carryOut]
        split
        · exact hplace
        · split
          · exact hplace
          · rw [List.getElem?_append_left hbound, hplace]
    | setField target field value =>
        have hother : target ≠ place := fun heq => horder field value (heq ▸ rfl)
        rw [carryOut]
        split
        · exact hplace
        · split
          · exact hplace
          · rw [List.getElem?_set_ne hother, hplace]

/-- After any orders each vocabulary does what the definitions made in it say, and those made in what it
was copied from, and nothing else that was done plays a part. -/
theorem vocabularies_follow_definitions (orders : List Order) :
    List.Forall₂ Vocabulary.Follows (start.afterAll orders).vocabularies
        (Past.afterAll [Past.builtin] orders) ∧
      ∀ order, (start.afterAll orders).Conducts order := by
  constructor
  · have hstart : start.vocabularies = [Past.builtin].map Past.vocabulary :=
      congrArg (fun vocabulary => [vocabulary]) Past.vocabulary_builtin.symm
    rw [vocabularies_afterAll hstart, List.forall₂_map_left_iff]
    exact List.forall₂_same.mpr fun past _ => past.follows
  · exact conducts _

-- a name that is defined anew in a copy keeps its meaning in the original
example :
    ((start.afterAll [.copy 0 none, .define 1 (.actions .click) (some "LOAD") "5s"]).vocabularies.map
      (·.action "Load")) = [.ok ⟨.load "", "60s"⟩, .ok ⟨.click "", "5s"⟩] := by
  decide +kernel

end Workshop

end Playbook
