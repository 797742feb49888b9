import Playbook.Text.LowerCase
import Playbook.Text.Quoted
import Playbook.Text.Shown

/-! # Actions

An action is a deed on the page together with the duration that bounds it. All that a deed is told is
text: selectors, addresses, values. Fields are set by name without regard to case, and a field that
the deed does not have is refused. -/

namespace Playbook

/-- The kinds of actions. -/
inductive ActionKind where
  | idle | noop | load | click | type | submit | value | wait | scroll | compare | record
  | screenshot | sleep | debug
deriving Repr, DecidableEq

/-- The attributes that actions have. -/
inductive Attribute where
  | timeout | selector | text | value | url | name
deriving Repr, DecidableEq

namespace Attribute

/-- The field name of an attribute. -/
def label : Attribute → Text
  | timeout => "timeout"
  | selector => "selector"
  | text => "text"
  | value => "value"
  | url => "url"
  | name => "name"

end Attribute

namespace ActionKind

/-- The name that records use for a kind. An idle action goes by the same name as a noop. -/
def name : ActionKind → Text
  | idle | noop => "noop"
  | load => "load"
  | click => "click"
  | type => "type"
  | submit => "submit"
  | value => "value"
  | wait => "wait"
  | scroll => "scroll"
  | compare => "compare"
  | record => "record"
  | screenshot => "screenshot"
  | sleep => "sleep"
  | debug => "debug"

/-- The attributes of a kind. -/
def attributes : ActionKind → List Attribute
  | idle | noop | sleep | debug => [.timeout]
  | load => [.timeout, .url]
  | click | submit | wait | scroll | record => [.timeout, .selector]
  | type => [.timeout, .selector, .text]
  | value | compare => [.timeout, .selector, .value]
  | screenshot => [.timeout, .name]

/-- The attribute of a kind that a field name stands for. -/
def findAttribute? (kind : ActionKind) (field : Text) : Option Attribute :=
  kind.attributes.find? (·.label = Text.lower field)

/-- The bound of an action of a kind for which no other is given. -/
def ownTimeout : ActionKind → Text
  | record => "10s"
  | _ => "60s"

end ActionKind

/-- What an action does. -/
inductive Deed where
  /-- Do nothing within the bound. -/
  | idle
  /-- Do nothing. -/
  | noop
  /-- Open an address. -/
  | load (url : Text)
  /-- Click an element. -/
  | click (selector : Text)
  /-- Type a text into an element. -/
  | type (selector text : Text)
  /-- Submit the form of an element. -/
  | submit (selector : Text)
  /-- Set the value of an element. -/
  | value (selector value : Text)
  /-- Wait for an element, or for the whole bound if no element is named. -/
  | wait (selector : Text)
  /-- Scroll an element into view. -/
  | scroll (selector : Text)
  /-- Compare the text of an element without regard to case. -/
  | compare (selector value : Text)
  /-- Print the text of an element. -/
  | record (selector : Text)
  /-- Save a picture of the page under a name. -/
  | screenshot (name : Text)
  /-- Wait for the whole bound. -/
  | sleep
  /-- Save a picture of the page for debugging; failures are only reported. -/
  | debug
deriving Repr, DecidableEq

namespace Deed

/-- The kind of a deed. -/
def kind : Deed → ActionKind
  | idle => .idle
  | noop => .noop
  | load _ => .load
  | click _ => .click
  | type _ _ => .type
  | submit _ => .submit
  | value _ _ => .value
  | wait _ => .wait
  | scroll _ => .scroll
  | compare _ _ => .compare
  | record _ => .record
  | screenshot _ => .screenshot
  | sleep => .sleep
  | debug => .debug

/-- The deed of a kind that has been told nothing. -/
def blank : ActionKind → Deed
  | .idle => idle
  | .noop => noop
  | .load => load ""
  | .click => click ""
  | .type => type "" ""
  | .submit => submit ""
  | .value => value "" ""
  | .wait => wait ""
  | .scroll => scroll ""
  | .compare => compare "" ""
  | .record => record ""
  | .screenshot => screenshot ""
  | .sleep => sleep
  | .debug => debug

@[simp] theorem kind_blank (k : ActionKind) : (blank k).kind = k := by cases k <;> rfl

/-- What a deed was told for an attribute. -/
def get : Deed → Attribute → Text
  | load url, .url => url
  | click selector, .selector | submit selector, .selector | wait selector, .selector
  | scroll selector, .selector | record selector, .selector => selector
  | type selector _, .selector | value selector _, .selector
  | compare selector _, .selector => selector
  | type _ text, .text => text
  | value _ v, .value | compare _ v, .value => v
  | screenshot name, .name => name
  | _, _ => ""

/-- Tell a deed an attribute; one that it does not have is ignored. -/
def set (deed : Deed) (slot : Attribute) (v : Text) : Deed :=
  match deed, slot with
  | load _, .url => load v
  | click _, .selector => click v
  | type _ text, .selector => type v text
  | type selector _, .text => type selector v
  | submit _, .selector => submit v
  | value _ old, .selector => value v old
  | value selector _, .value => value selector v
  | wait _, .selector => wait v
  | scroll _, .selector => scroll v
  | compare _ old, .selector => compare v old
  | compare selector _, .value => compare selector v
  | record _, .selector => record v
  | screenshot _, .name => screenshot v
  | deed, _ => deed

@[simp] theorem kind_set (deed : Deed) (slot : Attribute) (v : Text) :
    (deed.set slot v).kind = deed.kind := by
  cases deed <;> cases slot <;> rfl

/-- The name under which a screenshot is saved when it is given none. -/
def defaultPicture : Text := "screenshot.png"

/-- The name of the picture that a screenshot saves. -/
def pictureName (name : Text) : Text := if name = "" then defaultPicture else name

end Deed

/-- A deed and the duration that bounds it, as text. -/
structure Action where
  deed : Deed
  timeout : Text
deriving Repr, DecidableEq

namespace Action

/-- The kind of an action. -/
def kind (action : Action) : ActionKind := action.deed.kind

/-- A new action of a kind with a given bound. -/
def new (kind : ActionKind) (timeout : Text) : Action := ⟨.blank kind, timeout⟩

@[simp] theorem kind_new (k : ActionKind) (timeout : Text) : (new k timeout).kind = k := by
  simp [new, kind]

/-- What an attribute of an action holds. -/
def get (action : Action) : Attribute → Text
  | .timeout => action.timeout
  | slot => action.deed.get slot

/-- Set an attribute of an action; one that it does not have is ignored. -/
def set (action : Action) (slot : Attribute) (v : Text) : Action :=
  match slot with
  | .timeout => { action with timeout := v }
  | slot => { action with deed := action.deed.set slot v }

@[simp] theorem kind_set (action : Action) (slot : Attribute) (v : Text) :
    (action.set slot v).kind = action.kind := by
  cases slot <;> simp [set, kind]

/-- An attribute that was set holds what it was set to. -/
theorem get_set_self {action : Action} {slot : Attribute} (v : Text)
    (h : slot ∈ action.kind.attributes) : (action.set slot v).get slot = v := by
  obtain ⟨deed, timeout⟩ := action
  cases deed <;> cases slot <;>
    simp_all [kind, Deed.kind, ActionKind.attributes, set, get, Deed.set, Deed.get]

/-- Setting an attribute leaves the others alone. -/
theorem get_set_of_ne {a b : Attribute} (action : Action) (v : Text) (h : a ≠ b) :
    (action.set a v).get b = action.get b := by
  obtain ⟨deed, timeout⟩ := action
  cases deed <;> cases a <;> cases b <;> simp_all [set, get, Deed.set, Deed.get]

/-- The attributes of an action with what they hold. -/
def fields (action : Action) : List (Attribute × Text) :=
  action.kind.attributes.map fun slot => (slot, action.get slot)

open Text (quoted)

/-- The description of an action in reports and messages. -/
def describe (action : Action) : Text :=
  match action.deed with
  | .idle | .noop => "noop"
  | .load url => "load:on:" ++ quoted url
  | .click selector => "click:on:" ++ quoted selector
  | .type selector text => "type:" ++ quoted text ++ ":in:" ++ quoted selector
  | .submit selector => "submit:on:" ++ quoted selector
  | .value selector value => "value:" ++ quoted value ++ ":in:" ++ quoted selector
  | .wait selector => "wait:on:" ++ quoted selector
  | .scroll selector => "scroll:to:" ++ quoted selector
  | .compare selector value => "compare:" ++ quoted value ++ ":to:" ++ quoted selector
  | .record selector => "record:from:" ++ quoted selector
  | .screenshot name => "screenshot:as:" ++ quoted (Deed.pictureName name)
  | .sleep => "sleep:for:" ++ action.timeout
  | .debug => "debug"

end Action

/-- Why a record makes no action. -/
inductive ActionFault where
  /-- The action has no such field. The kind is the one written, the action the one made so far. -/
  | unknownField (kind : Text) (action : Action) (field value : Text)
  /-- No action has this name. -/
  | unknownAction (name : Text)
deriving Repr, DecidableEq

namespace ActionFault

open Text (lower shown)

/-- The message of a fault. A kind that is not the name of its action is shown with that name. -/
def message : ActionFault → Text
  | unknownField kind action field value =>
      let label :=
        if lower kind = action.kind.name then shown kind
        else shown kind ++ " (" ++ action.kind.name ++ ")"
      "Invalid field given for " ++ label ++ " action " ++ shown action.describe ++ ": " ++ field
        ++ "=" ++ shown value
  | unknownAction name => "Unknown action " ++ shown name

end ActionFault

/-- Set a field of an action by name; `kind` is the kind that a fault shows. -/
def Action.withField (kind : Text) (action : Action) (field value : Text) :
    Except ActionFault Action :=
  match action.kind.findAttribute? field with
  | some slot => .ok (action.set slot value)
  | none => .error (.unknownField kind action field value)

end Playbook
