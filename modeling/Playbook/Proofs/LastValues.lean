import Playbook.Proofs.Outcome
import Playbook.Proofs.Vocabularies
import Playbook.Step

/-! # The last value of each attribute

A record that makes a step sets the fields of a fresh action in order. Each attribute of the action
comes to hold what the last field says that goes by its name, without regard to case, or what it held in
the fresh action if no field does. So the order of fields matters only among the fields of one attribute.
The first field that names no attribute ends the record. What the fault shows is the action that the
fields before it have made. -/

namespace Playbook

open Text (lower shown)

/-- The fields of a record: names with values. -/
abbrev Fields := List (Text × Text)

namespace Attribute

theorem label_injective {slot other : Attribute} (h : slot.label = other.label) : slot = other := by
  cases slot <;> cases other <;> first | rfl | exact absurd h (by decide)

/-- A field goes by the name of an attribute, without regard to case. -/
def NamedBy (slot : Attribute) (field : Text × Text) : Prop := lower field.1 = slot.label

instance (slot : Attribute) (field : Text × Text) : Decidable (slot.NamedBy field) :=
  inferInstanceAs (Decidable (_ = _))

/-- The value of the last field that goes by the name of an attribute, if there is one. -/
def last? (slot : Attribute) (fields : Fields) : Option Text :=
  (fields.findRev? (slot.NamedBy ·)).map (·.2)

theorem last?_concat (slot : Attribute) (fields : Fields) (field : Text × Text) :
    slot.last? (fields ++ [field]) =
      if slot.NamedBy field then some field.2 else slot.last? fields := by
  unfold last?
  rw [findRev?_concat]
  by_cases h : slot.NamedBy field <;> simp [h]

/-- The last value depends only on the fields of the attribute. -/
theorem last?_congr {slot : Attribute} {fields other : Fields}
    (h : fields.filter (slot.NamedBy ·) = other.filter (slot.NamedBy ·)) :
    slot.last? fields = slot.last? other := by
  unfold last?
  rw [List.findRev?_eq_find?_reverse, List.findRev?_eq_find?_reverse, ← List.getLast?_filter, h,
    List.getLast?_filter]

end Attribute

/-- A field names an attribute of a kind. -/
def ActionKind.HasField (kind : ActionKind) (field : Text × Text) : Prop :=
  lower field.1 ∈ kind.attributes.map Attribute.label

/-- Just these fields can be set. -/
theorem ActionKind.findAttribute?_eq_some_iff {kind : ActionKind} {field : Text × Text}
    {slot : Attribute} :
    kind.findAttribute? field.1 = some slot ↔ slot ∈ kind.attributes ∧ slot.NamedBy field := by
  unfold findAttribute? Attribute.NamedBy
  constructor
  · intro h
    have hname : slot.label = lower field.1 := by simpa using List.find?_some h
    exact ⟨List.mem_of_find?_eq_some h, hname.symm⟩
  · rintro ⟨hslot, hname⟩
    cases hfind : kind.attributes.find? (·.label = lower field.1) with
    | none => exact absurd hname.symm (by simpa using List.find?_eq_none.mp hfind slot hslot)
    | some other =>
        have hother : other.label = lower field.1 := by simpa using List.find?_some hfind
        rw [Attribute.label_injective (hother.trans hname)]

theorem ActionKind.hasField_iff {kind : ActionKind} {field : Text × Text} :
    kind.HasField field ↔ ∃ slot, kind.findAttribute? field.1 = some slot := by
  unfold HasField
  rw [List.mem_map]
  constructor
  · rintro ⟨slot, hslot, hname⟩
    exact ⟨slot, findAttribute?_eq_some_iff.mpr ⟨hslot, hname.symm⟩⟩
  · rintro ⟨slot, h⟩
    obtain ⟨hslot, hname⟩ := findAttribute?_eq_some_iff.mp h
    exact ⟨slot, hslot, hname.symm⟩

namespace Action

variable {fresh action other : Action} {fields : Fields}

/-- An action has taken fields since it was fresh: each of its attributes holds the last value that the
fields have for it, or what it held at first. -/
structure Takes (fresh : Action) (fields : Fields) (action : Action) : Prop where
  kind : action.kind = fresh.kind
  get : ∀ slot ∈ fresh.kind.attributes,
    action.get slot = (slot.last? fields).getD (fresh.get slot)

/-- An action is made of a new one by setting its attributes to what they hold. -/
theorem eq_foldl_set (action : Action) :
    action = action.kind.attributes.foldl (fun made slot => made.set slot (action.get slot))
      (.new action.kind "") := by
  obtain ⟨deed, timeout⟩ := action
  cases deed <;> rfl

/-- So it is determined by its kind and by them. -/
theorem eq_of_get (hkind : action.kind = other.kind)
    (hget : ∀ slot ∈ other.kind.attributes, action.get slot = other.get slot) : action = other := by
  rw [eq_foldl_set action, eq_foldl_set other, hkind]
  apply List.foldl_ext
  intro made slot hslot
  rw [hget slot hslot]

/-- So the fields decide on the action. -/
theorem Takes.unique (h : fresh.Takes fields action) (hother : fresh.Takes fields other) :
    action = other := by
  apply eq_of_get (h.kind.trans hother.kind.symm)
  intro slot hslot
  rw [hother.kind] at hslot
  rw [h.get slot hslot, hother.get slot hslot]

theorem takes_nil (fresh : Action) : fresh.Takes [] fresh := ⟨rfl, fun _ _ => rfl⟩

/-- Setting a field takes it. -/
theorem Takes.set (h : fresh.Takes fields action) {field : Text × Text} {slot : Attribute}
    (hslot : fresh.kind.findAttribute? field.1 = some slot) :
    fresh.Takes (fields ++ [field]) (action.set slot field.2) := by
  obtain ⟨hmem, hname⟩ := ActionKind.findAttribute?_eq_some_iff.mp hslot
  refine ⟨by rw [kind_set, h.kind], fun other hother => ?_⟩
  rw [Attribute.last?_concat]
  by_cases hsame : slot = other
  · subst hsame
    rw [if_pos hname, get_set_self field.2 (h.kind ▸ hmem)]
    rfl
  · have hunnamed : ¬ other.NamedBy field := fun hnamed =>
      hsame (Attribute.label_injective (hname.symm.trans hnamed))
    rw [if_neg hunnamed, get_set_of_ne action field.2 hsame, h.get other hother]

/-- Set fields in order; the written kind is what a fault shows. -/
def withFields (written : Text) (action : Action) (fields : Fields) : Except ActionFault Action :=
  fields.foldlM (fun action field =>
    action.withField (Step.shownKind written action) field.1 field.2) action

/-- Fields that all name attributes are all taken. -/
theorem Takes.withFields (written : Text) {rest : Fields} (h : fresh.Takes fields action)
    (hrest : ∀ field ∈ rest, fresh.kind.HasField field) :
    ∃ made, action.withFields written rest = .ok made ∧ fresh.Takes (fields ++ rest) made := by
  induction rest generalizing fields action with
  | nil => exact ⟨action, rfl, by rwa [List.append_nil]⟩
  | cons field rest ih =>
      obtain ⟨hfield, hrest⟩ := List.forall_mem_cons.mp hrest
      obtain ⟨slot, hslot⟩ := ActionKind.hasField_iff.mp hfield
      obtain ⟨made, hmade, htakes⟩ := ih (h.set hslot) hrest
      refine ⟨made, ?_, by rwa [List.append_assoc, List.singleton_append] at htakes⟩
      rw [Action.withFields, List.foldlM_cons, Action.withField, h.kind, hslot]
      exact hmade

/-- The first field that names no attribute is refused. -/
theorem Takes.withFields_refused (written : Text) {before after : Fields} {field : Text × Text}
    (h : fresh.Takes fields action) (hbefore : ∀ field ∈ before, fresh.kind.HasField field)
    (hfield : ¬ fresh.kind.HasField field) :
    ∃ made, fresh.Takes (fields ++ before) made ∧
      action.withFields written (before ++ field :: after) =
        .error (.unknownField (Step.shownKind written fresh) made field.1 field.2) := by
  obtain ⟨made, hmade, htakes⟩ := h.withFields written hbefore
  have hnone : fresh.kind.findAttribute? field.1 = none :=
    Option.eq_none_iff_forall_ne_some.mpr fun slot hslot =>
      hfield (ActionKind.hasField_iff.mpr ⟨slot, hslot⟩)
  refine ⟨made, htakes, ?_⟩
  rw [Action.withFields] at hmade ⊢
  rw [List.foldlM_append, hmade, ok_bind, List.foldlM_cons, Action.withField, htakes.kind, hnone,
    error_bind, Step.shownKind, Step.shownKind, htakes.kind]

end Action

namespace Step

variable {vocabulary : Vocabulary} {record : Record} {fresh : Action}

theorem ofRecord_eq (h : vocabulary.action record.kind = .ok fresh) :
    ofRecord vocabulary record =
      (fresh.withFields record.kind record.fields).map fun action => ⟨record.kind, action⟩ := by
  rw [ofRecord, h, ok_bind]
  exact bind_ok_eq_map _ _

/-- How the kind of a record is shown in a fault: as it was written, with the name of the action if that
is another one. -/
def label (written : Text) (action : Action) : Text :=
  if lower written = action.kind.name then shown written
  else shown written ++ " (" ++ action.kind.name ++ ")"

/-- What becomes of a record whose kind stands for a fresh action. -/
inductive Made (record : Record) (fresh : Action) : Except ActionFault Step → Prop
  /-- All fields name attributes and are taken. -/
  | made {action} (hknown : ∀ field ∈ record.fields, fresh.kind.HasField field)
      (htakes : fresh.Takes record.fields action) : Made record fresh (.ok ⟨record.kind, action⟩)
  /-- One field does not, and no field before it is like that. -/
  | refused {before name value after action fault}
      (hfields : record.fields = before ++ (name, value) :: after)
      (hknown : ∀ field ∈ before, fresh.kind.HasField field)
      (hstrange : ¬ fresh.kind.HasField (name, value)) (htakes : fresh.Takes before action)
      (hfault : fault = .unknownField (shownKind record.kind fresh) action name value)
      (hmessage : fault.message =
        "Invalid field given for " ++ label (shownKind record.kind fresh) action ++ " action "
          ++ shown action.describe ++ ": " ++ name ++ "=" ++ shown value) :
      Made record fresh (.error fault)

/-- The fields of a record either all name attributes or there is a first one that does not. -/
theorem exists_first_strange (kind : ActionKind) (fields : Fields) :
    (∀ field ∈ fields, kind.HasField field) ∨ ∃ before field after,
      fields = before ++ field :: after ∧ (∀ field ∈ before, kind.HasField field) ∧
        ¬ kind.HasField field := by
  induction fields with
  | nil => exact .inl (by simp)
  | cons field fields ih =>
      by_cases hfield : kind.HasField field
      case neg => exact .inr ⟨[], field, fields, rfl, by simp, hfield⟩
      case pos =>
        rcases ih with hknown | ⟨before, strange, after, rfl, hbefore, hstrange⟩
        · exact .inl (List.forall_mem_cons.mpr ⟨hfield, hknown⟩)
        · exact .inr ⟨field :: before, strange, after, rfl,
            List.forall_mem_cons.mpr ⟨hfield, hbefore⟩, hstrange⟩

/-- A record whose kind stands for an action makes a step with the last value of each attribute, or its
first strange field is refused, and the fields before it show. The action is determined by that, so that
only the order of fields for one attribute counts. -/
theorem ofRecord_takes_last_values (h : vocabulary.action record.kind = .ok fresh) :
    Made record fresh (ofRecord vocabulary record) ∧
      (∀ fields action other, fresh.Takes fields action → fresh.Takes fields other →
        action = other) ∧
      ∀ fields, fields.Perm record.fields →
        (∀ field ∈ record.fields, fresh.kind.HasField field) →
        (∀ slot : Attribute, fields.filter (slot.NamedBy ·) = record.fields.filter (slot.NamedBy ·)) →
        ofRecord vocabulary { record with fields := fields } = ofRecord vocabulary record := by
  refine ⟨?made, fun fields action other => Action.Takes.unique, ?order⟩
  case made =>
    rw [ofRecord_eq h]
    rcases exists_first_strange fresh.kind record.fields with
      hknown | ⟨before, field, after, hfields, hbefore, hstrange⟩
    · obtain ⟨action, haction, htakes⟩ :=
        (Action.takes_nil fresh).withFields record.kind hknown
      rw [haction, map_ok]
      exact .made hknown htakes
    · obtain ⟨action, htakes, haction⟩ :=
        (Action.takes_nil fresh).withFields_refused record.kind hbefore hstrange
      rw [hfields, haction, map_error]
      exact .refused hfields hbefore hstrange htakes rfl rfl
  case order =>
    intro fields hperm hknown hsame
    have hknown' : ∀ field ∈ fields, fresh.kind.HasField field := fun field hfield =>
      hknown field (hperm.mem_iff.mp hfield)
    obtain ⟨action, haction, htakes⟩ := (Action.takes_nil fresh).withFields record.kind hknown
    obtain ⟨other, hother, htakes'⟩ := (Action.takes_nil fresh).withFields record.kind hknown'
    have hlast : fresh.Takes record.fields other := by
      refine ⟨htakes'.kind, fun slot hslot => ?_⟩
      rw [htakes'.get slot hslot, List.nil_append, Attribute.last?_congr (hsame slot)]
    have hmoved : ofRecord vocabulary { record with fields := fields } =
        (fresh.withFields record.kind fields).map fun action => ⟨record.kind, action⟩ :=
      ofRecord_eq h
    rw [hmoved, ofRecord_eq h, haction, hother, htakes.unique hlast]

/-- A record in mixed spelling that tells its selector twice. -/
def wideRecord : Record := ⟨"Type", [("SELECTOR", "#a"), ("Text", "x"), ("selector", "#b")]⟩

/-- The second selector stays. -/
theorem second_selector_stays :
    Vocabulary.builtin.action "Type" = .ok ⟨.type "" "", "60s"⟩ ∧
      Made wideRecord ⟨.type "" "", "60s"⟩ (ofRecord .builtin wideRecord) ∧
      ofRecord .builtin wideRecord = .ok ⟨"Type", ⟨.type "#b" "x", "60s"⟩⟩ := by
  have hfresh : Vocabulary.builtin.action "Type" = .ok ⟨.type "" "", "60s"⟩ := by decide
  exact ⟨hfresh, (ofRecord_takes_last_values hfresh).1, by decide⟩

/-- A record without a kind stands for a noop, and the fault of its first strange field carries the name
of that action and not the empty kind. -/
theorem empty_kind_is_not_carried :
    Vocabulary.builtin.action "" = .ok ⟨.noop, "60s"⟩ ∧
      ofRecord .builtin ⟨"", [("x", "1")]⟩ =
        .error (.unknownField "noop" ⟨.noop, "60s"⟩ "x" "1") ∧
      ofRecord .builtin ⟨"", [("x", "1")]⟩ ≠
        .error (.unknownField "" ⟨.noop, "60s"⟩ "x" "1") := by
  decide

end Step

end Playbook
