import Mathlib.Data.List.Forall2
import Playbook.Proofs.SuiteTotals
import Playbook.Proofs.XmlRoundTrip

/-! # Reading reports

Whoever reads the report of a suite as an XML document finds the suite: its name, its totals and its
outcomes in order, each failure with its message and its type. Only the line ends of the text of a
failure are settled. -/

namespace Playbook

open Xml (AllNamed Node OnlyChars named_of_names settled)

variable {τ : Type} [TimeScale τ]

namespace Outcome

/-- All characters of an outcome may stand in a document. -/
structure Printable (outcome : Outcome τ) : Prop where
  className : OnlyChars outcome.className
  name : OnlyChars outcome.name
  error : OnlyChars outcome.error
  errorType : OnlyChars outcome.errorType

/-- What is read of a failure: its message and its type, with general words where nothing is known, and
the error as text. -/
structure ShownAsFailure (outcome : Outcome τ) (node : Node) : Prop where
  name : node.name? = some "failure"
  attributes : node.attributes =
    ([("message", if outcome.error = "" then "action failed" else outcome.error),
      ("type", if outcome.errorType = "" then "ActionFailed" else outcome.errorType)] :
        List (Text × Text))
  elements : node.elements = []
  content : node.content = settled outcome.error

/-- What is read of an outcome: there is one element inside if it is a failure, and none otherwise. -/
structure ShownAs (outcome : Outcome τ) (node : Node) : Prop where
  name : node.name? = some "testcase"
  attributes : node.attributes =
    ([("classname", outcome.className), ("name", outcome.name),
      ("time", TimeScale.fixed Xml.places outcome.time)] : List (Text × Text))
  success : outcome.success = true → node.elements = []
  failure : outcome.success = false →
    ∃ failure, node.elements = [failure] ∧ outcome.ShownAsFailure failure

omit [TimeScale τ] in
theorem shownAsFailure (outcome : Outcome τ) (depth : Nat) :
    outcome.ShownAsFailure (Xml.nodeOf depth outcome.failureElement) where
  name := Xml.name?_nodeOf ..
  attributes := Xml.attributes_nodeOf ..
  elements := Xml.elements_nodeOf ..
  content := by
    rw [failureElement, Xml.nodeOf]
    split
    · rename_i hempty
      rw [hempty]
      rfl
    · exact Text.append_empty _

/-- An outcome that was written is read with all that it says. -/
theorem shownAs (outcome : Outcome τ) (depth : Nat) :
    outcome.ShownAs (Xml.nodeOf depth outcome.element) where
  name := Xml.name?_nodeOf ..
  attributes := Xml.attributes_nodeOf ..
  success hsuccess := by rw [element, Xml.elements_nodeOf, if_pos hsuccess, List.map_nil]
  failure hfailure := by
    refine ⟨_, ?_, outcome.shownAsFailure (depth + 1)⟩
    rw [element, Xml.elements_nodeOf, if_neg (by simp [hfailure])]
    rfl

theorem allNamed_element (outcome : Outcome τ) : AllNamed outcome.element := by
  refine .mk (named_of_names ["classname", "name", "time"] rfl (by decide)) fun child hchild => ?_
  split at hchild
  · cases hchild
  · obtain rfl := List.mem_singleton.mp hchild
    exact .mk (named_of_names ["message", "type"] rfl (by decide)) (by simp)

end Outcome

namespace Suite

theorem allNamed_element (suite : Suite τ) : AllNamed suite.element := by
  refine .mk (named_of_names ["name", "tests", "failures", "disabled", "time"] rfl (by decide))
    fun child hchild => ?_
  obtain ⟨outcome, -, rfl⟩ := List.mem_map.mp hchild
  exact outcome.allNamed_element

end Suite

namespace Xml

/-- Times are written with digits, points and signs, or by a word. -/
theorem onlyChars_fixed (places : Nat) (time : Float) : OnlyChars (TimeScale.fixed places time) := by
  have hplaced (places n : Nat) : OnlyChars (Decimal.placed places n) := by
    rw [Decimal.placed]
    split
    · exact onlyChars_repr n
    · have hpadded (text : Text) (h : OnlyChars text) :
          OnlyChars (Decimal.padLeft places '0' text) := by
        rw [OnlyChars, Decimal.padLeft, Text.toList_ofList, List.leftpad, List.all_append, h,
          List.all_replicate]
        split <;> rfl
      rw [onlyChars_append, onlyChars_append]
      exact ⟨⟨onlyChars_repr _, rfl⟩, hpadded _ (onlyChars_repr _)⟩
  show OnlyChars (Decimal.fixedFloat places time)
  rw [Decimal.fixedFloat]
  dsimp only
  split
  · split
    · rfl
    · split <;> rfl
  · rw [Decimal.fixed, onlyChars_append]
    refine ⟨?_, hplaced _ _⟩
    split <;> rfl

end Xml

open Xml (Holds WellFormed forall_holds onlyChars_fixed onlyChars_repr)

section Holds

variable {p : Text → Prop} (hp : ∀ text, OnlyChars text → p text)

include hp

omit [TimeScale τ] in
theorem Outcome.forall_holds_failureElement (outcome : Outcome τ) :
    (∀ content, Holds outcome.failureElement content → p content) ↔
      p outcome.error ∧ p outcome.errorType := by
  have hdefault {text word : Text} (hword : OnlyChars word) :
      p (if text = "" then word else text) ↔ p text := by
    split
    · rename_i hempty
      exact iff_of_true (hp _ hword) (hempty ▸ hp _ rfl)
    · rfl
  have hmessage : OnlyChars "action failed" := rfl
  have htype : OnlyChars "ActionFailed" := rfl
  rw [failureElement, forall_holds]
  simp only [List.forall_mem_cons, hdefault hmessage, hdefault htype]
  simp
  tauto

theorem Outcome.forall_holds_element (outcome : Outcome Float) :
    (∀ content, Holds outcome.element content → p content) ↔
      p outcome.className ∧ p outcome.name ∧
        (outcome.success = false → p outcome.error ∧ p outcome.errorType) := by
  have htime : p (TimeScale.fixed Xml.places outcome.time) := hp _ (onlyChars_fixed ..)
  have hempty : p "" := hp _ rfl
  rw [element, forall_holds]
  cases hsuccess : outcome.success <;>
    simp [htime, hempty, forall_holds_failureElement hp, and_assoc]

/-- What is true of all texts that may stand in a document is true of the texts of a report if it is true
of those of the outcomes. -/
theorem Suite.forall_holds_element (suite : Suite Float) :
    (∀ content, Holds suite.element content → p content) ↔
      p suite.name ∧ ∀ outcome ∈ suite.cases, p outcome.className ∧ p outcome.name ∧
        (outcome.success = false → p outcome.error ∧ p outcome.errorType) := by
  have htime : p (TimeScale.fixed Xml.places suite.time) := hp _ (onlyChars_fixed ..)
  have hnumber (n : Nat) : p n.repr := hp _ (onlyChars_repr n)
  have hempty : p "" := hp _ rfl
  have hzero : p "0" := hp _ rfl
  rw [element, forall_holds]
  simp [htime, hnumber, hempty, hzero, Outcome.forall_holds_element hp]

end Holds

/-- The report of a suite is well-formed if and only if the texts that it tells may stand in a
document. -/
theorem Suite.wellFormed_xml_iff (suite : Suite Float) :
    WellFormed suite.xml ↔
      OnlyChars suite.name ∧ ∀ outcome ∈ suite.cases, OnlyChars outcome.className ∧
        OnlyChars outcome.name ∧
        (outcome.success = false → OnlyChars outcome.error ∧ OnlyChars outcome.errorType) := by
  rw [xml, Xml.wellFormed_document_iff suite.allNamed_element]
  exact suite.forall_holds_element fun _ => id

/-- It can be encoded if and only if these texts can be. -/
theorem Suite.isScalar_xml_iff (suite : Suite Float) :
    suite.xml.isScalar = true ↔
      suite.name.isScalar = true ∧ ∀ outcome ∈ suite.cases, outcome.className.isScalar = true ∧
        outcome.name.isScalar = true ∧
        (outcome.success = false →
          outcome.error.isScalar = true ∧ outcome.errorType.isScalar = true) := by
  rw [xml, Xml.isScalar_document suite.allNamed_element]
  exact suite.forall_holds_element fun _ => Xml.all_of_isChar Xml.isScalar_of_isChar

/-- The report of outcomes whose characters may all stand in a document is read as a suite with its
name and its totals, in which there is one element for each outcome. -/
theorem Suite.read_xml {name : Text} {outcomes : List (Outcome Float)} (hname : OnlyChars name)
    (houtcomes : ∀ outcome ∈ outcomes, outcome.Printable) :
    ∃ root, Xml.read (outcomes.foldl Suite.add (Suite.new name)).xml = some root ∧
      root.name? = some "testsuite" ∧
      root.attributes = ([("name", name), ("tests", toString outcomes.length),
        ("failures", toString (outcomes.countP fun outcome => !outcome.success)),
        ("disabled", "0"),
        ("time", TimeScale.fixed Xml.places (outcomes.foldl Suite.add (Suite.new name)).time)] :
          List (Text × Text)) ∧
      List.Forall₂ Outcome.ShownAs outcomes root.elements := by
  generalize hsuite : outcomes.foldl Suite.add (Suite.new name) = suite
  have htotals : suite.Totals := hsuite ▸ (totals_new name).foldl_add outcomes
  have hcases : suite.cases = outcomes := by
    rw [← hsuite, cases_foldl_add]
    rfl
  have hsame : suite.name = name := by
    rw [← hsuite, name_foldl_add]
    rfl
  have hchars : OnlyChars suite.name ∧ ∀ outcome ∈ suite.cases, OnlyChars outcome.className ∧
      OnlyChars outcome.name ∧
      (outcome.success = false → OnlyChars outcome.error ∧ OnlyChars outcome.errorType) := by
    rw [hsame, hcases]
    refine ⟨hname, fun outcome houtcome => ?_⟩
    have hprintable := houtcomes outcome houtcome
    exact ⟨hprintable.className, hprintable.name, fun _ => ⟨hprintable.error, hprintable.errorType⟩⟩
  have hread : Xml.read suite.xml = some (Xml.nodeOf 0 suite.element) := by
    rw [xml, Xml.read_document suite.allNamed_element,
      if_pos ((Xml.all_document (fun _ => id) suite.allNamed_element).mpr
        ((suite.forall_holds_element fun _ => id).mpr hchars))]
  refine ⟨_, hread, Xml.name?_nodeOf .., ?_, ?_⟩
  · rw [element, Xml.attributes_nodeOf, hsame, htotals.tests, htotals.failures, hcases]
  · rw [element, Xml.elements_nodeOf, hcases, List.map_map, List.forall₂_map_right_iff,
      List.forall₂_same]
    exact fun outcome _ => outcome.shownAs 1

/-- A failure whose texts need care. -/
def strayClick : Outcome Float :=
  ⟨"click", "click:on:\"a < b\"", 0, false, "&amp;\r\n]]> ", ""⟩

/-- Such a failure is read with its texts, but for the line end. -/
theorem Suite.read_xml_of_stray_click :
    OnlyChars "a\tb.txt" ∧ strayClick.Printable ∧
      ∃ root testcase failure,
        Xml.read ([strayClick].foldl Suite.add (Suite.new "a\tb.txt")).xml = some root ∧
        root.attributes.lookup ("name" : Text) = some "a\tb.txt" ∧
        root.elements = [testcase] ∧ testcase.elements = [failure] ∧
        failure.attributes =
          ([("message", "&amp;\r\n]]> "), ("type", "ActionFailed")] : List (Text × Text)) ∧
        failure.content = "&amp;\n]]> " := by
  have hname : OnlyChars "a\tb.txt" := by decide
  have hprintable : strayClick.Printable := ⟨by decide, by decide, by decide, by decide⟩
  have hprintables : ∀ outcome ∈ [strayClick], outcome.Printable := by simpa using hprintable
  obtain ⟨root, hread, -, hattributes, hcases⟩ := Suite.read_xml hname hprintables
  generalize helements : root.elements = elements at hcases
  cases hcases with
  | @cons _ testcase _ rest hshown hrest =>
      cases hrest
      obtain ⟨failure, hinside, hfailure⟩ := hshown.failure rfl
      exact ⟨hname, hprintable, root, testcase, failure, hread, by rw [hattributes]; rfl, helements,
        hinside, hfailure.attributes, hfailure.content⟩

end Playbook
