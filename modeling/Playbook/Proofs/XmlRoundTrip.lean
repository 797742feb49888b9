import Playbook.Proofs.Encodings
import Playbook.Proofs.XmlTags

/-! # Reading documents that were written

A document that was written is read as the element that it was written from, with the white space of
its lines between the elements, if all its characters may stand in a document; otherwise it is not
well-formed. -/

namespace Playbook.Xml

/-- A text with its line ends settled. -/
def settled (text : Text) : Text := Text.ofList (settleEnds false text.toList)

/-- What the white space between the lines of a document is read as. -/
def gap (depth : Nat) : Node := .text (indent depth)

mutual

/-- What an element is read as that was written at some depth. -/
def nodeOf (depth : Nat) : XmlElement → Node
  | .mk tag attributes text [] =>
      .element tag attributes (if text = "" then [] else [.text (settled text)])
  | .mk tag attributes _ (child :: children) =>
      .element tag attributes (nodesOf (depth + 1) (child :: children) ++ [gap depth])

/-- What elements are read as that were written at some depth. -/
def nodesOf (depth : Nat) : List XmlElement → List Node
  | [] => []
  | element :: rest => gap depth :: nodeOf depth element :: nodesOf depth rest

end

theorem name?_nodeOf (depth : Nat) (tag : Text) (attributes : List (Text × Text)) (text : Text)
    (children : List XmlElement) :
    (nodeOf depth (.mk tag attributes text children)).name? = some tag := by
  cases children <;> rw [nodeOf] <;> rfl

theorem attributes_nodeOf (depth : Nat) (tag : Text) (attributes : List (Text × Text))
    (text : Text) (children : List XmlElement) :
    (nodeOf depth (.mk tag attributes text children)).attributes = attributes := by
  cases children <;> rw [nodeOf] <;> rfl

theorem filter_nodesOf (depth : Nat) (elements : List XmlElement) :
    (nodesOf depth elements).filter (·.name?.isSome) = elements.map (nodeOf depth) := by
  induction elements with
  | nil => rfl
  | cons element elements ih =>
      obtain ⟨tag, attributes, text, children⟩ := element
      have hgap : (gap depth).name?.isSome = false := rfl
      have helement : (nodeOf depth (.mk tag attributes text children)).name?.isSome = true := by
        rw [name?_nodeOf]
        rfl
      simp only [nodesOf, List.filter_cons, hgap, helement, ih, List.map_cons, if_true,
        Bool.false_eq_true, if_false]

/-- The elements that are read inside an element are those that were written there. -/
theorem elements_nodeOf (depth : Nat) (tag : Text) (attributes : List (Text × Text))
    (text : Text) (children : List XmlElement) :
    (nodeOf depth (.mk tag attributes text children)).elements =
      children.map (nodeOf (depth + 1)) := by
  cases children with
  | nil =>
      rw [nodeOf]
      split <;> rfl
  | cons child children =>
      rw [nodeOf, Node.elements, List.filter_append, filter_nodesOf]
      exact List.append_nil _

/-- All elements and attributes have names, and the attributes of an element have different ones. -/
inductive AllNamed : XmlElement → Prop
  | mk {tag attributes text children} (h : Named tag attributes)
      (hchildren : ∀ child ∈ children, AllNamed child) :
      AllNamed (.mk tag attributes text children)

/-- Read on after a tag, with its text up to the next tag. -/
def goOn : Progress → List (List CodePoint) → Option Node
  | _, [] => none
  | .done root, text :: parts => if parts.isEmpty && text.all isSpace then some root else none
  | .within frame frames, text :: parts => do readParts ((← frame.addText text) :: frames) parts

theorem readParts_cons (frames : List Frame) (part : List CodePoint) (parts : List (List CodePoint)) :
    readParts frames (part :: parts) = (Tag.read part).bind fun (tag, text) =>
      (tag.apply frames).bind fun progress => goOn progress (text :: parts) := by
  rw [readParts]
  cases Tag.read part with
  | none => rfl
  | some found =>
      obtain ⟨tag, text⟩ := found
      dsimp only [Option.bind_eq_bind, Option.bind_some]
      cases tag.apply frames with
      | none => rfl
      | some progress => cases progress <;> rfl

/-- The parts of a text whose line ends are settled first. -/
def partsOf (cs : List CodePoint) : List (List CodePoint) := split (settleEnds false cs)

/-- A tag that was written is read, whatever follows. -/
theorem readParts_of_read (frames : List Frame) {tag : Tag} {progress : Progress} {cs : List CodePoint}
    (hreturn : .scalar '\r' ∉ cs) (hless : .scalar '<' ∉ cs)
    (hread : ∀ rest, Tag.read (cs ++ rest) = some (tag, rest))
    (happly : tag.apply frames = some progress) (rest : List CodePoint) :
    readParts frames (partsOf (cs ++ rest)) = goOn progress (partsOf rest) := by
  obtain ⟨text, parts, hparts⟩ := exists_split (settleEnds false rest)
  rw [partsOf, settleEnds_append hreturn, split_append hless hparts, readParts_cons, hread, partsOf,
    hparts]
  simp [happly]

/-- A text that was written is added to the open element. -/
theorem goOn_written (frame : Frame) (frames : List Frame) (text rest : List CodePoint) :
    goOn (.within frame frames) (partsOf (text.flatMap textChar ++ .scalar '<' :: rest)) =
      readParts ((if settleEnds false text = [] then frame
        else frame.add (.text (Text.ofList (settleEnds false text)))) :: frames) (partsOf rest) := by
  have hless : .scalar '<' ∉ (settleEnds false text).flatMap textChar :=
    not_mem_flatMap writes_textChar (by simp [StandsInText]) rfl _
  have hnext : split (.scalar '<' :: settleEnds false rest) = [] :: split (settleEnds false rest) := by
    rw [split, if_pos rfl]
  rw [partsOf, settleEnds_written, split_append hless hnext, List.append_nil]
  simp [goOn, Frame.addText, readText_written, partsOf]

theorem readParts_opening {name : Text} {attributes : List (Text × Text)}
    (h : Named name attributes) (frames : List Frame) (rest : List CodePoint) :
    readParts frames (partsOf (tagChars name attributes ++ .scalar '>' :: rest)) =
      goOn (.within ⟨name, attributes, []⟩ frames) (partsOf rest) := by
  have hread (rest : List CodePoint) : Tag.read (tagChars name attributes ++ [.scalar '>'] ++ rest) =
      some (.opening name attributes, rest) := by
    rw [List.append_assoc]
    exact Tag.read_opening h rest
  have hparts := readParts_of_read frames (by simp [not_mem_tagChars h])
    (by simp [not_mem_tagChars h]) hread rfl rest
  rwa [List.append_assoc] at hparts

theorem readParts_single {name : Text} {attributes : List (Text × Text)}
    (h : Named name attributes) (frames : List Frame) (rest : List CodePoint) :
    readParts frames
        (partsOf (tagChars name attributes ++ .scalar ' ' :: .scalar '/' :: .scalar '>' :: rest)) =
      goOn (.close (.element name attributes []) frames) (partsOf rest) := by
  have hread (rest : List CodePoint) :
      Tag.read (tagChars name attributes ++ [.scalar ' ', .scalar '/', .scalar '>'] ++ rest) =
        some (.single name attributes, rest) := by
    rw [List.append_assoc]
    exact Tag.read_single h rest
  have hparts := readParts_of_read frames (by simp [not_mem_tagChars h])
    (by simp [not_mem_tagChars h]) hread rfl rest
  rwa [List.append_assoc] at hparts

theorem readParts_closing (frame : Frame) {attributes : List (Text × Text)}
    (h : Named frame.name attributes) (frames : List Frame) (rest : List CodePoint) :
    readParts (frame :: frames) (partsOf (.scalar '/' :: (frame.name.toList ++ .scalar '>' :: rest))) =
      goOn (.close frame.node frames) (partsOf rest) := by
  have hread (rest : List CodePoint) :
      Tag.read (.scalar '/' :: (frame.name.toList ++ [.scalar '>']) ++ rest) =
        some (.closing frame.name, rest) := by
    rw [List.cons_append, List.append_assoc]
    exact Tag.read_closing h.tag rest
  have hnone {c : CodePoint} (hc : c = '\r' ∨ c = '<') : c ∉ frame.name.toList := fun hmem =>
    not_mem_tagChars h hc (List.mem_append_left _ hmem)
  have hparts := readParts_of_read (frame :: frames) (by simp [hnone]) (by simp [hnone])
    hread (by rw [Tag.apply, if_pos rfl]) rest
  rwa [List.cons_append, List.append_assoc] at hparts

/-- The white space before a line is written as text. -/
theorem indent_toList (depth : Nat) :
    (indent depth).toList = (indent depth).toList.flatMap textChar ∧
      settleEnds false (indent depth).toList = (indent depth).toList := by
  have hspaces (n : Nat) :
      (List.replicate n (.scalar ' ')).flatMap textChar = List.replicate n (.scalar ' ') := by
    induction n with
    | zero => rfl
    | succ n ih => rw [List.replicate_succ, List.flatMap_cons, ih]; rfl
  have hreturn : .scalar '\r' ∉ (indent depth).toList := by simp [indent]
  have hsettled := settleEnds_append hreturn []
  rw [List.append_nil] at hsettled
  refine ⟨?_, hsettled.trans (List.append_nil _)⟩
  simp only [indent, Text.toList_append, List.flatMap_append, hspaces]
  rfl

theorem goOn_indent (frame : Frame) (frames : List Frame) (depth : Nat) (rest : List CodePoint) :
    goOn (.within frame frames) (partsOf ((indent depth).toList ++ .scalar '<' :: rest)) =
      readParts (frame.add (gap depth) :: frames) (partsOf rest) := by
  obtain ⟨hwritten, hsettled⟩ := indent_toList depth
  have hread := goOn_written frame frames (indent depth).toList rest
  rw [← hwritten, hsettled, if_neg (by simp [indent]), Text.ofList_toList] at hread
  exact hread

theorem exists_write (depth : Nat) (element : XmlElement) :
    ∃ cs, (write depth element).toList = .scalar '<' :: cs := by
  obtain ⟨tag, attributes, text, children⟩ := element
  cases children with
  | nil =>
      rw [write]
      split <;> exact ⟨_, by simp; rfl⟩
  | cons child children =>
      rw [write]
      exact ⟨_, by simp; rfl⟩

/-- An element is read back if it is read back as what follows a `<`, whatever comes after it. -/
def ReadsBack (element : XmlElement) : Prop :=
  ∀ depth cs, (write depth element).toList = .scalar '<' :: cs → ∀ frames rest,
    readParts frames (partsOf (cs ++ rest)) = goOn (.close (nodeOf depth element) frames) (partsOf rest)

/-- Elements on lines of their own are read one after another. -/
theorem goOn_writeAll {children : List XmlElement} (h : ∀ child ∈ children, ReadsBack child)
    (depth : Nat) (frame : Frame) (frames : List Frame) (rest : List CodePoint) :
    goOn (.within frame frames) (partsOf ((writeAll depth children).toList ++ rest)) =
      goOn (.within { frame with children := frame.children ++ nodesOf depth children } frames)
        (partsOf rest) := by
  induction children generalizing frame with
  | nil => simp [writeAll, nodesOf]
  | cons child children ih =>
      obtain ⟨hchild, hchildren⟩ := List.forall_mem_cons.mp h
      obtain ⟨cs, hcs⟩ := exists_write depth child
      simp only [writeAll, Text.toList_append, List.append_assoc, hcs, List.cons_append]
      rw [goOn_indent, hchild depth cs hcs, Progress.close, ih hchildren]
      simp [Frame.add, nodesOf]

/-- Every element is read back: an empty one by its only tag, any other one by its opening tag, what is
inside and its closing tag. -/
theorem readsBack_of_allNamed {element : XmlElement} (h : AllNamed element) : ReadsBack element := by
  induction h with
  | @mk tag attributes text children hnamed _ ih =>
      intro depth cs hcs frames rest
      have hclosing (children : List Node) : readParts (⟨tag, attributes, children⟩ :: frames)
          (partsOf (.scalar '/' :: (tag.toList ++ .scalar '>' :: rest))) =
            goOn (.close (.element tag attributes children) frames) (partsOf rest) :=
        readParts_closing ⟨tag, attributes, children⟩ hnamed frames rest
      cases children with
      | nil =>
          rw [write] at hcs
          rw [nodeOf]
          split at hcs
          · rename_i hempty
            obtain rfl : tagChars tag attributes ++ [.scalar ' ', .scalar '/', .scalar '>'] = cs := by
              simpa [tagChars, writeAttributes_toList] using hcs
            rw [List.append_assoc, if_pos hempty]
            exact readParts_single hnamed frames rest
          · rename_i htext
            obtain rfl : tagChars tag attributes ++ .scalar '>' :: (text.toList.flatMap textChar ++
                .scalar '<' :: .scalar '/' :: (tag.toList ++ [.scalar '>'])) = cs := by
              simpa [tagChars, writeAttributes_toList, writeText] using hcs
            have hsettled : settleEnds false text.toList ≠ [] :=
              settleEnds_ne_nil fun hnil => htext (Text.toList_inj.mp hnil)
            simp only [List.append_assoc, List.cons_append, List.nil_append]
            rw [readParts_opening hnamed, goOn_written, if_neg hsettled, if_neg htext]
            exact hclosing _
      | cons child children =>
          obtain rfl : tagChars tag attributes ++ .scalar '>' ::
              ((writeAll (depth + 1) (child :: children)).toList ++
                ((indent depth).toList ++
                  .scalar '<' :: .scalar '/' :: (tag.toList ++ [.scalar '>']))) = cs := by
            rw [write] at hcs
            simpa [tagChars, writeAttributes_toList] using hcs
          simp only [List.append_assoc, List.cons_append, List.nil_append]
          rw [readParts_opening hnamed, goOn_writeAll ih, goOn_indent, nodeOf]
          exact hclosing _

/-- An element holds the values of its attributes, its text if there is one, and what its children
hold. -/
inductive Holds : XmlElement → Text → Prop
  | value {tag attributes text children entry} (h : entry ∈ attributes) :
      Holds (.mk tag attributes text children) entry.2
  | text {tag attributes text} : Holds (.mk tag attributes text []) text
  | child {tag attributes text children child content} (hchild : child ∈ children)
      (h : Holds child content) : Holds (.mk tag attributes text children) content

theorem forall_holds {p : Text → Prop} {tag : Text} {attributes : List (Text × Text)}
    {text : Text} {children : List XmlElement} :
    (∀ content, Holds (.mk tag attributes text children) content → p content) ↔
      (∀ entry ∈ attributes, p entry.2) ∧ (children = [] → p text) ∧
        ∀ child ∈ children, ∀ content, Holds child content → p content := by
  constructor
  · intro h
    refine ⟨fun entry hentry => h _ (.value hentry), ?_,
      fun child hchild content hholds => h _ (.child hchild hholds)⟩
    rintro rfl
    exact h _ .text
  · rintro ⟨hvalue, htext, hchild⟩ content (hentry | _ | ⟨hmem, hholds⟩)
    · exact hvalue _ hentry
    · exact htext rfl
    · exact hchild _ hmem _ hholds

section All

variable {p : CodePoint → Bool} (hp : ∀ c, isChar c = true → p c = true)

include hp

theorem all_indent (depth : Nat) : (indent depth).toList.all p = true := by
  refine all_of_isChar hp ?_
  simp only [indent, Text.toList_append, List.all_append, List.all_replicate]
  split <;> rfl

theorem all_writeAll {q : XmlElement → Prop} {children : List XmlElement}
    (h : ∀ child ∈ children, ∀ depth, (write depth child).toList.all p = true ↔ q child)
    (depth : Nat) :
    (writeAll depth children).toList.all p = true ↔ ∀ child ∈ children, q child := by
  induction children with
  | nil => simp [writeAll]
  | cons child children ih =>
      obtain ⟨hchild, hchildren⟩ := List.forall_mem_cons.mp h
      rw [writeAll, Text.toList_append, Text.toList_append, List.all_append, List.all_append,
        all_indent hp, Bool.true_and, Bool.and_eq_true, hchild, ih hchildren, List.forall_mem_cons]

/-- What is true of all characters that may stand in a document is true of the characters of a written
element if it is true of those that the element holds. -/
theorem all_write {element : XmlElement} (h : AllNamed element) (depth : Nat) :
    (write depth element).toList.all p = true ↔
      ∀ content, Holds element content → content.toList.all p = true := by
  induction h generalizing depth with
  | @mk tag attributes text children hnamed _ ih =>
      have htag := all_tagChars hp hnamed
      have hname : tag.toList.all p = true := all_name hp hnamed.tag
      have hmarks : ("<" : Text).toList.all p = true ∧ (">" : Text).toList.all p = true ∧
          ("</" : Text).toList.all p = true ∧ (" />" : Text).toList.all p = true :=
        ⟨all_of_isChar hp rfl, all_of_isChar hp rfl, all_of_isChar hp rfl, all_of_isChar hp rfl⟩
      have htext : (writeText text).toList.all p = text.toList.all p := by
        simp only [writeText, Text.toList_ofList, List.all_flatMap, all_textChar hp]
      rw [tagChars, List.all_append, hname, Bool.true_and] at htag
      rw [forall_holds, ← htag]
      cases children with
      | nil =>
          rw [write]
          split
          · rename_i hempty
            simp only [Text.toList_append, List.all_append, writeAttributes_toList, hname, hmarks,
              Bool.true_and, Bool.and_true]
            simp [hempty]
          · simp only [Text.toList_append, List.all_append, writeAttributes_toList, hname, hmarks,
              htext, Bool.true_and, Bool.and_true, Bool.and_eq_true]
            simp
      | cons child children =>
          have hall := all_writeAll hp ih (depth + 1)
          rw [write]
          simp only [Text.toList_append, List.all_append, writeAttributes_toList, hname, hmarks,
            all_indent hp, Bool.true_and, Bool.and_true, Bool.and_eq_true, hall]
          simp

theorem all_document {root : XmlElement} (h : AllNamed root) :
    (document root).toList.all p = true ↔
      ∀ content, Holds root content → content.toList.all p = true := by
  have hmarks : declaration.toList.all p = true ∧ ("\n" : Text).toList.all p = true :=
    ⟨all_of_isChar hp (by decide), all_of_isChar hp rfl⟩
  rw [document, Text.toList_append, Text.toList_append, List.all_append, List.all_append,
    hmarks.1, hmarks.2, Bool.true_and, Bool.and_true, all_write hp h]

end All

theorem isScalar_of_onlyChars {text : Text} (h : OnlyChars text) : text.isScalar = true :=
  all_of_isChar isScalar_of_isChar h

/-- A document can be encoded if all that it holds can. -/
theorem isScalar_document {root : XmlElement} (h : AllNamed root) :
    (document root).isScalar = true ↔ ∀ content, Holds root content → content.isScalar = true :=
  all_document isScalar_of_isChar h

/-- A document whose characters may all stand in one is read as its root. -/
theorem read_document {root : XmlElement} (h : AllNamed root) :
    read (document root) =
      if (document root).toList.all isChar then some (nodeOf 0 root) else none := by
  obtain ⟨cs, hcs⟩ := exists_write 0 root
  have hsettled : settleEnds false (document root).toList =
      xmlDeclaration ++ .scalar '\n' :: .scalar '<' :: settleEnds false (cs ++ [.scalar '\n']) := by
    have hreturn : .scalar '\r' ∉ xmlDeclaration ++ [.scalar '\n', .scalar '<'] := by decide
    have hchars : (document root).toList =
        xmlDeclaration ++ [.scalar '\n', .scalar '<'] ++ (cs ++ [.scalar '\n']) := by
      have hopening : declaration.toList = xmlDeclaration ++ [.scalar '\n'] := by decide +kernel
      have hend : ("\n" : Text).toList = [.scalar '\n'] := rfl
      rw [document, Text.toList_append, Text.toList_append, hopening, hcs, hend]
      simp only [List.append_assoc, List.cons_append, List.nil_append]
    rw [hchars, settleEnds_append hreturn, List.append_assoc, List.cons_append, List.cons_append,
      List.nil_append]
  have hroot : readParts [] (partsOf (cs ++ [.scalar '\n'])) = some (nodeOf 0 root) :=
    readsBack_of_allNamed h 0 cs hcs [] [.scalar '\n']
  have hdropped (cs : List CodePoint) : dropDeclaration (xmlDeclaration ++ cs) = cs := by
    rw [dropDeclaration, if_pos (by simp), List.drop_left]
  have hparts : split (.scalar '\n' :: .scalar '<' :: settleEnds false (cs ++ [.scalar '\n'])) =
      [.scalar '\n'] :: partsOf (cs ++ [.scalar '\n']) := rfl
  rw [← all_isChar_settleEnds false, read, hsettled, hdropped, hparts]
  simp [hroot, isSpace]

/-- A document that was written is well-formed if and only if all that it holds may stand in one. -/
theorem wellFormed_document_iff {root : XmlElement} (h : AllNamed root) :
    WellFormed (document root) ↔
      ∀ content, Holds root content → OnlyChars content := by
  rw [WellFormed, read_document h]
  refine Iff.trans ?_ (all_document (fun _ => id) h)
  split <;> simp_all

end Playbook.Xml
