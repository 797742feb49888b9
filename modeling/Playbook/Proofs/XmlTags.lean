import Playbook.Proofs.Characters
import Playbook.Proofs.XmlReader
import Playbook.Suite.Xml

/-! # Reading texts and tags that were written

What is escaped in texts and values is what a reader would take for something else, so that both are
read back, up to the line ends of texts. A tag is read back whatever follows it, and neither a line end
nor the start of another tag stands inside. -/

namespace Playbook.Xml

/-- Decide whether a character may stand in a written reference. -/
def isReferring : CodePoint → Bool
  | .scalar c => c = '&' || c = ';' || c = '#' || c.isAlphanum
  | .surrogate _ => false

/-- How a character is written: as itself, where some characters may stand for themselves, or by a
reference that stands for it. -/
inductive Writes (p : CodePoint → Prop) : CodePoint → List CodePoint → Prop
  | plain {c} (h : p c) : Writes p c [c]
  | reference {c} (name : List CodePoint) (hname : .scalar ';' ∉ name)
      (hrefers : name.all isReferring = true)
      (hreferent : referent? name = some c) : Writes p c (.scalar '&' :: (name ++ [.scalar ';']))

/-- The characters that stand for themselves in a text. -/
def StandsInText (c : CodePoint) : Prop := c ≠ '&' ∧ c ≠ '<' ∧ c ≠ '>'

/-- The characters that stand for themselves in a value. -/
def StandsInValue (c : CodePoint) : Prop :=
  StandsInText c ∧ c ≠ '"' ∧ c ≠ '\r' ∧ c ≠ '\n' ∧ c ≠ '\t'

theorem writes_textChar (c : CodePoint) : Writes StandsInText c (textChar c) := by
  unfold textChar
  split
  · subst c
    exact .reference ['a', 'm', 'p'] (by decide) rfl rfl
  split
  · subst c
    exact .reference ['l', 't'] (by decide) rfl rfl
  split
  · subst c
    exact .reference ['g', 't'] (by decide) rfl rfl
  · exact .plain ⟨‹_›, ‹_›, ‹_›⟩

theorem writes_valueChar (c : CodePoint) : Writes StandsInValue c (valueChar c) := by
  unfold valueChar
  split
  · subst c
    exact .reference ['q', 'u', 'o', 't'] (by decide) rfl rfl
  split
  · subst c
    exact .reference ['#', '1', '3'] (by decide) rfl (by decide)
  split
  · subst c
    exact .reference ['#', '1', '0'] (by decide) rfl (by decide)
  split
  · subst c
    exact .reference ['#', '0', '9'] (by decide) rfl (by decide)
  · have htext := writes_textChar c
    generalize textChar c = written at htext
    cases htext with
    | plain h => exact .plain ⟨h, ‹_›, ‹_›, ‹_›, ‹_›⟩
    | reference name hname hrefers hreferent => exact .reference name hname hrefers hreferent

section Writes

variable {p : CodePoint → Prop} {write : CodePoint → List CodePoint} (hwrite : ∀ c, Writes p c (write c))

theorem Writes.mem {c d : CodePoint} {cs : List CodePoint} (h : Writes p c cs) (hd : d ∈ cs) :
    p d ∨ isReferring d = true := by
  cases h with
  | plain h => exact .inl (List.mem_singleton.mp hd ▸ h)
  | reference name _ hrefers _ =>
      right
      rcases List.mem_cons.mp hd with rfl | hd
      · rfl
      · rcases List.mem_append.mp hd with hd | hd
        · exact List.all_eq_true.mp hrefers d hd
        · exact List.mem_singleton.mp hd ▸ rfl

include hwrite

/-- What does not stand for itself is not written. -/
theorem not_mem_flatMap {d : CodePoint} (hstands : ¬ p d) (hrefers : isReferring d = false)
    (cs : List CodePoint) : d ∉ cs.flatMap write := by
  intro hd
  obtain ⟨c, -, hd⟩ := List.mem_flatMap.mp hd
  rcases (hwrite c).mem hd with h | h
  · exact hstands h
  · exact Bool.noConfusion (hrefers.symm.trans h)

/-- What was written is read back. -/
theorem expand_flatMap {readAs : CodePoint → Option CodePoint}
    (hread : ∀ c, p c → c ≠ '&' ∧ readAs c = some c) (cs : List CodePoint) :
    expand readAs none (cs.flatMap write) = some cs := by
  have hname (begun name rest : List CodePoint) (h : .scalar ';' ∉ name) :
      expand readAs (some begun) (name ++ .scalar ';' :: rest) =
        expand readAs (some (begun ++ name)) (.scalar ';' :: rest) := by
    induction name generalizing begun with
    | nil => simp
    | cons c cs ih =>
        simp only [List.mem_cons, not_or] at h
        rw [List.cons_append, expand, if_neg (Ne.symm h.1), ih _ h.2, List.append_assoc]
        rfl
  induction cs with
  | nil => rfl
  | cons c cs ih =>
      rw [List.flatMap_cons]
      generalize hcs : write c = written
      cases hcs ▸ hwrite c with
      | plain h =>
          obtain ⟨hmark, hc⟩ := hread c h
          rw [List.singleton_append, expand, if_neg hmark, hc, ih]
          rfl
      | reference name hsemicolon _ hreferent =>
          rw [List.cons_append, List.append_assoc, List.singleton_append, expand, if_pos rfl,
            hname _ _ _ hsemicolon, List.nil_append, expand, if_pos rfl, hreferent, ih]
          rfl

end Writes

theorem readValue_written (value : List CodePoint) :
    readValue (value.flatMap valueChar) = some value := by
  refine expand_flatMap writes_valueChar (fun c h => ?_) value
  obtain ⟨⟨hamp, hlt, -⟩, -, hr, hn, ht⟩ := h
  refine ⟨hamp, ?_⟩
  rw [valueReadAs, if_neg hlt]
  split
  · simp_all [isSpace]
  · rfl

/-- A value ends at its quote. -/
theorem readQuoted_written (value rest : List CodePoint) :
    readQuoted (.scalar '"' :: (value.flatMap valueChar ++ .scalar '"' :: rest)) = some (value, rest) := by
  have hquote : ∀ c ∈ value.flatMap valueChar, decide (c ≠ '"') = true := by
    intro c hc
    refine decide_eq_true fun hmark => ?_
    exact not_mem_flatMap writes_valueChar (by simp [StandsInValue]) rfl value (hmark ▸ hc)
  have hmark : ∀ c ∈ (CodePoint.scalar '"' :: rest).head?, decide (c ≠ '"') = false := by simp
  obtain ⟨htake, hdrop⟩ := Text.takeWhile_dropWhile_append hquote hmark
  rw [readQuoted, if_pos (by decide), htake, hdrop, readValue_written]
  rfl

theorem readText_written (text : List CodePoint) : readText (text.flatMap textChar) = some text := by
  have hend (cs : List CodePoint) (h : .scalar '>' ∉ cs) : endsSection cs = false := by
    induction cs with
    | nil => rfl
    | cons c cs ih =>
        rw [endsSection.eq_def]
        split <;> simp_all
  rw [readText, hend _ (not_mem_flatMap writes_textChar (by simp [StandsInText]) rfl text)]
  exact expand_flatMap writes_textChar (fun c h => ⟨h.1, rfl⟩) text

/-- Without carriage returns there is nothing to settle. -/
theorem settleEnds_append {cs : List CodePoint} (h : .scalar '\r' ∉ cs) (rest : List CodePoint) :
    settleEnds false (cs ++ rest) = cs ++ settleEnds false rest := by
  induction cs with
  | nil => rfl
  | cons c cs ih =>
      simp only [List.mem_cons, not_or] at h
      rw [List.cons_append, settleEnds, if_neg (Ne.symm h.1), if_neg (by simp), ih h.2]
      rfl

theorem settleEnds_cons {c : CodePoint} (hreturn : c ≠ '\r') (hfeed : c ≠ '\n') (returned : Bool)
    (cs : List CodePoint) : settleEnds returned (c :: cs) = c :: settleEnds false cs := by
  rw [settleEnds, if_neg hreturn, if_neg (by simp [hfeed])]

theorem settleEnds_ne_nil {cs : List CodePoint} (h : cs ≠ []) : settleEnds false cs ≠ [] := by
  cases cs with
  | nil => exact absurd rfl h
  | cons c cs =>
      rw [settleEnds]
      split
      · simp
      · simp

/-- The line ends of a text that was written are those of the text. -/
theorem settleEnds_written (returned : Bool) (text rest : List CodePoint) :
    settleEnds returned (text.flatMap textChar ++ .scalar '<' :: rest) =
      (settleEnds returned text).flatMap textChar ++ .scalar '<' :: settleEnds false rest := by
  induction text generalizing returned with
  | nil => rw [List.flatMap_nil, List.nil_append, settleEnds_cons (by decide) (by decide)]; rfl
  | cons c cs ih =>
      by_cases hreturn : c = '\r'
      · subst hreturn
        exact congrArg (CodePoint.scalar '\n' :: ·) (ih true)
      · by_cases hfeed : c = '\n'
        · subst hfeed
          cases returned with
          | false => exact congrArg (CodePoint.scalar '\n' :: ·) (ih false)
          | true => exact ih false
        · rw [settleEnds_cons hreturn hfeed, List.flatMap_cons, List.flatMap_cons, List.append_assoc,
            List.append_assoc, ← ih false]
          have hwritten := writes_textChar c
          generalize textChar c = written at hwritten
          cases hwritten with
          | plain => exact settleEnds_cons hreturn hfeed _ _
          | reference name _ hrefers _ =>
              have hnone : .scalar '\r' ∉ name ++ [.scalar ';'] := by
                intro hmem
                rcases List.mem_append.mp hmem with hmem | hmem
                · exact absurd (List.all_eq_true.mp hrefers _ hmem) (by decide)
                · exact absurd hmem (by decide)
              rw [List.cons_append, settleEnds_cons (by decide) (by decide), settleEnds_append hnone]
              rfl

theorem exists_split (cs : List CodePoint) : ∃ part parts, split cs = part :: parts := by
  cases cs with
  | nil => exact ⟨[], [], rfl⟩
  | cons c cs =>
      rw [split]
      split
      · exact ⟨_, _, rfl⟩
      · split <;> exact ⟨_, _, rfl⟩

/-- What holds no `<` belongs to the first part. -/
theorem split_append {cs rest part : List CodePoint} {parts : List (List CodePoint)} (h : .scalar '<' ∉ cs)
    (hsplit : split rest = part :: parts) : split (cs ++ rest) = (cs ++ part) :: parts := by
  induction cs with
  | nil => exact hsplit
  | cons c cs ih =>
      simp only [List.mem_cons, not_or] at h
      rw [List.cons_append, split, if_neg (Ne.symm h.1), ih h.2]
      rfl

theorem continuesName_of_mem {cs : List CodePoint} (h : isName cs = true) {c : CodePoint} (hc : c ∈ cs) :
    continuesName c = true := by
  cases cs with
  | nil => cases hc
  | cons d ds =>
      simp only [isName, Bool.and_eq_true, List.all_eq_true] at h
      rcases List.mem_cons.mp hc with rfl | hc
      · simp [continuesName, h.1]
      · exact h.2 c hc

/-- A name ends before the first character that does not belong to it. -/
theorem readName_append {name : Text} (h : isName name.toList = true) {rest : List CodePoint}
    (hrest : ∀ c ∈ rest.head?, continuesName c = false) :
    readName (name.toList ++ rest) = some (name, rest) := by
  obtain ⟨htake, hdrop⟩ :=
    Text.takeWhile_dropWhile_append (fun c => continuesName_of_mem h) hrest
  rw [readName, htake, hdrop, if_pos h, Text.ofList_toList]

theorem dropWhile_isSpace_name {name : Text} (h : isName name.toList = true) (rest : List CodePoint) :
    (name.toList ++ rest).dropWhile isSpace = name.toList ++ rest := by
  generalize name.toList = cs at h
  cases cs with
  | nil => simp [isName] at h
  | cons c cs =>
      have hspace : isSpace c = false := by
        simp only [isName, Bool.and_eq_true] at h
        cases hc : isSpace c with
        | false => rfl
        | true =>
            simp only [isSpace, Bool.or_eq_true, decide_eq_true_eq] at hc
            rcases hc with ((rfl | rfl) | rfl) | rfl <;> exact absurd h.1 (by decide)
      rw [List.cons_append, List.dropWhile_cons_of_neg (by simp [hspace])]

/-- The characters that an attribute is written with. -/
def attributeChars (entry : Text × Text) : List CodePoint :=
  .scalar ' ' :: (entry.1.toList ++
    .scalar '=' :: .scalar '"' :: (entry.2.toList.flatMap valueChar ++ [.scalar '"']))

theorem writeAttributes_toList (attributes : List (Text × Text)) :
    (writeAttributes attributes).toList = attributes.flatMap attributeChars := by
  induction attributes with
  | nil => rfl
  | cons entry attributes ih =>
      rw [writeAttributes, List.map_cons, Text.join_cons, Text.toList_append, ← writeAttributes, ih]
      simp [attributeChars, writeValue]

theorem readAttribute_written {entry : Text × Text} (h : isName entry.1.toList = true)
    (rest : List CodePoint) : readAttribute (attributeChars entry ++ rest) = some (entry, rest) := by
  have hvalue := readQuoted_written entry.2.toList rest
  have hequals (cs : List CodePoint) :
      readEquals (.scalar '=' :: .scalar '"' :: cs) = some (.scalar '"' :: cs) := rfl
  simp only [attributeChars, List.cons_append, List.append_assoc]
  rw [readAttribute, if_pos (by decide), dropWhile_isSpace_name h, readName_append h (by simp; decide)]
  simp [hequals, hvalue]

/-- Attributes end where no more follows. -/
theorem readAttributes_written {attributes : List (Text × Text)}
    (h : ∀ entry ∈ attributes, isName entry.1.toList = true) {rest : List CodePoint}
    (hrest : readAttribute rest = none) :
    readAttributes (attributes.flatMap attributeChars ++ rest) = (attributes, rest) := by
  induction attributes with
  | nil =>
      rw [List.flatMap_nil, List.nil_append, readAttributes]
      split
      · rfl
      · rename_i hsome
        cases hrest.symm.trans hsome
  | cons entry attributes ih =>
      obtain ⟨hentry, hattributes⟩ := List.forall_mem_cons.mp h
      have hread := readAttribute_written hentry (attributes.flatMap attributeChars ++ rest)
      rw [List.flatMap_cons, List.append_assoc, readAttributes]
      split
      · rename_i hnone
        cases hnone.symm.trans hread
      · rename_i hsome
        obtain ⟨rfl, rfl⟩ := Prod.mk.inj (Option.some.inj (hsome.symm.trans hread))
        rw [ih hattributes]

/-- The characters of a tag between its marks. -/
def tagChars (name : Text) (attributes : List (Text × Text)) : List CodePoint :=
  name.toList ++ attributes.flatMap attributeChars

/-- A name, and attributes with names that differ from one another. -/
structure Named (name : Text) (attributes : List (Text × Text)) : Prop where
  tag : isName name.toList = true
  entries : ∀ entry ∈ attributes, isName entry.1.toList = true
  unique : (attributes.map (·.1)).Nodup

theorem named_of_names {name : Text} {attributes : List (Text × Text)} (names : List Text)
    (hnames : attributes.map (·.1) = names)
    (h : isName name.toList = true ∧ (∀ name ∈ names, isName name.toList = true) ∧ names.Nodup) :
    Named name attributes where
  tag := h.1
  entries _ hentry := h.2.1 _ (hnames ▸ List.mem_map_of_mem hentry)
  unique := hnames ▸ h.2.2

theorem Tag.read_written {name : Text} {attributes : List (Text × Text)}
    (h : Named name attributes) {rest : List CodePoint} (hend : readAttribute rest = none)
    (hrest : ∀ c ∈ rest.head?, continuesName c = false) :
    Tag.read (tagChars name attributes ++ rest) = readEnd name attributes rest := by
  have hhead : ∀ c ∈ (attributes.flatMap attributeChars ++ rest).head?, continuesName c = false := by
    cases attributes with
    | nil => exact hrest
    | cons =>
        intro c hc
        obtain rfl := Option.some.inj hc
        rfl
  rw [tagChars, List.append_assoc, Tag.read.eq_def]
  split
  · rename_i cs hslash
    have hname := h.tag
    cases hchars : name.toList with
    | nil => simp [hchars, isName] at hname
    | cons c cs =>
        rw [hchars, List.cons_append] at hslash
        rw [hchars, (List.cons.inj hslash).1] at hname
        simp [isName, show startsName '/' = false from rfl] at hname
  · rw [readName_append h.tag hhead]
    simp only [Option.bind_eq_bind, Option.bind_some, readAttributes_written h.entries hend,
      if_pos h.unique]

theorem Tag.read_opening {name : Text} {attributes : List (Text × Text)}
    (h : Named name attributes) (rest : List CodePoint) :
    Tag.read (tagChars name attributes ++ .scalar '>' :: rest) = some (.opening name attributes, rest) :=
  Tag.read_written h rfl (by simp; decide)

theorem Tag.read_single {name : Text} {attributes : List (Text × Text)}
    (h : Named name attributes) (rest : List CodePoint) :
    Tag.read (tagChars name attributes ++ .scalar ' ' :: .scalar '/' :: .scalar '>' :: rest) =
      some (.single name attributes, rest) :=
  Tag.read_written h rfl (by simp; decide)

theorem Tag.read_closing {name : Text} (h : isName name.toList = true) (rest : List CodePoint) :
    Tag.read (.scalar '/' :: (name.toList ++ .scalar '>' :: rest)) = some (.closing name, rest) := by
  rw [Tag.read, readName_append h (by simp; decide)]
  rfl

/-- Neither a line end nor the start of a tag stands inside a tag. -/
theorem not_mem_tagChars {name : Text} {attributes : List (Text × Text)}
    (h : Named name attributes) {c : CodePoint} (hc : c = '\r' ∨ c = '<') :
    c ∉ tagChars name attributes := by
  have hname {name : Text} (hname : isName name.toList = true) : c ∉ name.toList := by
    intro hmem
    have hcontinues := continuesName_of_mem hname hmem
    rcases hc with rfl | rfl <;> exact absurd hcontinues (by decide)
  have hvalue (value : List CodePoint) : c ∉ value.flatMap valueChar := by
    rcases hc with rfl | rfl <;>
      exact not_mem_flatMap writes_valueChar (by simp [StandsInValue, StandsInText]) rfl value
  have hmarks : c ≠ ' ' ∧ c ≠ '=' ∧ c ≠ '"' := by
    rcases hc with rfl | rfl <;> decide
  rw [tagChars, List.mem_append, List.mem_flatMap]
  rintro (hmem | ⟨entry, hentry, hmem⟩)
  · exact hname h.tag hmem
  · simp [attributeChars, hname (h.entries entry hentry), hvalue, hmarks] at hmem

/-- Characters below the space may not stand in a document, but for the tab and the line ends, and
neither may surrogates and two code points that are no characters. -/
theorem isChar_iff {c : CodePoint} : isChar c = true ↔ c.toNat = 0x9 ∨ c.toNat = 0xA ∨ c.toNat = 0xD ∨
    (c.isScalar = true ∧ 0x20 ≤ c.toNat ∧ c.toNat ≠ 0xFFFE ∧ c.toNat ≠ 0xFFFF) := by
  have hnone : Text.Ranges.contains [] c.toNat = false := rfl
  simp only [isChar, charRanges, Text.Ranges.contains_cons_iff, hnone, Bool.false_eq_true, or_false,
    CodePoint.isScalar_iff, Nat.isValidChar]
  omega

theorem onlyChars_append {a b : Text} : OnlyChars (a ++ b) ↔ OnlyChars a ∧ OnlyChars b := by
  simp only [OnlyChars, Text.toList_append, List.all_append, Bool.and_eq_true]

theorem onlyChars_repr (n : Nat) : OnlyChars n.repr := by
  refine List.all_eq_true.mpr fun c hc => ?_
  obtain ⟨d, hd, rfl⟩ := List.mem_map.mp hc
  have hdigit := Nat.isDigit_of_mem_toDigits (by decide) (by decide) (Nat.toList_repr ▸ hd)
  have hcode : '0'.toNat ≤ d.toNat ∧ d.toNat ≤ '9'.toNat := Char.isDigit_iff_toNat.mp hdigit
  rw [show '0'.toNat = 0x30 from rfl, show '9'.toNat = 0x39 from rfl] at hcode
  refine isChar_iff.mpr (.inr (.inr (.inr ⟨rfl, ?_⟩)))
  rw [CodePoint.toNat]
  omega

/-- Ranges that lie among the characters of documents hold such characters only. -/
theorem isChar_of_contains {ranges : Text.Ranges}
    (h : ranges.all (fun r => 0x20 ≤ r.1 && (r.2 < 0xD800 || 0xDFFF < r.1 && r.2 < 0xFFFE ||
      0xFFFF < r.1 && r.2 < 0x110000)) = true) {c : CodePoint}
    (hc : ranges.contains c.toNat = true) : isChar c = true := by
  obtain ⟨r, hr⟩ := Option.isSome_iff_exists.mp hc
  obtain ⟨hmem, hlo, hhi⟩ := Text.Ranges.range?_bounds hr
  have hrange := List.all_eq_true.mp h r hmem
  simp only [Bool.and_eq_true, Bool.or_eq_true, decide_eq_true_eq] at hrange
  refine isChar_iff.mpr (.inr (.inr (.inr ⟨CodePoint.isScalar_iff.mpr ?_, ?_⟩)))
  · simp only [Nat.isValidChar]
    omega
  · omega

theorem isChar_of_continuesName {c : CodePoint} (h : continuesName c = true) : isChar c = true := by
  simp only [continuesName, startsName, Bool.or_eq_true] at h
  exact h.elim (isChar_of_contains (by decide)) (isChar_of_contains (by decide))

/-- No surrogate may stand in a document. -/
theorem isScalar_of_isChar (c : CodePoint) (h : isChar c = true) : c.isScalar = true := by
  rw [isChar_iff] at h
  rw [CodePoint.isScalar_iff]
  simp only [Nat.isValidChar]
  simp only [CodePoint.isScalar_iff, Nat.isValidChar] at h
  omega

section All

variable {p : CodePoint → Bool} (hp : ∀ c, isChar c = true → p c = true)

include hp

theorem all_of_isChar {cs : List CodePoint} (h : cs.all isChar = true) : cs.all p = true :=
  List.all_eq_true.mpr fun c hc => hp c (List.all_eq_true.mp h c hc)

/-- What is true of all characters that may stand in a document is true of a character as it is written
just if it is true of the character. -/
theorem all_textChar (c : CodePoint) : (textChar c).all p = p c := by
  unfold textChar
  repeat' split
  all_goals try (subst c; exact (all_of_isChar hp rfl).trans (hp _ rfl).symm)
  simp

theorem all_valueChar (c : CodePoint) : (valueChar c).all p = p c := by
  unfold valueChar
  repeat' split
  all_goals try (subst c; exact (all_of_isChar hp rfl).trans (hp _ rfl).symm)
  exact all_textChar hp c

theorem all_name {name : List CodePoint} (h : isName name = true) : name.all p = true :=
  all_of_isChar hp (List.all_eq_true.mpr fun _ hc =>
    isChar_of_continuesName (continuesName_of_mem h hc))

theorem all_tagChars {name : Text} {attributes : List (Text × Text)} (h : Named name attributes) :
    (tagChars name attributes).all p = true ↔ ∀ entry ∈ attributes, entry.2.toList.all p = true := by
  rw [tagChars, List.all_append, all_name hp h.tag, Bool.true_and, List.all_flatMap, List.all_eq_true]
  refine forall₂_congr fun entry hentry => ?_
  have hmarks : p ' ' = true ∧ p '=' = true ∧ p '"' = true := ⟨hp _ rfl, hp _ rfl, hp _ rfl⟩
  simp only [attributeChars, List.all_cons, List.all_append, List.all_flatMap, List.all_nil,
    all_name hp (h.entries entry hentry), hmarks, all_valueChar hp, Bool.true_and, Bool.and_true]

end All

/-- Settling line ends neither adds a character that may not stand in a document nor takes one away. -/
theorem all_isChar_settleEnds (returned : Bool) (cs : List CodePoint) :
    (settleEnds returned cs).all isChar = cs.all isChar := by
  induction cs generalizing returned with
  | nil => rfl
  | cons c cs ih =>
      rw [settleEnds]
      split
      · subst c
        simp [ih, show isChar '\n' = true from rfl, show isChar '\r' = true from rfl]
      · split
        · rename_i hfeed
          simp only [Bool.and_eq_true, decide_eq_true_eq] at hfeed
          simp [ih, hfeed.1, show isChar '\n' = true from rfl]
        · simp [ih]

end Playbook.Xml
