import Playbook.Proofs.FlatGrammar
import Playbook.Proofs.Quoting

/-! # Reading flat lines that were written

A record is written as its kind and a pair for each field, each behind a space. Such a line is one of
the grammar, so the record is read from it if no value holds a surrogate. -/

namespace Playbook.Record

open Text Token

/-- The spellings of a value on a flat line: quoted, or as it is if it holds neither a blank
character nor a double quote. -/
inductive Spells (value : Text) : Text → Prop
  | quoted : Spells value (quoted value)
  | bare (h : ∀ c ∈ value.toList, isBlank c = false ∧ c ≠ '"') : Spells value value

/-- What follows the kind on a flat line: a space, a name, an equals sign and a spelling of the
value for each field. -/
inductive WritesPairs : List (Text × Text) → Text → Prop
  | nil : WritesPairs [] ""
  | cons {name value word fields rest} (hword : Spells value word)
      (htail : WritesPairs fields rest) :
      WritesPairs ((name, value) :: fields) (" " ++ name ++ "=" ++ word ++ rest)

/-- The body of a literal on one line is the body of a quoted value. -/
theorem flatBody_of_body {body : List CodePoint} (h : Body .double body) (hline : .scalar '\n' ∉ body) :
    FlatBody body := by
  induction h with
  | nil => exact .nil
  | raw hd => exact nomatch hd
  | @plain c cs hquote hbackslash _ _ ih =>
      exact .plain hquote hbackslash (ih fun hmem => hline (by simp [hmem]))
  | @escaped c cs _ _ ih =>
      exact .escaped (fun hc => hline (by simp [hc])) (ih fun hmem => hline (by simp [hmem]))

/-- A name and a spelling of a value make a pair. -/
theorem Spells.flatPair {name value word : Text} (hname : isIdentifier name.toList = true)
    (hvalue : value.isScalar = true) (h : Spells value word) :
    FlatPair FlatBody (name.toList ++ .scalar '=' :: word.toList) (name, some value) := by
  cases h with
  | quoted =>
      have hline : .scalar '\n' ∉ value.toList.flatMap quotedChar := by
        intro hmem
        have hcode := code_of_mem_quotedChars
          (List.mem_cons_of_mem _ (List.mem_append_left _ hmem))
        exact absurd hcode (by decide)
      have henclosed : Text.quoted value = TextLiteral.enclosed (value.toList.flatMap quotedChar) := rfl
      have hdecode := TextLiteral.decode_quoted hvalue
      rw [henclosed] at hdecode ⊢
      exact .quoted hname (flatBody_of_body (body_flatMap_quotedChar value.toList) hline) hdecode
  | bare h => exact .bare hname h

/-- Written pairs begin with a space. -/
theorem WritesPairs.isBlank_of_mem_head? {fields : List (Text × Text)} {pairs : Text}
    (h : WritesPairs fields pairs) : ∀ c ∈ pairs.toList.head?, isBlank c = true := by
  cases h with
  | nil => exact fun _ hc => nomatch hc
  | cons => simp; decide

/-- The pairs that fields are written as. -/
theorem WritesPairs.flatPairs {fields : List (Text × Text)} {pairs : Text}
    (h : WritesPairs fields pairs) (hnames : ∀ field ∈ fields, isIdentifier field.1.toList = true)
    (hvalues : ∀ field ∈ fields, field.2.isScalar = true) :
    FlatPairs FlatBody pairs.toList (fields.map fun field => (field.1, some field.2)) := by
  induction h with
  | nil => exact .blank rfl
  | @cons name value word fields rest hword htail ih =>
      have hpair := hword.flatPair (hnames (name, value) (by simp)) (hvalues (name, value) (by simp))
      have htailPairs := ih (fun field hfield => hnames field (by simp [hfield]))
        fun field hfield => hvalues field (by simp [hfield])
      have hgap : [CodePoint.scalar ' '].all isBlank = true := by decide
      simpa using FlatPairs.pair hgap hpair htail.isBlank_of_mem_head? htailPairs

/-- A kind and the pairs written for fields are read to the record. -/
theorem ofFlat_of_writesPairs {kind pairs : Text} {fields : List (Text × Text)}
    (hkind : isIdentifier kind.toList = true)
    (hnames : ∀ field ∈ fields, isIdentifier field.1.toList = true)
    (hvalues : ∀ field ∈ fields, field.2.isScalar = true) (h : WritesPairs fields pairs) :
    ofFlat (kind ++ pairs) = .ok (some ⟨kind, fields⟩) := by
  have hgap : ([] : List CodePoint).all isBlank = true := rfl
  have hpairs :=
    FlatPairs.pair hgap (.alone hkind) h.isBlank_of_mem_head? (h.flatPairs hnames hvalues)
  rw [List.nil_append, ← Text.toList_append] at hpairs
  simpa [Function.comp_def] using ofFlat_eq_some_iff.mpr (.mk hpairs (.inl rfl))

end Playbook.Record
