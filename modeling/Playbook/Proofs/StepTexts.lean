import Playbook.Proofs.DurationGrammar
import Playbook.Proofs.LiteralGrammar
import Playbook.Proofs.XmlTags
import Playbook.Performance

/-! # What reports tell of steps

A step is called by its kind, which is an identifier, and by the description of its action, in which
texts are quoted. Quoting leaves no control character, but surrogates and two code points that are no
characters pass through it. A bound stands in a description as it was written, and a bound that is a
duration consists of digits, points, signs and units. The messages of faults quote texts likewise or
show them with printable characters only; what a page reports in words of its own is told as it is. -/

namespace Playbook

open Text Xml

variable {τ : Type} [TimeScale τ]

/-- The code points that quoting lets pass although they may not stand in a document. -/
def IsNonCharacter (c : CodePoint) : Prop :=
  c.isScalar = false ∨ c.toNat = 0xFFFE ∨ c.toNat = 0xFFFF

/-- A text without control characters, but for the tab and the line ends. -/
def FewControls (text : Text) : Prop :=
  ∀ c ∈ text.toList, isChar c = true ∨ IsNonCharacter c

namespace Text

theorem isChar_of_isWord {c : CodePoint} (h : isWord c = true) : isChar c = true :=
  isChar_of_contains (by decide +kernel) h

theorem isChar_of_isDigit {c : CodePoint} (h : isDigit c = true) : isChar c = true :=
  isChar_of_contains (by decide +kernel) h

theorem isChar_of_isPrintable {c : CodePoint} (h : isPrintable c = true) : isChar c = true :=
  isChar_of_contains (by decide +kernel) h

theorem isChar_of_mem_hexDigits {width n : Nat} {c : CodePoint} (h : c ∈ hexDigits width n) :
    isChar c = true := by
  have hdigit : ∀ m : Fin 16, isChar (hexDigit m) = true := by decide
  induction width generalizing n with
  | zero => cases h
  | succ width ih =>
      rw [hexDigits, List.mem_append, List.mem_singleton] at h
      rcases h with h | rfl
      · exact ih h
      · exact hdigit ⟨n % 16, Nat.mod_lt n (by decide)⟩

theorem onlyChars_of_isIdentifier {name : Text} (h : isIdentifier name.toList = true) :
    OnlyChars name :=
  List.all_eq_true.mpr fun _ hc => isChar_of_isWord (isWord_of_mem_isIdentifier h hc)

/-- A text is shown with printable characters only. -/
theorem onlyChars_shown (text : Text) : OnlyChars (shown text) := by
  have hmark : isChar (shownMark text.toList) = true := by
    rw [shownMark]
    split <;> rfl
  have hcode (d : CodePoint) : ∀ c ∈ shownCode d, isChar c = true := by
    intro c hc
    rw [shownCode] at hc
    repeat' split at hc
    all_goals
      rcases List.mem_cons.mp hc with rfl | hc
      · rfl
      rcases List.mem_cons.mp hc with rfl | hc
      · rfl
      exact isChar_of_mem_hexDigits hc
  have hchar (d : CodePoint) : (shownChar (shownMark text.toList) d).all isChar = true := by
    rw [shownChar]
    split
    · rename_i hescaped
      rcases (by simpa using hescaped : d = shownMark text.toList ∨ d = '\\') with rfl | rfl
      · simpa [hmark] using (by decide : isChar '\\' = true)
      · rfl
    iterate 3
      split
      · rfl
    split
    · rename_i hprintable
      simpa using isChar_of_isPrintable hprintable
    · exact List.all_eq_true.mpr (hcode d)
  rw [OnlyChars, shown]
  simp [hmark, hchar, List.all_flatMap]

end Text

namespace FewControls

theorem of_onlyChars {text : Text} (h : OnlyChars text) : FewControls text :=
  fun c hc => .inl (List.all_eq_true.mp h c hc)

theorem append {a b : Text} (ha : FewControls a) (hb : FewControls b) : FewControls (a ++ b) := by
  intro c hc
  rw [Text.toList_append, List.mem_append] at hc
  exact hc.elim (ha c) (hb c)

theorem onlyChars_iff {text : Text} (h : FewControls text) :
    OnlyChars text ↔ ∀ c ∈ text.toList, ¬ IsNonCharacter c := by
  rw [OnlyChars, List.all_eq_true]
  refine forall₂_congr fun c hc => ?_
  constructor
  · intro hchar hnone
    rw [isChar_iff] at hchar
    rcases hnone with hnone | hnone
    · exact Bool.noConfusion (hnone.symm.trans (isScalar_of_isChar c (isChar_iff.mpr hchar)))
    · omega
  · exact (h c hc).resolve_right

/-- Quoting writes control characters by their codes. -/
theorem quoted (text : Text) : FewControls (quoted text) := by
  have hplain {c : CodePoint} (hc : 0x20 ≤ c.toNat) : isChar c = true ∨ IsNonCharacter c := by
    rw [isChar_iff, IsNonCharacter]
    cases c.isScalar with
    | false => exact .inr (.inl rfl)
    | true =>
        simp only [true_and, Bool.true_eq_false, false_or]
        omega
  have hletters {cs : List CodePoint} (h : cs.all isChar = true) :
      ∀ c ∈ cs, isChar c = true ∨ IsNonCharacter c := fun c hc => .inl (List.all_eq_true.mp h c hc)
  have hchar (d : CodePoint) : ∀ c ∈ quotedChar d, isChar c = true ∨ IsNonCharacter c := by
    rw [quotedChar]
    split
    · rename_i hmark
      rcases (by simpa using hmark : d = '"' ∨ d = '\\') with rfl | rfl <;> exact hletters rfl
    iterate 5
      split
      · exact hletters rfl
    split
    · have hescape : isChar '\\' = true ∧ isChar 'u' = true := ⟨rfl, rfl⟩
      exact hletters (by simpa [hescape] using fun c => isChar_of_mem_hexDigits)
    · rename_i hcode
      simpa using hplain (Nat.le_of_not_lt hcode)
  intro c hc
  rw [quoted_toList, quotedChars, List.mem_append, List.mem_cons, List.mem_singleton,
    List.mem_flatMap] at hc
  rcases hc with (rfl | ⟨d, -, hc⟩) | rfl
  · exact .inl rfl
  · exact hchar d c hc
  · exact .inl rfl

end FewControls

namespace Record

theorem isIdentifier_of_ofLiteral {text : Text} {record : Record}
    (h : ofLiteral text = .ok (some record)) : isIdentifier record.kind.toList = true := by
  obtain ⟨layout⟩ := layout_of_ofLiteral h
  have hlexeme := layout.tiled.lexeme_of_mem List.mem_cons_self
  rw [layout.isKind.1, layout.isKind.2] at hlexeme
  exact hlexeme

theorem isIdentifier_of_ofFlat {text : Text} {record : Record}
    (h : ofFlat text = .ok (some record)) : isIdentifier record.kind.toList = true := by
  obtain ⟨pairs, hpairs, hrecord⟩ := bind_eq_ok.mp h
  rw [readPairs] at hpairs
  split at hpairs
  · obtain rfl := Except.ok.inj hpairs
    cases hrecord
  · split at hpairs
    · cases hpairs
    · rename_i pair rest _
      obtain ⟨first, hfirst, hpairs⟩ := bind_eq_ok.mp hpairs
      obtain ⟨more, -, hpairs⟩ := bind_eq_ok.mp hpairs
      obtain rfl := Except.ok.inj hpairs
      obtain ⟨name, value⟩ := first
      have hkind : record.kind = name := by
        rw [ofPairs.eq_def] at hrecord
        dsimp only at hrecord
        split at hrecord
        · obtain rfl := Option.some.inj (Except.ok.inj hrecord)
          rfl
        · obtain rfl := Option.some.inj (Except.ok.inj hrecord)
          rfl
        · cases hrecord
      rw [RawPair.read] at hfirst
      split at hfirst
      · rename_i hname
        obtain ⟨_, -, hfound⟩ := map_eq_ok.mp hfirst
        obtain ⟨rfl, -⟩ := Prod.mk.inj hfound
        rw [hkind, Text.toList_ofList]
        exact hname
      · cases hfirst

end Record

/-- The kind that a step was written with is an identifier in either dialect. -/
theorem Step.isIdentifier_of_parse {vocabulary : Vocabulary} {dialect : Dialect} {text : Text}
    {step : Step} (h : Step.parse vocabulary dialect text = .ok (some step)) :
    isIdentifier step.name.toList = true := by
  rw [parse] at h
  split at h
  · cases h
  · cases h
  · rename_i record hread
    split at h
    · cases h
    · rename_i made hmade
      obtain rfl := Option.some.inj (Except.ok.inj h)
      have hname : made.name = record.kind := by
        obtain ⟨action, -, hmade⟩ := bind_eq_ok.mp hmade
        obtain ⟨told, -, hmade⟩ := bind_eq_ok.mp hmade
        obtain rfl := Except.ok.inj hmade
        rfl
      rw [hname]
      cases dialect with
      | literal => exact Record.isIdentifier_of_ofLiteral hread
      | flat => exact Record.isIdentifier_of_ofFlat hread

namespace Duration

/-- Decide whether a character may stand in a duration: a digit, a point, a sign or a letter of a unit. -/
def isDurationChar (c : CodePoint) : Bool :=
  isDigit c || (".+-nu\u00B5\u03BCmsh" : Text).toList.contains c

theorem isChar_of_isDurationChar {c : CodePoint} (h : isDurationChar c = true) : isChar c = true := by
  rcases (Bool.or_eq_true ..).mp h with hdigit | hmark
  · exact isChar_of_isDigit hdigit
  · have hmarks : (".+-nu\u00B5\u03BCmsh" : Text).toList.all isChar = true := by decide
    exact List.all_eq_true.mp hmarks c (List.contains_iff_mem.mp hmark)

/-- A number is written with digits and a point. -/
theorem WritesNumber.all_isDurationChar {digits : List CodePoint} {number : Number}
    (h : WritesNumber digits number) : digits.all isDurationChar = true := by
  have hdigits {cs : List CodePoint} (hcs : ∀ c ∈ cs, isDigit c = true) :
      cs.all isDurationChar = true :=
    List.all_eq_true.mpr fun c hc => (Bool.or_eq_true ..).mpr (.inl (hcs c hc))
  have hpoint {cs : List CodePoint} (hcs : cs.all isDurationChar = true) :
      (.scalar '.' :: cs).all isDurationChar = true := hcs
  cases h with
  | whole _ hwhole => exact hdigits hwhole
  | pointed _ hwhole hfraction =>
      rw [List.all_append, hdigits hwhole, hpoint (hdigits hfraction), Bool.and_self]
  | fraction _ hfraction => exact hpoint (hdigits hfraction)

/-- Parts are written with numbers and the letters of units. -/
theorem Splits.all_isDurationChar {cs : List CodePoint} {pieces : List (List CodePoint × Part)}
    (h : Splits cs pieces) : cs.all isDurationChar = true := by
  have hunits : ∀ spelling ∈ TimeUnit.spellings, spelling.1.all isDurationChar = true := by decide
  induction h with
  | nil => rfl
  | cons hpart _ ih =>
      obtain ⟨hnumber, hunit⟩ := hpart
      rw [List.all_append, List.all_append, hnumber.all_isDurationChar, hunits _ hunit, ih]
      rfl

/-- A duration is written with nothing else. -/
theorem isDurationChar_of_parse {text : Text} {seconds : τ} (h : parse text = .ok seconds) :
    text.toList.all isDurationChar = true := by
  have hsign {cs body : List CodePoint} {sign : τ} (hsigned : Signed cs sign body)
      (hbody : body.all isDurationChar = true) : cs.all isDurationChar = true := by
    cases hsigned <;> exact hbody
  cases parse_eq_ok_iff.mp h with
  | zero hsigned => exact hsign hsigned rfl
  | parts hsigned _ hsplit => exact hsign hsigned hsplit.all_isDurationChar

/-- A text that is a duration may stand in a document. -/
theorem onlyChars_of_parse {text : Text} {seconds : τ} (h : parse text = .ok seconds) :
    OnlyChars text :=
  List.all_eq_true.mpr fun c hc =>
    isChar_of_isDurationChar (List.all_eq_true.mp (isDurationChar_of_parse h) c hc)

end Duration

/-- The description of an action whose bound is a duration has few controls. -/
theorem Action.fewControls_describe {action : Action} {seconds : τ}
    (h : action.bound = .ok seconds) : FewControls action.describe := by
  have hconst {text : Text} (htext : OnlyChars text) : FewControls text := .of_onlyChars htext
  obtain ⟨deed, timeout⟩ := action
  cases deed with
  | idle | noop => exact hconst (show OnlyChars "noop" by decide)
  | debug => exact hconst (show OnlyChars "debug" by decide)
  | load | click | submit | wait | scroll | record | screenshot =>
      exact (hconst (by decide)).append (.quoted _)
  | type | value | compare =>
      exact (((hconst (by decide)).append (.quoted _)).append (hconst (by decide))).append (.quoted _)
  | sleep =>
      refine (hconst (by decide)).append (hconst ?_)
      rw [bound] at h
      split at h
      · rename_i hparse
        exact Duration.onlyChars_of_parse hparse
      · cases h

theorem DurationFault.onlyChars_message (fault : DurationFault) : OnlyChars fault.message := by
  cases fault <;> exact onlyChars_append.mpr ⟨by decide, onlyChars_shown _⟩

/-- What cannot be encoded is told of by its place and its number. -/
theorem Text.EncodingFault.onlyChars_message (fault : EncodingFault) : OnlyChars fault.message := by
  have hdigits (width n : Nat) : OnlyChars (ofList (hexDigits width n)) :=
    List.all_eq_true.mpr fun _ => isChar_of_mem_hexDigits
  have hplace : OnlyChars fault.placeText := by
    rw [placeText]
    split
    · simp only [onlyChars_append]
      exact ⟨⟨⟨by decide, hdigits 4 _⟩, by decide⟩, onlyChars_repr _⟩
    · simp only [onlyChars_append]
      exact ⟨⟨⟨by decide, onlyChars_repr _⟩, by decide⟩, onlyChars_repr _⟩
  simp only [message, onlyChars_append]
  exact ⟨⟨by decide, hplace⟩, by decide⟩

theorem DiskFault.onlyChars_message (fault : DiskFault) : OnlyChars fault.message := by
  obtain ⟨cause, path⟩ := fault
  have hnumbered (number : Nat) {text : Text} (h : OnlyChars text) :
      OnlyChars (numbered number text path) := by
    simp only [numbered, onlyChars_append]
    exact ⟨⟨⟨⟨⟨by decide, onlyChars_repr number⟩, by decide⟩, h⟩, by decide⟩, onlyChars_shown path⟩
  cases cause with
  | missing => exact hnumbered 2 (by decide)
  | notDirectory => exact hnumbered 20 (by decide)
  | isDirectory => exact hnumbered 21 (by decide)
  | nameTooLong => exact hnumbered 36 (by decide)
  | nulCharacter => exact (by decide : OnlyChars "embedded null byte")
  | unencodable fault => exact fault.onlyChars_message

theorem Fault.fewControls_mismatch (selector text value : Text) :
    FewControls (mismatch selector text value).message := by
  have hword {word : Text} (h : OnlyChars word) : FewControls word := .of_onlyChars h
  have hmessage : (mismatch selector text value).message =
      "Selector " ++ quoted selector ++ " value " ++ quoted text ++ " does not match "
        ++ quoted value := rfl
  rw [hmessage]
  have hselector := (hword (by decide : OnlyChars "Selector ")).append (.quoted selector)
  have htext := (hselector.append (hword (by decide : OnlyChars " value "))).append (.quoted text)
  exact (htext.append (hword (by decide : OnlyChars " does not match "))).append (.quoted value)

/-- The names of the classes of faults. -/
def Fault.classNames : List Text :=
  ["PlaybookSyntaxError", "UnknownFieldError", "UnknownActionError", "DurationError",
    "ComparisonError", "ActionFailed", "RunCancelled", "PlaybookInputError", "UnicodeDecodeError",
    "UnicodeEncodeError", "FileNotFoundError", "NotADirectoryError", "IsADirectoryError", "OSError",
    "ValueError", "TimeoutError", "RuntimeError", "TypeError", "Error", "PlaybookError"]

theorem Fault.className_mem_classNames (fault : Fault) : fault.className ∈ classNames := by
  cases fault with
  | disk fault =>
      obtain ⟨cause, path⟩ := fault
      cases cause <;> simp [className, DiskCause.className, classNames]
  | reported kind message =>
      cases kind <;> simp [className, ReportedKind.className, classNames]
  | unbuildable fault => cases fault <;> simp [className, classNames]
  | malformed fault => cases hsyntax : fault.isSyntax <;> simp [className, classNames, hsyntax]
  | _ => simp [className, classNames]

theorem Fault.onlyChars_className (fault : Fault) : OnlyChars fault.className := by
  have hall : ∀ name ∈ classNames, OnlyChars name := by decide
  exact hall _ fault.className_mem_classNames

end Playbook
