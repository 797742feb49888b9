import Playbook.Production
import Playbook.Proofs.Quoting
import Playbook.Proofs.StepTexts

/-! # Descriptions identify actions

A description names the kind of an action and then shows what the action was told, each text between
double quotes. A quoted text can be split off from whatever follows it, so the description gives away
what was told, whatever the texts hold. It does not show the bound of an action, except that of a sleep,
nor whether a picture was given the name that it has without one. The message of a failed step begins
with the description of its action, which can be split off there, too.

## Implementation notes

All descriptions have one form: the name of the kind, and behind it pieces that consist of a fixed text
and of the value of an attribute. -/

namespace Playbook

open Text

/-- What is written can be split off from whatever follows it. -/
def SelfDelimiting {α : Type} (write : α → List CodePoint) : Prop :=
  ∀ a b rest other, write a ++ rest = write b ++ other → a = b ∧ rest = other

/-- A body ends where the first double quote stands that is not escaped. -/
theorem Token.Body.eq_of_append_quote {body other rest more : List CodePoint} (h : Body .double body)
    (hother : Body .double other) (heq : body ++ .scalar '"' :: rest = other ++ .scalar '"' :: more) :
    body = other ∧ rest = more := by
  induction h generalizing other with
  | nil =>
      cases hother with
      | nil => exact ⟨rfl, (List.cons.inj heq).2⟩
      | raw hd => exact nomatch hd
      | plain hc => exact absurd (List.cons.inj heq).1.symm hc
      | escaped => exact absurd (List.cons.inj heq).1 (by decide)
  | raw hd => exact nomatch hd
  | @plain c cs hc hbackslash _ _ ih =>
      cases hother with
      | nil => exact absurd (List.cons.inj heq).1 hc
      | raw hd => exact nomatch hd
      | plain _ _ _ tail =>
          obtain ⟨rfl, htail⟩ := List.cons.inj heq
          obtain ⟨rfl, hrest⟩ := ih tail htail
          exact ⟨rfl, hrest⟩
      | escaped => exact absurd (List.cons.inj heq).1 hbackslash
  | @escaped c cs _ _ ih =>
      cases hother with
      | nil => exact absurd (List.cons.inj heq).1 (by decide)
      | raw hd => exact nomatch hd
      | plain _ hbackslash => exact absurd (List.cons.inj heq).1.symm hbackslash
      | escaped _ tail =>
          obtain ⟨rfl, htail⟩ := List.cons.inj (List.cons.inj heq).2
          obtain ⟨rfl, hrest⟩ := ih tail htail
          exact ⟨rfl, hrest⟩

/-- A character that is written by a letter or by its code begins with a backslash, and others do not. -/
theorem selfDelimiting_written {c d : CodePoint} {cs ds rest other : List CodePoint}
    (hc : Written c cs) (hd : Written d ds) (h : cs ++ rest = ds ++ other) :
    c = d ∧ rest = other := by
  cases hc with
  | plain _ hbackslash =>
      cases hd with
      | plain => exact List.cons.inj h
      | letter | code => exact absurd (List.cons.inj h).1 hbackslash
  | @letter c x octet hletter hoctet =>
      cases hd with
      | plain _ hbackslash => exact absurd (List.cons.inj h).1.symm hbackslash
      | letter hother hmore =>
          obtain ⟨rfl, hrest⟩ := List.cons.inj (List.cons.inj h).2
          obtain rfl := Option.some.inj (hletter.symm.trans hother)
          exact ⟨congrArg _ (Utf8.encodeChar_injective (hoctet.trans hmore.symm)), hrest⟩
      | code =>
          obtain ⟨rfl, -⟩ := List.cons.inj (List.cons.inj h).2
          cases hletter
  | code hcode =>
      cases hd with
      | plain _ hbackslash => exact absurd (List.cons.inj h).1.symm hbackslash
      | letter hletter =>
          obtain ⟨rfl, -⟩ := List.cons.inj (List.cons.inj h).2
          cases hletter
      | code hother =>
          have hdigits := (List.cons.inj (List.cons.inj h).2).2
          obtain ⟨hsame, hrest⟩ := List.append_inj hdigits (by rw [hexDigits_length, hexDigits_length])
          have key : ∀ m < 0x20, ∀ n < 0x20, hexDigits 4 m = hexDigits 4 n → m = n := by decide +kernel
          exact ⟨CodePoint.toNat_injective (key _ hcode _ hother hsame), hrest⟩

theorem flatMap_quotedChar_injective {cs ds : List CodePoint}
    (h : cs.flatMap quotedChar = ds.flatMap quotedChar) : cs = ds := by
  have hne (c : CodePoint) : quotedChar c ≠ [] := by
    have hwritten := written_quotedChar c
    generalize quotedChar c = written at hwritten
    cases hwritten <;> simp
  induction cs generalizing ds with
  | nil =>
      cases ds with
      | nil => rfl
      | cons d ds => exact absurd (List.append_eq_nil_iff.mp h.symm).1 (hne d)
  | cons c cs ih =>
      cases ds with
      | nil => exact absurd (List.append_eq_nil_iff.mp h).1 (hne c)
      | cons d ds =>
          obtain ⟨rfl, hrest⟩ :=
            selfDelimiting_written (written_quotedChar c) (written_quotedChar d) h
          rw [ih hrest]

theorem selfDelimiting_quoted : SelfDelimiting fun text => (quoted text).toList := by
  intro a b rest other h
  have hbodies : a.toList.flatMap quotedChar ++ .scalar '"' :: rest =
      b.toList.flatMap quotedChar ++ .scalar '"' :: other := by
    simpa [quotedChars] using h
  obtain ⟨hbody, hrest⟩ :=
    (body_flatMap_quotedChar _).eq_of_append_quote (body_flatMap_quotedChar _) hbodies
  exact ⟨Text.toList_inj.mp (flatMap_quotedChar_injective hbody), hrest⟩

/-- Decide whether a code point is a small letter of the Latin alphabet. -/
def CodePoint.isLower : CodePoint → Bool
  | scalar c => c.isLower
  | surrogate _ => false

namespace ActionKind

/-- The pieces of a description behind the name of the kind: a fixed text, and the attribute that is
shown behind it. -/
def pieces : ActionKind → List (Text × Attribute)
  | idle | noop | debug => []
  | load => [(":on:", .url)]
  | click | submit | wait => [(":on:", .selector)]
  | type => [(":", .text), (":in:", .selector)]
  | value => [(":", .value), (":in:", .selector)]
  | scroll => [(":to:", .selector)]
  | compare => [(":", .value), (":to:", .selector)]
  | record => [(":from:", .selector)]
  | screenshot => [(":as:", .name)]
  | sleep => [(":for:", .timeout)]

/-- The pieces show all attributes but the bound, which is shown for a sleep. -/
theorem mem_pieces_iff (kind : ActionKind) (slot : Attribute) :
    slot ∈ kind.pieces.map (·.2) ↔ slot ∈ kind.attributes ∧ (slot = .timeout → kind = .sleep) := by
  cases kind <;> cases slot <;> decide

/-- How a description writes the value of an attribute. -/
def writes (kind : ActionKind) (value : Text) : Text :=
  if kind = .sleep then value else quoted value

/-- The kind that a built-in name stands for. -/
def ofName? (name : Text) : Option ActionKind :=
  (Vocabulary.findTerm? Vocabulary.builtin.terms name).map (·.kind)

/-- Each built-in kind goes by a name of its own. -/
theorem ofName?_name {kind : ActionKind} (h : kind ∈ Vocabulary.builtin.terms.map (·.kind)) :
    ofName? kind.name = some kind := by
  have hnames : ∀ kind ∈ Vocabulary.builtin.terms.map (·.kind), ofName? kind.name = some kind := by
    decide
  exact hnames kind h

/-- Names consist of small letters, so that a name can be told from what stands behind it. -/
theorem name_of_append {kind other : ActionKind} {rest more : List CodePoint}
    (hrest : ∀ c ∈ rest.head?, c.isLower = false) (hmore : ∀ c ∈ more.head?, c.isLower = false)
    (h : kind.name.toList ++ rest = other.name.toList ++ more) :
    kind.name = other.name ∧ rest = more := by
  have hletters (kind : ActionKind) : kind.name.toList.all CodePoint.isLower = true := by
    cases kind <;> decide
  have hfront (kind : ActionKind) {rest : List CodePoint} (hrest : ∀ c ∈ rest.head?, c.isLower = false) :
      (kind.name.toList ++ rest).takeWhile CodePoint.isLower = kind.name.toList := by
    rw [List.takeWhile_append_of_pos (List.all_eq_true.mp (hletters kind))]
    cases rest with
    | nil => simp
    | cons c rest => simp [hrest c rfl]
  have hname : kind.name.toList = other.name.toList := by
    rw [← hfront kind hrest, h, hfront other hmore]
  refine ⟨Text.toList_inj.mp hname, ?_⟩
  rw [hname] at h
  exact List.append_cancel_left h

end ActionKind

namespace Action

/-- What a description shows of an attribute: a picture goes by the name that it is saved under. -/
def shownValue (action : Action) (slot : Attribute) : Text :=
  if slot = .name then Deed.pictureName (action.get slot) else action.get slot

/-- The characters of pieces that show values. -/
def showPieces (kind : ActionKind) (value : Attribute → Text) (pieces : List (Text × Attribute)) :
    List CodePoint :=
  pieces.flatMap fun piece => piece.1.toList ++ (kind.writes (value piece.2)).toList

/-- All descriptions have one form. -/
theorem describe_toList (action : Action) : action.describe.toList =
    action.kind.name.toList ++ showPieces action.kind action.shownValue action.kind.pieces := by
  obtain ⟨deed, timeout⟩ := action
  cases deed <;>
    simp [describe, kind, Deed.kind, ActionKind.name, ActionKind.pieces, showPieces,
      ActionKind.writes, shownValue, get, Deed.get]

/-- One of two pictures is left without a name, and the other is given the name that it has then. -/
def SamePicture (name other : Text) : Prop :=
  name = "" ∧ other = Deed.defaultPicture ∨ name = Deed.defaultPicture ∧ other = ""

theorem pictureName_eq_iff {name other : Text} :
    Deed.pictureName name = Deed.pictureName other ↔ name = other ∨ SamePicture name other := by
  have hdefault : Deed.defaultPicture ≠ "" := by decide
  unfold Deed.pictureName SamePicture
  split <;> split <;> simp_all [eq_comm]

/-- Two actions are of one kind and agree on what they were told. Their bounds count for a sleep only,
and a picture without a name has the name that it is saved under. -/
structure Alike (a b : Action) : Prop where
  kind : a.kind = b.kind
  told : ∀ slot ∈ a.kind.attributes, (slot = .timeout → a.kind = .sleep) →
    a.get slot = b.get slot ∨ slot = .name ∧ SamePicture (a.get slot) (b.get slot)

theorem told_iff {a b : Action} {slot : Attribute} :
    a.shownValue slot = b.shownValue slot ↔
      a.get slot = b.get slot ∨ slot = .name ∧ SamePicture (a.get slot) (b.get slot) := by
  unfold shownValue
  split
  · rename_i hname
    rw [pictureName_eq_iff]
    simp [hname]
  · rename_i hname
    simp [hname]

/-- So the actions that are alike are those of one kind that show the same values. -/
theorem alike_iff {a b : Action} :
    a.Alike b ↔ a.kind = b.kind ∧ ∀ piece ∈ a.kind.pieces, a.shownValue piece.2 = b.shownValue piece.2 := by
  constructor
  · intro h
    refine ⟨h.kind, fun piece hpiece => told_iff.mpr ?_⟩
    obtain ⟨hslot, hbound⟩ :=
      (ActionKind.mem_pieces_iff a.kind piece.2).mp (List.mem_map_of_mem hpiece)
    exact h.told piece.2 hslot hbound
  · rintro ⟨hkind, hvalues⟩
    refine ⟨hkind, fun slot hslot hbound => told_iff.mp ?_⟩
    obtain ⟨piece, hpiece, rfl⟩ :=
      List.mem_map.mp ((ActionKind.mem_pieces_iff a.kind slot).mpr ⟨hslot, hbound⟩)
    exact hvalues piece hpiece

/-- Pieces with quoted values can be split off, and give away the values. -/
theorem showPieces_append {kind : ActionKind} (hkind : kind ≠ .sleep) {value other : Attribute → Text}
    {pieces : List (Text × Attribute)} {rest more : List CodePoint}
    (h : showPieces kind value pieces ++ rest = showPieces kind other pieces ++ more) :
    (∀ piece ∈ pieces, value piece.2 = other piece.2) ∧ rest = more := by
  induction pieces with
  | nil => exact ⟨by simp, h⟩
  | cons piece pieces ih =>
      simp only [showPieces, ActionKind.writes, if_neg hkind, List.flatMap_cons,
        List.append_assoc] at h
      obtain ⟨hvalue, htail⟩ := selfDelimiting_quoted _ _ _ _ (List.append_cancel_left h)
      obtain ⟨hvalues, hrest⟩ := ih (by simpa [showPieces, ActionKind.writes, hkind] using htail)
      exact ⟨List.forall_mem_cons.mpr ⟨hvalue, hvalues⟩, hrest⟩

/-- A description can be split off from what follows it, unless that continues the name of the kind, if
the bound of a sleep can be. -/
theorem alike_of_append {a b : Action} (ha : a.kind ∈ Vocabulary.builtin.terms.map (·.kind))
    (hb : b.kind ∈ Vocabulary.builtin.terms.map (·.kind)) {rest more : List CodePoint}
    (hrest : ∀ c ∈ rest.head?, c.isLower = false) (hmore : ∀ c ∈ more.head?, c.isLower = false)
    (hbound : a.timeout.toList ++ rest = b.timeout.toList ++ more →
      a.timeout = b.timeout ∧ rest = more)
    (h : a.describe.toList ++ rest = b.describe.toList ++ more) : a.Alike b ∧ rest = more := by
  have hfirst (action : Action) {rest : List CodePoint} (hrest : ∀ c ∈ rest.head?, c.isLower = false) :
      ∀ c ∈ (showPieces action.kind action.shownValue action.kind.pieces ++ rest).head?,
        c.isLower = false := by
    have hmark : ∀ piece ∈ action.kind.pieces, piece.1.toList.head? = some (.scalar ':') := by
      cases action.kind <;> decide
    cases hpieces : action.kind.pieces with
    | nil => exact hrest
    | cons piece pieces =>
        obtain ⟨tail, htail⟩ := List.head?_eq_some_iff.mp (hmark piece (by simp [hpieces]))
        simp [showPieces, htail, CodePoint.isLower]
  rw [describe_toList, describe_toList, List.append_assoc, List.append_assoc] at h
  obtain ⟨hname, hpieces⟩ := ActionKind.name_of_append (hfirst a hrest) (hfirst b hmore) h
  have hkind : a.kind = b.kind := by
    have hsome : some a.kind = some b.kind :=
      calc some a.kind = ActionKind.ofName? a.kind.name := (ActionKind.ofName?_name ha).symm
        _ = ActionKind.ofName? b.kind.name := by rw [hname]
        _ = some b.kind := ActionKind.ofName?_name hb
    exact Option.some.inj hsome
  rw [← hkind] at hpieces
  by_cases hsleep : a.kind = .sleep
  case neg =>
    obtain ⟨hvalues, htail⟩ := showPieces_append hsleep hpieces
    exact ⟨alike_iff.mpr ⟨hkind, hvalues⟩, htail⟩
  case pos =>
    have htimeout : a.timeout.toList ++ rest = b.timeout.toList ++ more := by
      simpa [showPieces, hsleep, ActionKind.pieces, ActionKind.writes, shownValue, get] using hpieces
    obtain ⟨hsame, htail⟩ := hbound htimeout
    refine ⟨alike_iff.mpr ⟨hkind, fun piece hpiece => ?_⟩, htail⟩
    rw [hsleep, ActionKind.pieces, List.mem_singleton] at hpiece
    simpa [hpiece, shownValue, get] using hsame

/-- A text without spaces can be split off where a space follows. -/
theorem eq_of_append_space {word other rest more : List CodePoint} (hword : .scalar ' ' ∉ word)
    (hother : .scalar ' ' ∉ other) (h : word ++ .scalar ' ' :: rest = other ++ .scalar ' ' :: more) :
    word = other ∧ rest = more := by
  have hfront {word rest : List CodePoint} (hword : .scalar ' ' ∉ word) :
      (word ++ .scalar ' ' :: rest).takeWhile (· ≠ .scalar ' ') = word := by
    rw [List.takeWhile_append_of_pos (fun c hc => by simpa using ne_of_mem_of_not_mem hc hword)]
    simp
  have hsame : word = other := by rw [← hfront hword, h, hfront hother]
  rw [hsame] at h
  exact ⟨hsame, (List.cons.inj (List.append_cancel_left h)).2⟩

variable {τ : Type} [TimeScale τ]

/-- A duration holds no space. -/
theorem space_not_mem_timeout {action : Action} {seconds : τ} (h : action.bound = .ok seconds) :
    .scalar ' ' ∉ action.timeout.toList := by
  rw [bound] at h
  split at h
  · rename_i hparse
    intro hspace
    have hchar := List.all_eq_true.mp (Duration.isDurationChar_of_parse hparse) _ hspace
    exact absurd hchar (by decide)
  · cases h

/-- The message of a failed step is the description of its action and, behind a space, the reason. -/
theorem message_failed_toList (action : Action) (name reason : Text) (cause : Fault) :
    (Fault.failed ⟨name, action⟩ reason cause).message.toList =
      action.describe.toList ++ .scalar ' ' :: (("failed: " : Text).toList ++ reason.toList) := by
  have hwords : (" failed: " : Text).toList = .scalar ' ' :: ("failed: " : Text).toList := by decide
  show (action.describe ++ " failed: " ++ reason).toList = _
  rw [Text.toList_append, Text.toList_append, hwords, List.append_assoc, List.cons_append]

/-- Actions of built-in kinds have the same description just if they are alike. Steps whose actions can
be played have the same failure message only if their actions are alike and the reasons are the same. -/
theorem describe_identifies_action {a b : Action}
    (ha : a.kind ∈ Vocabulary.builtin.terms.map (·.kind))
    (hb : b.kind ∈ Vocabulary.builtin.terms.map (·.kind)) :
    (a.describe = b.describe ↔ a.Alike b) ∧
      ∀ (seconds others : τ) name other reason reason' cause cause',
        a.bound = .ok seconds → b.bound = .ok others →
        (Fault.failed ⟨name, a⟩ reason cause).message =
          (Fault.failed ⟨other, b⟩ reason' cause').message →
        a.Alike b ∧ reason = reason' := by
  refine ⟨⟨fun h => ?described, fun h => ?alike⟩, ?failed⟩
  case described =>
    have hlists : a.describe.toList ++ [] = b.describe.toList ++ [] := by rw [h]
    refine (alike_of_append ha hb (by simp) (by simp) (fun htimeout => ?_) hlists).1
    exact ⟨Text.toList_inj.mp (by simpa using htimeout), rfl⟩
  case alike =>
    obtain ⟨hkind, hvalues⟩ := alike_iff.mp h
    apply Text.toList_inj.mp
    rw [describe_toList, describe_toList, ← hkind, showPieces, showPieces]
    congr 1
    exact List.flatMap_congr fun piece hpiece => by rw [hvalues piece hpiece]
  case failed =>
    intro seconds others name other reason reason' cause cause' hseconds hothers h
    have hlists := congrArg Text.toList h
    rw [message_failed_toList, message_failed_toList] at hlists
    have hspace {tail : List CodePoint} : ∀ c ∈ (CodePoint.scalar ' ' :: tail).head?,
        c.isLower = false := by
      simp [CodePoint.isLower]
    obtain ⟨halike, htail⟩ := alike_of_append ha hb hspace hspace (fun htimeout => by
      obtain ⟨hsame, hrest⟩ := eq_of_append_space (space_not_mem_timeout hseconds)
        (space_not_mem_timeout hothers) htimeout
      exact ⟨Text.toList_inj.mp hsame, by rw [hrest]⟩) hlists
    refine ⟨halike, Text.toList_inj.mp ?_⟩
    exact List.append_cancel_left (List.cons.inj htail).2

/-- Typing a text that looks like the end of one description and the beginning of another. -/
def typing (selector text : Text) : Action := ⟨.type selector text, "60s"⟩

/-- The texts are told apart although both descriptions hold the same letters around their quotes. -/
theorem typed_texts_are_told_apart :
    (typing "c" "a\":in:\"b").kind ∈ Vocabulary.builtin.terms.map (·.kind) ∧
      (typing "b\":in:\"c" "a").kind ∈ Vocabulary.builtin.terms.map (·.kind) ∧
      (typing "c" "a\":in:\"b").describe ≠ (typing "b\":in:\"c" "a").describe := by
  have ha : (typing "c" "a\":in:\"b").kind ∈ Vocabulary.builtin.terms.map (·.kind) := by decide
  have hb : (typing "b\":in:\"c" "a").kind ∈ Vocabulary.builtin.terms.map (·.kind) := by decide
  refine ⟨ha, hb, fun h => ?_⟩
  have halike := (@describe_identifies_action Float _ _ _ ha hb).1.mp h
  rcases halike.told .text (by decide) (by decide) with hsame | ⟨hname, -⟩
  · exact absurd hsame (by decide)
  · exact absurd hname (by decide)

end Action

end Playbook
