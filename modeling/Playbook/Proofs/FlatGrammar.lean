import Mathlib.Data.List.TakeWhile
import Playbook.Fault
import Playbook.Proofs.Characters
import Playbook.Proofs.Escapes
import Playbook.Record.Flat

/-! # The grammar of flat lines

A flat line writes a record as pairs that stand apart: a name, alone or with an equals sign and a
value behind it. The reader finds a record in a line exactly when the line is written so, there is
none on a blank line, and every other line is refused, for its form unless it holds a surrogate.

## Implementation notes

The reader cuts a pair before it looks at its name, and takes as much as it can for each part. What
it cuts is a pair of the grammar in one way only, since a name ends where a word character does, a
bare value at the next blank character and a quoted one at the first double quote that no backslash
escapes. -/

namespace Playbook.Record

open Text

/-- What may stand between the double quotes of a value: a double quote only behind a backslash, and a
backslash only with the character that it escapes, which is no line feed. -/
inductive FlatBody : List CodePoint → Prop
  | nil : FlatBody []
  | plain {c : CodePoint} {cs : List CodePoint} (hquote : c ≠ '"') (hbackslash : c ≠ '\\')
      (tail : FlatBody cs) : FlatBody (c :: cs)
  | escaped {c : CodePoint} {cs : List CodePoint} (hline : c ≠ '\n') (tail : FlatBody cs) :
      FlatBody ('\\' :: c :: cs)

section Layout

/-! What may stand between the double quotes is a parameter of the layout. -/

variable (Inner : List CodePoint → Prop)

/-- The ways to write a pair: a name alone, with a bare value, or with a quoted one. -/
inductive FlatPair : List CodePoint → Text × Option Text → Prop
  | alone {name : Text} (hname : isIdentifier name.toList = true) :
      FlatPair name.toList (name, none)
  | bare {name word : Text} (hname : isIdentifier name.toList = true)
      (hword : ∀ c ∈ word.toList, isBlank c = false ∧ c ≠ '"') :
      FlatPair (name.toList ++ .scalar '=' :: word.toList) (name, some word)
  | quoted {name value : Text} {body : List CodePoint} (hname : isIdentifier name.toList = true)
      (hbody : Inner body) (hvalue : TextLiteral.decode (TextLiteral.enclosed body) = .ok value) :
      FlatPair (name.toList ++ .scalar '=' :: (TextLiteral.enclosed body).toList) (name, some value)

/-- The characters of pairs that stand apart, with blank characters around them. -/
inductive FlatPairs : List CodePoint → List (Text × Option Text) → Prop
  | blank {gap : List CodePoint} (hgap : gap.all isBlank = true) : FlatPairs gap []
  | pair {gap cs rest : List CodePoint} {pair : Text × Option Text}
      {pairs : List (Text × Option Text)} (hgap : gap.all isBlank = true)
      (hpair : FlatPair Inner cs pair) (hrest : ∀ c ∈ rest.head?, isBlank c = true)
      (tail : FlatPairs rest pairs) : FlatPairs (gap ++ (cs ++ rest)) (pair :: pairs)

/-- A line writes a record: the first pair has no value or an empty one and names the kind, and the
others are the fields, where an absent value counts as empty. -/
inductive FlatLayout (line : Text) : Record → Prop
  | mk {kind : Text} {value : Option Text} {fields : List (Text × Option Text)}
      (hpairs : FlatPairs Inner line.toList ((kind, value) :: fields))
      (hvalue : value = none ∨ value = some "") :
      FlatLayout line ⟨kind, fields.map fun field => (field.1, field.2.getD "")⟩

end Layout

theorem FlatPair.mono {Inner Outer : List CodePoint → Prop} (h : ∀ body, Inner body → Outer body)
    {cs : List CodePoint} {pair : Text × Option Text} (hpair : FlatPair Inner cs pair) :
    FlatPair Outer cs pair := by
  cases hpair with
  | alone hname => exact .alone hname
  | bare hname hword => exact .bare hname hword
  | quoted hname hbody hvalue => exact .quoted hname (h _ hbody) hvalue

theorem FlatPairs.mono {Inner Outer : List CodePoint → Prop} (h : ∀ body, Inner body → Outer body)
    {cs : List CodePoint} {pairs : List (Text × Option Text)} (hpairs : FlatPairs Inner cs pairs) :
    FlatPairs Outer cs pairs := by
  induction hpairs with
  | blank hgap => exact .blank hgap
  | pair hgap hpair hrest _ ih => exact .pair hgap (hpair.mono h) hrest ih

theorem endsPair_iff {rest : List CodePoint} :
    endsPair rest = true ↔ ∀ c ∈ rest.head?, isBlank c = true := by
  cases rest <;> simp [endsPair]

/-- The rest of a quoted value is a body and the closing quote. -/
theorem cutQuoted_eq_some_iff {cs cut rest : List CodePoint} :
    cutQuoted cs = some (cut, rest) ↔
      ∃ body, FlatBody body ∧ cut = body ++ [.scalar '"'] ∧ cs = body ++ .scalar '"' :: rest := by
  constructor
  · intro h
    fun_induction cutQuoted cs generalizing cut rest with
    | case1 => cases h
    | case2 tail =>
        obtain ⟨rfl, rfl⟩ := Prod.mk.inj (Option.some.inj h)
        exact ⟨[], .nil, rfl, rfl⟩
    | case3 => cases h
    | case4 c tail hline ih =>
        obtain ⟨⟨inner, after⟩, hcut, hresult⟩ := Option.map_eq_some_iff.mp h
        obtain ⟨rfl, rfl⟩ := Prod.mk.inj hresult
        obtain ⟨body, hbody, rfl, rfl⟩ := ih hcut
        exact ⟨'\\' :: c :: body, .escaped hline hbody, rfl, rfl⟩
    | case5 => cases h
    | case6 c tail hquote hpair hbackslash ih =>
        obtain ⟨⟨inner, after⟩, hcut, hresult⟩ := Option.map_eq_some_iff.mp h
        obtain ⟨rfl, rfl⟩ := Prod.mk.inj hresult
        obtain ⟨body, hbody, rfl, rfl⟩ := ih hcut
        exact ⟨c :: body, .plain hquote hbackslash hbody, rfl, rfl⟩
  · rintro ⟨body, hbody, rfl, rfl⟩
    induction hbody with
    | nil => rfl
    | plain hquote hbackslash _ ih => simp [cutQuoted, hbackslash, ih]
    | escaped hline _ ih => simp [cutQuoted, hline, ih]

/-- A quoted value is cut at its closing quote. -/
theorem cutValue_of_quoted {body : List CodePoint} (h : FlatBody body) (rest : List CodePoint) :
    cutValue ((TextLiteral.enclosed body).toList ++ rest) =
      some ((TextLiteral.enclosed body).toList, rest) := by
  have hcut : cutQuoted (body ++ .scalar '"' :: rest) = some (body ++ [.scalar '"'], rest) :=
    cutQuoted_eq_some_iff.mpr ⟨body, h, rfl, rfl⟩
  simp [cutValue, hcut]

/-- A bare value is cut at the next blank character. -/
theorem cutValue_of_bare {word rest : List CodePoint}
    (hword : ∀ c ∈ word, isBlank c = false ∧ c ≠ '"') (hrest : endsPair rest = true) :
    cutValue (word ++ rest) = some (word, rest) := by
  rw [endsPair_iff] at hrest
  obtain ⟨htake, hdrop⟩ :
      (word ++ rest).takeWhile isBareChar = word ∧ (word ++ rest).dropWhile isBareChar = rest := by
    apply takeWhile_dropWhile_append
    · intro c hc
      simp [isBareChar, hword c hc]
    · intro c hc
      simp [isBareChar, hrest c hc]
  unfold cutValue
  split
  · rename_i tail hquote
    -- A double quote begins neither a bare value nor what follows it.
    cases word with
    | nil =>
        rw [List.nil_append] at hquote
        have hblank := hrest '"' (by simp [hquote])
        exact absurd hblank (by decide)
    | cons c word => exact absurd (List.cons.inj hquote).1 (hword c (by simp)).2
  · rw [htake, hdrop]

/-- What is cut is a quoted value, or a bare one. -/
theorem cutValue_cases {cs value rest : List CodePoint} (h : cutValue cs = some (value, rest)) :
    cs = value ++ rest ∧ ((∃ body, FlatBody body ∧ value = (TextLiteral.enclosed body).toList) ∨
      ∀ c ∈ value, isBlank c = false ∧ c ≠ '"') := by
  unfold cutValue at h
  split at h
  · obtain ⟨⟨cut, after⟩, hcut, hresult⟩ := Option.map_eq_some_iff.mp h
    obtain ⟨rfl, rfl⟩ := Prod.mk.inj hresult
    obtain ⟨body, hbody, rfl, rfl⟩ := cutQuoted_eq_some_iff.mp hcut
    exact ⟨by simp, .inl ⟨body, hbody, by simp⟩⟩
  · obtain ⟨rfl, rfl⟩ := Prod.mk.inj (Option.some.inj h)
    refine ⟨List.takeWhile_append_dropWhile.symm, .inr fun c hc => ?_⟩
    have hbare : isBareChar c = true := List.all_eq_true.mp List.all_takeWhile c hc
    simpa [isBareChar] using hbare

theorem value?_quoted {name body : List CodePoint} {value : Text}
    (h : TextLiteral.decode (TextLiteral.enclosed body) = .ok value) :
    RawPair.value? ⟨name, some (TextLiteral.enclosed body).toList⟩ = .ok (some value) := by
  rw [TextLiteral.enclosed] at h
  simp only [TextLiteral.enclosed_toList, RawPair.value?, h]

theorem value?_bare {name word : List CodePoint} (h : ∀ c ∈ word, isBlank c = false ∧ c ≠ '"') :
    RawPair.value? ⟨name, some word⟩ = .ok (some (Text.ofList word)) := by
  unfold RawPair.value?
  split
  · rename_i body hbody
    exact absurd rfl (h '"' (by simp [Option.some.inj hbody])).2
  · rename_i bare _ hbare
    rw [← Option.some.inj hbare]
  · rename_i hnone
    cases hnone

/-- A name is made of word characters. -/
theorem isNameChar_of_isWord {c : CodePoint} (h : isWord c = true) : isNameChar c = true := by
  have hblank := isBlank_of_isWord h
  have hequals : c ≠ '=' := ne_of_isWord h (by decide)
  have hquote : c ≠ '"' := ne_of_isWord h (by decide)
  simp [isNameChar, hblank, hequals, hquote]

/-- A pair is cut after an identifier and what is assigned to it. -/
theorem cutPair_of_cutAssigned {name tail rest : List CodePoint} {value : Option (List CodePoint)}
    (hname : isIdentifier name = true) (htail : ∀ c ∈ tail.head?, isNameChar c = false)
    (hcut : cutAssigned tail = some (value, rest)) (hrest : endsPair rest = true) :
    cutPair (name ++ tail) = some (⟨name, value⟩, rest) := by
  obtain ⟨htake, hdrop⟩ : (name ++ tail).takeWhile isNameChar = name ∧
      (name ++ tail).dropWhile isNameChar = tail := by
    apply takeWhile_dropWhile_append _ htail
    intro c hc
    exact isNameChar_of_isWord (isWord_of_mem_isIdentifier hname hc)
  have hne : name.isEmpty = false := by
    cases name with
    | nil => exact nomatch hname
    | cons => rfl
  simp [cutPair, htake, hdrop, hne, hcut, hrest]

/-- A name and an assigned value are cut as a pair if the value is cut where the pair ends. -/
theorem cutPair_of_cutValue {name value rest : List CodePoint} (hname : isIdentifier name = true)
    (hcut : cutValue (value ++ rest) = some (value, rest)) (hrest : endsPair rest = true) :
    cutPair (name ++ .scalar '=' :: value ++ rest) = some (⟨name, some value⟩, rest) := by
  have hassigned : cutAssigned ('=' :: (value ++ rest)) = some (some value, rest) := by
    simp only [cutAssigned, hcut, Option.map_some]
  rw [List.append_assoc, List.cons_append]
  exact cutPair_of_cutAssigned hname (by simp [isNameChar]) hassigned hrest

/-- A pair that is written is cut and read, wherever it stands. -/
theorem FlatPair.exists_cutPair {cs rest : List CodePoint} {pair : Text × Option Text}
    (h : FlatPair FlatBody cs pair) (hrest : endsPair rest = true) :
    ∃ raw : RawPair, cutPair (cs ++ rest) = some (raw, rest) ∧
      ∀ position, raw.read position = .ok pair := by
  cases h with
  | @alone name hname =>
      refine ⟨⟨name.toList, none⟩, cutPair_of_cutAssigned hname ?_ ?_ hrest, fun position => ?_⟩
      · intro c hc
        simp [isNameChar, endsPair_iff.mp hrest c hc]
      · unfold cutAssigned
        split
        · have hblank : isBlank '=' = true := hrest
          exact absurd hblank (by decide)
        · rfl
      · simp only [RawPair.read, hname, if_true, RawPair.value?, map_ok, Text.ofList_toList]
  | @bare name word hname hword =>
      refine ⟨⟨name.toList, some word.toList⟩,
        cutPair_of_cutValue hname (cutValue_of_bare hword hrest) hrest, fun position => ?_⟩
      simp only [RawPair.read, hname, if_true, value?_bare hword, map_ok, Text.ofList_toList]
  | @quoted name value body hname hbody hvalue =>
      refine ⟨⟨name.toList, some (TextLiteral.enclosed body).toList⟩,
        cutPair_of_cutValue hname (cutValue_of_quoted hbody rest) hrest, fun position => ?_⟩
      simp only [RawPair.read, hname, if_true, value?_quoted hvalue, map_ok, Text.ofList_toList]

/-- What is assigned to a name makes a pair with it. -/
theorem exists_flatPair {name tail rest : List CodePoint} {cut : Option (List CodePoint)}
    {value : Option Text} (hname : isIdentifier name = true)
    (hcut : cutAssigned tail = some (cut, rest)) (hvalue : RawPair.value? ⟨name, cut⟩ = .ok value) :
    ∃ text, tail = text ++ rest ∧ FlatPair FlatBody (name ++ text) (Text.ofList name, value) := by
  obtain ⟨name, rfl⟩ : ∃ text : Text, name = text.toList :=
    ⟨Text.ofList name, Text.toList_ofList.symm⟩
  rw [Text.ofList_toList]
  unfold cutAssigned at hcut
  split at hcut
  · obtain ⟨⟨word, after⟩, hword, hresult⟩ := Option.map_eq_some_iff.mp hcut
    obtain ⟨rfl, rfl⟩ := Prod.mk.inj hresult
    obtain ⟨rfl, hcases⟩ := cutValue_cases hword
    refine ⟨'=' :: word, rfl, ?_⟩
    rcases hcases with ⟨body, hbody, rfl⟩ | hbare
    · cases hdecode : TextLiteral.decode (TextLiteral.enclosed body) with
      | ok text =>
          obtain rfl := Except.ok.inj ((value?_quoted hdecode).symm.trans hvalue)
          exact .quoted hname hbody hdecode
      | error fault =>
          rw [TextLiteral.enclosed] at hdecode
          simp only [TextLiteral.enclosed_toList, RawPair.value?, hdecode] at hvalue
          cases hvalue
    · obtain rfl := Except.ok.inj ((value?_bare hbare).symm.trans hvalue)
      have hpair : FlatPair FlatBody (name.toList ++ .scalar '=' :: (Text.ofList word).toList)
          (name, some (Text.ofList word)) :=
        .bare hname (by simpa using hbare)
      rwa [Text.toList_ofList] at hpair
  · obtain ⟨rfl, rfl⟩ := Prod.mk.inj (Option.some.inj hcut)
    obtain rfl := Except.ok.inj hvalue
    have hpair : FlatPair FlatBody name.toList (name, none) := .alone hname
    exact ⟨[], rfl, by rwa [List.append_nil]⟩

/-- What is cut and read as a pair is one. -/
theorem flatPair_of_cutPair {cs rest : List CodePoint} {raw : RawPair} {position : Nat}
    {pair : Text × Option Text} (hcut : cutPair cs = some (raw, rest))
    (hread : raw.read position = .ok pair) :
    endsPair rest = true ∧ ∃ text, cs = text ++ rest ∧ FlatPair FlatBody text pair := by
  have hsplit : cs.takeWhile isNameChar ++ cs.dropWhile isNameChar = cs :=
    List.takeWhile_append_dropWhile
  unfold cutPair at hcut
  dsimp only at hcut
  split at hcut
  · cases hcut
  split at hcut
  · rename_i value after hassigned
    split at hcut
    · rename_i hends
      obtain ⟨rfl, rfl⟩ := Prod.mk.inj (Option.some.inj hcut)
      unfold RawPair.read at hread
      split at hread
      · rename_i hname
        obtain ⟨given, hgiven, rfl⟩ := map_eq_ok.mp hread
        obtain ⟨text, htail, hpair⟩ := exists_flatPair hname hassigned hgiven
        refine ⟨hends, _, ?_, hpair⟩
        rw [List.append_assoc, ← htail, hsplit]
      · cases hread
    · cases hcut
  · cases hcut

/-- Blank characters before a pair are skipped. -/
theorem FlatPair.dropWhile_isBlank {Inner : List CodePoint → Prop} {gap cs : List CodePoint}
    {pair : Text × Option Text} (h : FlatPair Inner cs pair) (hgap : gap.all isBlank = true)
    (rest : List CodePoint) :
    (gap ++ (cs ++ rest)).dropWhile isBlank = cs ++ rest := by
  obtain ⟨name, tail, hname, rfl⟩ :
      ∃ name tail : List CodePoint, isIdentifier name = true ∧ cs = name ++ tail := by
    cases h with
    | alone hname => exact ⟨_, [], hname, (List.append_nil _).symm⟩
    | bare hname _ => exact ⟨_, _, hname, rfl⟩
    | quoted hname _ _ => exact ⟨_, _, hname, rfl⟩
  have hhead : ∀ c ∈ (name ++ tail ++ rest).head?, isBlank c = false := by
    intro c hc
    cases name with
    | nil => exact nomatch hname
    | cons d ds =>
        obtain rfl : d = c := by simpa using hc
        exact isBlank_of_isWord (isWord_of_mem_isIdentifier hname (by simp))
  exact (takeWhile_dropWhile_append (List.all_eq_true.mp hgap) hhead).2

/-- The first pair of a line stands behind blank characters. -/
theorem FlatPairs.cut {Inner : List CodePoint → Prop} {cs : List CodePoint}
    {first : Text × Option Text} {pairs : List (Text × Option Text)}
    (h : FlatPairs Inner cs (first :: pairs)) :
    ∃ text rest, cs.dropWhile isBlank = text ++ rest ∧ FlatPair Inner text first ∧
      FlatPairs Inner rest pairs := by
  cases h with
  | pair hgap hpair hrest tail => exact ⟨_, _, hpair.dropWhile_isBlank hgap _, hpair, tail⟩

/-- The pairs of a line are its first pair and those of the rest. -/
theorem readPairs_of_cutPair {cs start rest : List CodePoint} {pair : RawPair}
    {first : Text × Option Text} (hstart : cs.dropWhile isBlank = start)
    (hcut : cutPair start = some (pair, rest)) (hread : ∀ position, pair.read position = .ok first)
    (position : Nat) :
    ∃ next, readPairs position cs = (readPairs next rest).map (first :: ·) := by
  have hne : start.isEmpty = false := by
    cases start with
    | nil => simp [cutPair] at hcut
    | cons => rfl
  subst hstart
  rw [readPairs]
  simp only [hne, Bool.false_eq_true, if_false]
  split
  · rename_i hnone
    simp [hcut] at hnone
  · rename_i other after hother
    obtain ⟨rfl, rfl⟩ := Prod.mk.inj (Option.some.inj (hother.symm.trans hcut))
    rw [hread, ok_bind]
    exact ⟨_, bind_ok_eq_map _ _⟩

/-- There are no pairs among blank characters. -/
theorem readPairs_of_blank {cs : List CodePoint} (h : cs.all isBlank = true) (position : Nat) :
    readPairs position cs = .ok [] := by
  have hdrop : cs.dropWhile isBlank = [] := by
    rw [List.dropWhile_eq_nil_iff]
    exact List.all_eq_true.mp h
  rw [readPairs]
  simp [hdrop]

/-- Pairs that are written are read, whatever their position. -/
theorem FlatPairs.readPairs_eq {cs : List CodePoint} {pairs : List (Text × Option Text)}
    (h : FlatPairs FlatBody cs pairs) (position : Nat) : readPairs position cs = .ok pairs := by
  induction h generalizing position with
  | blank hgap => exact readPairs_of_blank hgap position
  | @pair gap cs rest pair pairs hgap hpair hrest _ ih =>
      obtain ⟨raw, hcut, hread⟩ := hpair.exists_cutPair (endsPair_iff.mpr hrest)
      obtain ⟨next, heq⟩ :=
        readPairs_of_cutPair (hpair.dropWhile_isBlank hgap rest) hcut hread position
      rw [heq, ih next, map_ok]

/-- Pairs that are read are written. -/
theorem flatPairs_of_readPairs {position : Nat} {cs : List CodePoint}
    {pairs : List (Text × Option Text)} (h : readPairs position cs = .ok pairs) :
    FlatPairs FlatBody cs pairs := by
  fun_induction readPairs position cs generalizing pairs with
  | @case1 _ cs _ hempty =>
      obtain rfl := Except.ok.inj h
      have hdrop : cs.dropWhile isBlank = [] := List.isEmpty_iff.mp hempty
      rw [List.dropWhile_eq_nil_iff] at hdrop
      exact .blank (List.all_eq_true.mpr hdrop)
  | case2 => cases h
  | @case3 _ cs _ _ _ raw rest hcut ih =>
      obtain ⟨first, hfirst, h⟩ := bind_eq_ok.mp h
      obtain ⟨more, hmore, h⟩ := bind_eq_ok.mp h
      obtain rfl := Except.ok.inj h
      obtain ⟨hends, text, hstart, hpair⟩ := flatPair_of_cutPair hcut hfirst
      have hsplit : cs.takeWhile isBlank ++ (text ++ rest) = cs := by
        rw [← hstart]
        exact List.takeWhile_append_dropWhile
      rw [← hsplit]
      exact .pair List.all_takeWhile hpair (endsPair_iff.mp hends) (ih hmore)

/-- What is cut as a pair is a name with what is assigned to it. -/
theorem cutPair_split {cs rest : List CodePoint} {raw : RawPair} (h : cutPair cs = some (raw, rest)) :
    rest ⊆ cs ∧ ∀ value ∈ raw.value, value ⊆ cs := by
  have hdrop : cs.dropWhile isNameChar ⊆ cs := (List.dropWhile_sublist isNameChar).subset
  unfold cutPair at h
  dsimp only at h
  split at h
  · cases h
  split at h
  · rename_i value after hassigned
    split at h
    · obtain ⟨rfl, rfl⟩ := Prod.mk.inj (Option.some.inj h)
      unfold cutAssigned at hassigned
      split at hassigned
      · rename_i tail htail
        obtain ⟨⟨word, after⟩, hword, hresult⟩ := Option.map_eq_some_iff.mp hassigned
        obtain ⟨rfl, rfl⟩ := Prod.mk.inj hresult
        obtain ⟨rfl, -⟩ := cutValue_cases hword
        rw [htail] at hdrop
        refine ⟨fun c hc => hdrop (by simp [hc]), ?_⟩
        rintro _ ⟨⟩ c hc
        exact hdrop (by simp [hc])
      · obtain ⟨rfl, rfl⟩ := Prod.mk.inj (Option.some.inj hassigned)
        exact ⟨hdrop, nofun⟩
    · cases h
  · cases h

/-- A pair without surrogates is refused for its form. -/
theorem isSyntax_of_read {raw : RawPair} {position : Nat} {fault : RecordFault}
    (h : raw.read position = .error fault)
    (hscalar : ∀ value ∈ raw.value, value.all CodePoint.isScalar = true) : fault.isSyntax = true := by
  unfold RawPair.read at h
  split at h
  · unfold RawPair.value? at h
    split at h
    · rename_i body hbody
      split at h
      · cases h
      · rename_i later hdecode
        obtain rfl := Except.error.inj h
        exact TextLiteral.isSyntax_of_decode hdecode (hscalar _ hbody)
    · cases h
    · cases h
  · obtain rfl := Except.error.inj h
    rfl

/-- Pairs without surrogates are refused for their form. -/
theorem isSyntax_of_readPairs {position : Nat} {cs : List CodePoint} {fault : RecordFault}
    (h : readPairs position cs = .error fault) (hscalar : cs.all CodePoint.isScalar = true) :
    fault.isSyntax = true := by
  rw [List.all_eq_true] at hscalar
  fun_induction readPairs position cs with
  | case1 => cases h
  | case2 =>
      obtain rfl := Except.error.inj h
      rfl
  | @case3 _ cs _ _ _ raw rest hcut ih =>
      have hstart : cs.dropWhile isBlank ⊆ cs := (List.dropWhile_sublist isBlank).subset
      obtain ⟨hrest, hvalue⟩ := cutPair_split hcut
      cases hread : raw.read _ with
      | error later =>
          rw [hread] at h
          obtain rfl := Except.error.inj h
          exact isSyntax_of_read hread fun value hmem =>
            List.all_eq_true.mpr fun c hc => hscalar c (hstart (hvalue value hmem hc))
      | ok first =>
          rw [hread, ok_bind] at h
          cases hmore : readPairs _ rest with
          | error later =>
              rw [hmore] at h
              obtain rfl := Except.error.inj h
              exact ih hmore fun c hc => hscalar c (hstart (hrest hc))
          | ok more =>
              rw [hmore] at h
              cases h

/-- A line without surrogates is refused for its form. -/
theorem isSyntax_of_ofFlat {line : Text} {fault : RecordFault} (h : ofFlat line = .error fault)
    (hscalar : line.isScalar = true) : fault.isSyntax = true := by
  rw [ofFlat] at h
  cases hread : readPairs 0 line.toList with
  | error later =>
      rw [hread] at h
      obtain rfl := Except.error.inj h
      exact isSyntax_of_readPairs hread hscalar
  | ok pairs =>
      rw [hread, ok_bind] at h
      unfold ofPairs at h
      split at h
      · cases h
      split at h
      · cases h
      · cases h
      · obtain rfl := Except.error.inj h
        rfl

/-- There is no record exactly on a blank line. -/
theorem ofFlat_eq_none_iff {line : Text} :
    ofFlat line = .ok none ↔ ∀ c ∈ line.toList, isBlank c = true := by
  constructor
  · intro h
    obtain ⟨pairs, hpairs, h⟩ := bind_eq_ok.mp h
    unfold ofPairs at h
    split at h
    · have hwritten := flatPairs_of_readPairs hpairs
      generalize line.toList = cs at hwritten
      cases hwritten with
      | blank hgap => exact List.all_eq_true.mp hgap
    · split at h <;> cases h
  · intro h
    rw [ofFlat, readPairs_of_blank (List.all_eq_true.mpr h)]
    rfl

/-- A record is read exactly from the lines that write it. -/
theorem ofFlat_eq_some_iff {line : Text} {record : Record} :
    ofFlat line = .ok (some record) ↔ FlatLayout FlatBody line record := by
  constructor
  · intro h
    obtain ⟨pairs, hpairs, h⟩ := bind_eq_ok.mp h
    have hwritten := flatPairs_of_readPairs hpairs
    unfold ofPairs at h
    split at h
    · cases h
    split at h
    · obtain rfl := Option.some.inj (Except.ok.inj h)
      exact .mk hwritten (.inl rfl)
    · obtain rfl := Option.some.inj (Except.ok.inj h)
      exact .mk hwritten (.inr rfl)
    · cases h
  · rintro ⟨hpairs, hvalue⟩
    rw [ofFlat, hpairs.readPairs_eq, ok_bind]
    rcases hvalue with rfl | rfl <;> rfl

/-- The reader of flat lines accepts exactly their grammar: there is no record exactly on a blank
line, a record exactly on the lines that write it, and every other line is refused, without surrogates
for its form. -/
theorem ofFlat_accepts_grammar (line : Text) :
    (ofFlat line = .ok none ↔ ∀ c ∈ line.toList, isBlank c = true) ∧
      (∀ record, ofFlat line = .ok (some record) ↔ FlatLayout FlatBody line record) ∧
      ((∀ c ∈ line.toList, isBlank c = true) ∨ (∃ record, FlatLayout FlatBody line record) ∨
        ∃ fault, ofFlat line = .error fault ∧
          (line.isScalar = true → (Fault.malformed fault).className = "PlaybookSyntaxError")) := by
  refine ⟨ofFlat_eq_none_iff, fun record => ofFlat_eq_some_iff, ?_⟩
  cases hread : ofFlat line with
  | error fault =>
      refine .inr (.inr ⟨fault, rfl, fun hscalar => ?_⟩)
      simp [Fault.className, isSyntax_of_ofFlat hread hscalar]
  | ok found =>
      cases found with
      | none => exact .inl (ofFlat_eq_none_iff.mp hread)
      | some record => exact .inr (.inl ⟨record, ofFlat_eq_some_iff.mp hread⟩)

/-- A line feed may stand directly behind a backslash that is escaped itself: this line is read, and a
grammar without such bodies does not have it. -/
theorem ofFlat_line_feed_behind_backslash :
    ofFlat "k a=\"\\\\\n\"" = .ok (some ⟨"k", [("a", "\\\n")]⟩) ∧
      ∀ record, ¬ FlatLayout (fun body => FlatBody body ∧ ¬ [.scalar '\\', .scalar '\n'] <:+: body)
        "k a=\"\\\\\n\"" record := by
  have hbody : FlatBody ['\\', '\\', '\n'] :=
    .escaped (by decide) (.plain (by decide) (by decide) .nil)
  have hfield : FlatPair FlatBody ['a', '=', '"', '\\', '\\', '\n', '"'] ("a", some "\\\n") :=
    @FlatPair.quoted _ "a" "\\\n" _ (by decide) hbody rfl
  have hkind : FlatPair FlatBody [.scalar 'k'] ("k", none) := @FlatPair.alone _ "k" (by decide)
  have hblank : [CodePoint.scalar ' '].all isBlank = true := by decide
  have hfields : FlatPairs FlatBody [' ', 'a', '=', '"', '\\', '\\', '\n', '"']
      [("a", some "\\\n")] :=
    @FlatPairs.pair _ [.scalar ' '] _ [] _ _ hblank hfield nofun (.blank rfl)
  have hwritten := @FlatPairs.pair _ [] _ _ _ _ rfl hkind (by simpa using hblank) hfields
  have hlayout : FlatLayout FlatBody "k a=\"\\\\\n\"" ⟨"k", [("a", "\\\n")]⟩ :=
    @FlatLayout.mk _ _ "k" none [("a", some "\\\n")] hwritten (.inl rfl)
  refine ⟨ofFlat_eq_some_iff.mpr hlayout, ?_⟩
  rintro _ ⟨hpairs, -⟩
  -- The pairs are those that are read, so the field is quoted, and its body is the one above.
  have hread := (hpairs.mono fun _ hbody => hbody.1).readPairs_eq 0
  have heq := Except.ok.inj ((hwritten.readPairs_eq 0).symm.trans hread)
  obtain ⟨⟨rfl, rfl⟩, rfl⟩ : (_ ∧ _) ∧ _ := by simpa using heq
  obtain ⟨_, rest, hline, hkind, hfields⟩ := hpairs.cut
  cases hkind
  obtain rfl : " a=\"\\\\\n\"".toList.map .scalar = rest := (List.cons.inj hline).2
  obtain ⟨_, rest, hline, hfield, -⟩ := hfields.cut
  cases hfield with
  | bare _ hword => exact absurd (hword '\n' (by decide)).1 (by decide)
  | @quoted _ _ body _ hbody _ =>
    have hcut : cutQuoted ['\\', '\\', '\n', '"'] = some (body ++ [.scalar '"'], rest) := by
      refine cutQuoted_eq_some_iff.mpr ⟨body, hbody.1, rfl, ?_⟩
      have htail : "a=\"\\\\\n\"".toList.map CodePoint.scalar = _ := hline
      simpa using htail
    have heq : "\\\\\n".toList.map CodePoint.scalar ++ [.scalar '"'] = body ++ [.scalar '"'] :=
      (Prod.mk.inj (Option.some.inj hcut)).1
    obtain rfl := List.append_cancel_right heq
    exact hbody.2 ⟨[.scalar '\\'], [], rfl⟩

end Playbook.Record
