import Mathlib.Data.List.Nodup
import Mathlib.Data.List.TakeWhile
import Playbook.CommandLine
import Playbook.Proofs.Characters
import Playbook.Proofs.Outcome

/-! # The grammar of command lines

A command line that is accepted uses flags, one after another. A flag is written with two dashes, in
full or shortened as long as it is the only one that fits, and its value is attached to it with an
equals sign or stands after it. What the flags of such a line say is what its uses say in order. -/

namespace Playbook

namespace Flag

/-- The spelling of a flag with two dashes. -/
def long : Flag → Text
  | help => "--help"
  | input => "--in"
  | debug => "--debug"
  | proxy => "--proxy"
  | report => "--report"
  | dialect => "--syntax"
  | strict => "--strict"

/-- A flag is the only one whose spelling begins with a text. -/
def Fits (flag : Flag) (text : Text) : Prop :=
  ∀ other : Flag, text.toList <+: other.long.toList ↔ other = flag

/-- The flags whose spelling begins with some characters. -/
def begunBy (start : List CodePoint) : List Flag :=
  all.filter fun flag => start.isPrefixOf flag.long.toList

theorem mem_all (flag : Flag) : flag ∈ all := by
  cases flag <;> decide

theorem bySpelling_eq : bySpelling = (("-h" : Text), help) :: all.map fun flag => (flag.long, flag) := rfl

theorem mem_begunBy {flag : Flag} {start : List CodePoint} :
    flag ∈ begunBy start ↔ start <+: flag.long.toList := by
  simp [begunBy, mem_all]

/-- A flag fits alone if there is no other to choose from. -/
theorem begunBy_eq_singleton {flag : Flag} {text : Text} :
    begunBy text.toList = [flag] ↔ flag.Fits text := by
  have hnodup : (begunBy text.toList).Nodup := List.Nodup.filter _ (by decide)
  rw [← List.perm_singleton, List.perm_ext_iff_of_nodup hnodup (List.nodup_singleton flag)]
  simp only [mem_begunBy, List.mem_singleton, Fits]

theorem fits_long (flag : Flag) : flag.Fits flag.long := by
  intro other
  rw [← List.isPrefixOf_iff_prefix]
  cases flag <;> cases other <;> decide

theorem equals_not_mem_long (flag : Flag) : .scalar '=' ∉ flag.long.toList := by
  cases flag <;> decide

theorem two_dashes_long (flag : Flag) :
    ∃ rest, flag.long.toList = .scalar '-' :: .scalar '-' :: rest := by
  cases flag <;> exact ⟨_, rfl⟩

namespace Fits

variable {flag : Flag} {text : Text}

theorem isPrefix (h : flag.Fits text) : text.toList <+: flag.long.toList := (h flag).mpr rfl

theorem equals_not_mem (h : flag.Fits text) : .scalar '=' ∉ text.toList :=
  fun hmem => flag.equals_not_mem_long (h.isPrefix.subset hmem)

/-- What fits one flag alone has more than the dashes that all flags begin with. -/
theorem two_dashes (h : flag.Fits text) :
    ∃ rest, text.toList = .scalar '-' :: .scalar '-' :: rest ∧ rest ≠ [] := by
  have hmore : ¬ text.toList <+: [.scalar '-', .scalar '-'] := by
    intro hfew
    have hall (other : Flag) : other = flag := by
      obtain ⟨rest, hrest⟩ := other.two_dashes_long
      exact (h other).mp (hfew.trans ⟨rest, hrest.symm⟩)
    exact absurd ((hall .help).trans (hall .input).symm) (by decide)
  have hlong : [.scalar '-', .scalar '-'] <+: flag.long.toList := by
    obtain ⟨rest, hrest⟩ := flag.two_dashes_long
    exact ⟨rest, hrest.symm⟩
  rcases List.prefix_or_prefix_of_prefix h.isPrefix hlong with hfew | ⟨rest, hrest⟩
  · exact absurd hfew hmore
  · refine ⟨rest, hrest.symm, ?_⟩
    rintro rfl
    exact hmore (by simp [← hrest])

theorem ne_separator (h : flag.Fits text) : text ≠ "--" := by
  rintro rfl
  obtain ⟨rest, hrest, hmore⟩ := h.two_dashes
  exact hmore (List.cons.inj (List.cons.inj hrest).2).2.symm

end Fits

end Flag

namespace CommandLine

/-- A word begins like a flag: with two dashes and, before any equals sign, with nothing but the
beginning of a spelling, or with the short spelling. -/
def BeginsLikeFlag (word : Text) : Prop :=
  [.scalar '-', .scalar '-'] <+: word.toList ∧
      (∃ flag : Flag, word.toList.takeWhile (· ≠ .scalar '=') <+: flag.long.toList) ∨
    [.scalar '-', .scalar 'h'] <+: word.toList

/-- A word can be the value of the flag before it: it has no dash in front, or that is all it has, or it
begins like no flag and is a negative number or holds a space. -/
def IsOperand (word : Text) : Prop :=
  word.toList.head? ≠ some dash ∨ word = "-" ∨
    ¬ BeginsLikeFlag word ∧ (isNegativeNumber word.toList = true ∨ .scalar ' ' ∈ word.toList)

section Cut

variable {start value cs : List CodePoint}

theorem cutEquals_append (h : .scalar '=' ∉ start) (value : List CodePoint) :
    cutEquals (start ++ .scalar '=' :: value) = (start, some value) := by
  have hstart : ∀ c ∈ start, decide (c ≠ .scalar '=') = true := fun c hc => by
    simpa using ne_of_mem_of_not_mem hc h
  have hvalue : ∀ c ∈ (CodePoint.scalar '=' :: value).head?, decide (c ≠ .scalar '=') = false := by simp
  obtain ⟨htake, hdrop⟩ := Text.takeWhile_dropWhile_append hstart hvalue
  rw [cutEquals, htake, hdrop]

theorem cutEquals_of_not_mem (h : .scalar '=' ∉ cs) : cutEquals cs = (cs, none) := by
  have hdrop : cs.dropWhile (· ≠ .scalar '=') = [] := by
    rw [List.dropWhile_eq_nil_iff]
    exact fun c hc => by simpa using ne_of_mem_of_not_mem hc h
  rw [cutEquals, hdrop]

/-- A text is cut at its first equals sign, if it has one. -/
theorem cutEquals_cases (cs : List CodePoint) :
    .scalar '=' ∉ cs ∧ cutEquals cs = (cs, none) ∨
      ∃ start value, .scalar '=' ∉ start ∧ cs = start ++ .scalar '=' :: value ∧
        cutEquals cs = (start, some value) := by
  by_cases h : .scalar '=' ∈ cs
  · obtain ⟨start, value, rfl, hstart⟩ := List.eq_append_cons_of_mem h
    exact .inr ⟨start, value, hstart, rfl, cutEquals_append hstart value⟩
  · exact .inl ⟨h, cutEquals_of_not_mem h⟩

theorem cutEquals_fst (cs : List CodePoint) : (cutEquals cs).1 = cs.takeWhile (· ≠ .scalar '=') := by
  rw [cutEquals]
  split
  · rename_i hnone
    rw [List.dropWhile_eq_nil_iff] at hnone
    exact (List.takeWhile_eq_self_iff.mpr hnone).symm
  · rfl

end Cut

theorem mem_of_lookup {word : Text} {flag : Flag}
    (h : Flag.bySpelling.lookup word = some flag) :
    word = "-h" ∧ flag = .help ∨ word = flag.long := by
  obtain ⟨first, rest, hall, -⟩ := List.lookup_eq_some_iff.mp h
  have hmem : (word, flag) ∈ Flag.bySpelling := by simp [hall]
  rw [Flag.bySpelling_eq, List.mem_cons, List.mem_map] at hmem
  rcases hmem with hshort | ⟨other, -, hlong⟩
  · exact .inl (Prod.mk.inj hshort)
  · obtain ⟨rfl, rfl⟩ := Prod.mk.inj hlong
    exact .inr rfl

section Classify

variable {word : Text} {cs rest : List CodePoint}

/-- The flags that a word with two dashes may stand for. -/
theorem longCandidates_eq (h : cs = .scalar '-' :: .scalar '-' :: rest) :
    longCandidates cs = (Flag.begunBy (cutEquals cs).1).map fun flag =>
      (flag.long, .flag flag false ((cutEquals cs).2.map Text.ofList)) := by
  have hshort : ¬ (cutEquals cs).1.isPrefixOf ("-h" : Text).toList := by
    rw [cutEquals_fst, h]
    simp
  have hword (flag : Flag) (attached : Option Text) :
      flagWord flag.long flag attached = .flag flag false attached := by
    cases flag <;> rfl
  rw [longCandidates, Flag.bySpelling_eq]
  dsimp only
  rw [List.filter_cons, if_neg hshort, List.filter_map, List.map_map]
  exact List.map_congr_left fun flag _ => congrArg (Prod.mk _) (hword flag _)

/-- What a word with two dashes is told apart as, by the flags that it may stand for. -/
theorem classifyDashed_of_two_dashes (h : word.toList = .scalar '-' :: .scalar '-' :: rest) :
    classifyDashed word =
      match Flag.begunBy (word.toList.takeWhile (· ≠ .scalar '=')) with
      | [flag] => .ok (.flag flag false ((cutEquals word.toList).2.map Text.ofList))
      | [] => if isNegativeNumber word.toList || word.toList.contains (.scalar ' ') then .ok .operand
          else .ok .unknown
      | flags => .error (.ambiguous word (flags.map Flag.long)) := by
  have hcandidates : (if word.toList[1]? = some dash then longCandidates word.toList
      else shortCandidates word.toList) = _ :=
    (if_pos (by rw [h]; rfl)).trans (longCandidates_eq h)
  rw [classifyDashed]
  simp only [hcandidates, cutEquals_fst]
  match Flag.begunBy (word.toList.takeWhile (· ≠ .scalar '=')) with
  | [] => rfl
  | [flag] => rfl
  | flag :: other :: flags => simp

/-- A word with two dashes that is a flag in full is told apart like any other. -/
theorem classify_of_two_dashes (h : word.toList = .scalar '-' :: .scalar '-' :: rest) :
    classify word = classifyDashed word := by
  rw [classify]
  simp only [h, dash, ne_eq, not_true_eq_false, if_false, List.isEmpty_cons, Bool.false_eq_true]
  cases hlookup : Flag.bySpelling.lookup word with
  | some flag =>
      rcases mem_of_lookup hlookup with ⟨rfl, -⟩ | rfl
      · cases h
      · cases flag <;> rfl
  | none =>
      dsimp only
      rw [← h]
      rcases cutEquals_cases word.toList with ⟨-, hcut⟩ | ⟨start, value, -, hstart, hcut⟩
      · rw [hcut]
      · have hbegin := cutEquals_fst word.toList
        rw [hcut] at hbegin ⊢
        dsimp only
        cases hlookup : Flag.bySpelling.lookup (Text.ofList start) with
        | none => rfl
        | some flag =>
            rcases mem_of_lookup hlookup with ⟨hshort, -⟩ | hlong
            · obtain rfl : start = [.scalar '-', .scalar 'h'] := Text.ofList_inj.mp hshort
              rw [hstart] at h
              cases h
            · have hfits : Flag.begunBy (word.toList.takeWhile (· ≠ .scalar '=')) = [flag] := by
                rw [← hbegin, ← (Text.toList_ofList : (Text.ofList start).toList = _), hlong]
                exact Flag.begunBy_eq_singleton.mpr flag.fits_long
              rw [classifyDashed_of_two_dashes h, hfits, hcut, hlong]
              cases flag <;> rfl

/-- The flags that a word with one dash may stand for. -/
theorem shortCandidates_eq {c : CodePoint} (h : cs = .scalar '-' :: c :: rest) (hc : c ≠ '-') :
    shortCandidates cs =
      if c = 'h' then [(("-h" : Text), flagWord "-h" .help (some (Text.ofList rest)))] else [] := by
  rw [shortCandidates, Flag.bySpelling_eq, List.filterMap_cons, List.filterMap_eq_nil_iff.mpr ?long]
  · by_cases hh : c = 'h'
    · simp [h, hh]
    · simp [h, hh, Ne.symm hh]
  case long =>
    simp only [List.mem_map]
    rintro _ ⟨flag, -, rfl⟩
    obtain ⟨more, hmore⟩ := flag.two_dashes_long
    simp [hmore, h, hc, Ne.symm hc]

/-- A word with one dash that is no flag in full is told apart by the flags that it may stand for. -/
theorem classify_eq_classifyDashed {c : CodePoint} (h : word.toList = .scalar '-' :: c :: rest)
    (hc : c ≠ '-') (hh : c ≠ 'h') : classify word = classifyDashed word := by
  have hnone (text : Text) (more : List CodePoint) (htext : text.toList ++ more = .scalar '-' :: c :: rest) :
      Flag.bySpelling.lookup text = none := by
    cases hlookup : Flag.bySpelling.lookup text with
    | none => rfl
    | some flag =>
        rcases mem_of_lookup hlookup with ⟨rfl, -⟩ | rfl
        · exact absurd (List.cons.inj (List.cons.inj htext).2).1.symm hh
        · obtain ⟨long, hlong⟩ := flag.two_dashes_long
          rw [hlong] at htext
          exact absurd (List.cons.inj (List.cons.inj htext).2).1.symm hc
  rw [classify]
  simp only [h, dash, ne_eq, not_true_eq_false, if_false, List.isEmpty_cons, Bool.false_eq_true]
  rw [hnone word [] (by rw [List.append_nil, h]), ← h]
  rcases cutEquals_cases word.toList with ⟨-, hcut⟩ | ⟨start, value, -, hstart, hcut⟩
  · rw [hcut]
  · rw [hcut]
    dsimp only
    rw [hnone (Text.ofList start) (.scalar '=' :: value) (by rw [Text.toList_ofList, ← hstart, h])]

/-- A word with one dash is no flag unless it begins with the short spelling. -/
theorem classify_of_one_dash {c : CodePoint} (h : word.toList = .scalar '-' :: c :: rest) (hc : c ≠ '-')
    (hh : c ≠ 'h') : classify word =
      .ok (if isNegativeNumber word.toList || word.toList.contains (.scalar ' ') then .operand
        else .unknown) := by
  have hcandidates : (if word.toList[1]? = some dash then longCandidates word.toList
      else shortCandidates word.toList) = [] := by
    rw [if_neg (by rw [h]; simpa [dash] using hc), shortCandidates_eq h hc, if_neg hh]
  rw [classify_eq_classifyDashed h hc hh, classifyDashed]
  simp only [hcandidates]
  split <;> rfl

/-- A word that begins with the short spelling asks for help. -/
theorem classify_of_help (h : word.toList = .scalar '-' :: .scalar 'h' :: rest) :
    ∃ short attached, classify word = .ok (.flag .help short attached) := by
  have hlookup {text : Text} {flag : Flag} (more : List CodePoint)
      (htext : text.toList ++ more = .scalar '-' :: .scalar 'h' :: rest)
      (hflag : Flag.bySpelling.lookup text = some flag) : flag = .help := by
    rcases mem_of_lookup hflag with ⟨-, rfl⟩ | rfl
    · rfl
    · obtain ⟨long, hlong⟩ := flag.two_dashes_long
      rw [hlong] at htext
      cases htext
  have hdashed : ∃ short attached, classifyDashed word = .ok (.flag .help short attached) := by
    have hcandidates : (if word.toList[1]? = some dash then longCandidates word.toList
        else shortCandidates word.toList) = _ :=
      (if_neg (by simp [h, dash])).trans (shortCandidates_eq h (by decide))
    rw [classifyDashed]
    simp only [hcandidates, if_true]
    exact ⟨_, _, rfl⟩
  rw [classify]
  simp only [h, dash, ne_eq, not_true_eq_false, if_false, List.isEmpty_cons, Bool.false_eq_true]
  split
  · rename_i flag hflag
    rw [hlookup [] (by rw [List.append_nil, h]) hflag]
    exact ⟨_, _, rfl⟩
  · rw [← h]
    rcases cutEquals_cases word.toList with ⟨-, hcut⟩ | ⟨start, value, -, hstart, hcut⟩
    · rw [hcut]
      exact hdashed
    · rw [hcut]
      dsimp only
      split
      · rename_i flag hflag
        rw [hlookup (.scalar '=' :: value) (by rw [Text.toList_ofList, ← hstart, h]) hflag]
        exact ⟨_, _, rfl⟩
      · exact hdashed

/-- Words by what they begin with. -/
theorem word_cases (word : Text) :
    word.toList.head? ≠ some dash ∨ word = "-" ∨ (∃ rest, word.toList = .scalar '-' :: .scalar '-' :: rest) ∨
      (∃ rest, word.toList = .scalar '-' :: .scalar 'h' :: rest) ∨
      ∃ (c : CodePoint) (rest : _), c ≠ '-' ∧ c ≠ 'h' ∧ word.toList = .scalar '-' :: c :: rest := by
  by_cases hdash : word.toList.head? = some dash
  · obtain ⟨rest, hrest⟩ := List.head?_eq_some_iff.mp hdash
    match rest with
    | [] => exact .inr (.inl (Text.toList_inj.mp hrest))
    | c :: rest =>
        refine .inr (.inr ?_)
        by_cases hc : c = '-'
        · subst hc
          exact .inl ⟨rest, hrest⟩
        · by_cases hh : c = 'h'
          · subst hh
            exact .inr (.inl ⟨rest, hrest⟩)
          · exact .inr (.inr ⟨c, rest, hc, hh, hrest⟩)
  · exact .inl hdash

theorem classify_of_no_dash (h : word.toList.head? ≠ some dash) : classify word = .ok .operand := by
  rw [classify]
  split
  · rfl
  · rename_i c cs hword
    rw [if_pos]
    rintro rfl
    exact h (by rw [hword]; rfl)

theorem isOperand_of_dash {c : CodePoint} (h : word.toList = .scalar '-' :: c :: rest) :
    IsOperand word ↔
      ¬ BeginsLikeFlag word ∧ (isNegativeNumber word.toList || word.toList.contains (.scalar ' ')) = true := by
  have hhead : ¬ word.toList.head? ≠ some dash := by simp [h, dash]
  have hword : word ≠ "-" := by
    rintro rfl
    cases h
  rw [IsOperand, or_iff_right hhead, or_iff_right hword, Bool.or_eq_true, List.contains_iff_mem]

/-- The words that are told apart as operands. -/
theorem classify_eq_operand : classify word = .ok .operand ↔ IsOperand word := by
  rcases word_cases word with hno | rfl | ⟨rest, h⟩ | ⟨rest, h⟩ | ⟨c, rest, hc, hh, h⟩
  · exact iff_of_true (classify_of_no_dash hno) (.inl hno)
  · exact iff_of_true rfl (.inr (.inl rfl))
  · have hflag : BeginsLikeFlag word ↔ Flag.begunBy (word.toList.takeWhile (· ≠ .scalar '=')) ≠ [] := by
      rw [Ne, List.eq_nil_iff_forall_not_mem, not_forall_not]
      simp only [Flag.mem_begunBy, BeginsLikeFlag, h]
      simp
    rw [isOperand_of_dash h, hflag, classify_of_two_dashes h, classifyDashed_of_two_dashes h]
    generalize (isNegativeNumber word.toList || word.toList.contains (.scalar ' ')) = stray
    generalize Flag.begunBy (word.toList.takeWhile (· ≠ .scalar '=')) = flags
    match flags with
    | [] => cases stray <;> simp
    | [flag] => simp
    | flag :: other :: flags => simp
  · obtain ⟨short, attached, hhelp⟩ := classify_of_help h
    have hflag : BeginsLikeFlag word := .inr ⟨rest, h.symm⟩
    simp [isOperand_of_dash h, hflag, hhelp]
  · have hflag : ¬ BeginsLikeFlag word := by
      simp [BeginsLikeFlag, h, Ne.symm hc, Ne.symm hh]
    rw [isOperand_of_dash h, classify_of_one_dash h hc hh]
    cases (isNegativeNumber word.toList || word.toList.contains (.scalar ' ')) <;> simp [hflag]

/-- The words that are told apart as flags: all but the flag for help begin with two dashes. -/
theorem classify_eq_flag {flag : Flag} {short : Bool} {attached : Option Text}
    (h : classify word = .ok (.flag flag short attached)) :
    flag = .help ∨ ∃ start, flag.Fits start ∧
      (word = start ∧ attached = none ∨ ∃ value, word = start ++ "=" ++ value ∧
        attached = some value) := by
  rcases word_cases word with hno | rfl | ⟨rest, hword⟩ | ⟨rest, hword⟩ | ⟨c, rest, hc, hh, hword⟩
  · rw [classify_of_no_dash hno] at h
    cases h
  · cases h
  · rw [classify_of_two_dashes hword, classifyDashed_of_two_dashes hword] at h
    split at h
    · rename_i other hfits
      obtain ⟨rfl, -, rfl⟩ := Word.flag.inj (Except.ok.inj h)
      refine .inr ⟨Text.ofList (word.toList.takeWhile (· ≠ .scalar '=')), ?_, ?_⟩
      · rw [← Flag.begunBy_eq_singleton, Text.toList_ofList]
        exact hfits
      · rw [← cutEquals_fst]
        rcases cutEquals_cases word.toList with ⟨-, hcut⟩ | ⟨start, value, -, hstart, hcut⟩
        · exact .inl ⟨by rw [hcut, Text.ofList_toList], by rw [hcut]; rfl⟩
        · refine .inr ⟨Text.ofList value, ?_, by rw [hcut]; rfl⟩
          rw [hcut]
          apply Text.toList_inj.mp
          simp [hstart]
    · split at h <;> cases h
    · cases h
  · obtain ⟨short', attached', hhelp⟩ := classify_of_help hword
    rw [hhelp] at h
    exact .inl (Word.flag.inj (Except.ok.inj h)).1.symm
  · rw [classify_of_one_dash hword hc hh] at h
    split at h <;> cases h

/-- A text that fits one flag alone is that flag, with or without a value attached. -/
theorem classify_of_fits {flag : Flag} {start : Text} (h : flag.Fits start) :
    classify start = .ok (.flag flag false none) ∧
      ∀ value, classify (start ++ "=" ++ value) = .ok (.flag flag false (some value)) := by
  obtain ⟨rest, hstart, -⟩ := h.two_dashes
  have hfits := Flag.begunBy_eq_singleton.mpr h
  constructor
  · have hcut := cutEquals_of_not_mem h.equals_not_mem
    have hbegin := cutEquals_fst start.toList
    rw [hcut] at hbegin
    rw [classify_of_two_dashes hstart, classifyDashed_of_two_dashes hstart, ← hbegin, hfits, hcut]
    rfl
  · intro value
    have hword : (start ++ "=" ++ value).toList = start.toList ++ .scalar '=' :: value.toList := by simp
    have hcut := cutEquals_append h.equals_not_mem value.toList
    have hbegin := cutEquals_fst (start ++ "=" ++ value).toList
    rw [← hword] at hcut
    rw [hcut] at hbegin
    have hdashes : (start ++ "=" ++ value).toList =
        .scalar '-' :: .scalar '-' :: (rest ++ .scalar '=' :: value.toList) := by
      rw [hword, hstart]
      rfl
    rw [classify_of_two_dashes hdashes, classifyDashed_of_two_dashes hdashes, ← hbegin, hfits, hcut]
    simp

end Classify

/-- A flag that is used, and what it is given if it has a value. -/
structure Use where
  flag : Flag
  given : Option (Given Text)
deriving Repr, DecidableEq

/-- Note what a use of a flag says. -/
def Flags.note (flags : Flags) (use : Use) : Except Stop Flags :=
  match use.given with
  | .none => flags.switch use.flag
  | some given => flags.give given use.flag

/-- Words that use flags one after another. -/
inductive Writes (dashes : DashRule) : List Text → List Use → Prop
  | nil : Writes dashes [] []
  | switch {flag start words uses} (hflag : flag.Fits start) (hswitch : flag.takesValue = false)
      (tail : Writes dashes words uses) : Writes dashes (start :: words) (⟨flag, none⟩ :: uses)
  | attached {flag start words uses} {value : Text} (hflag : flag.Fits start)
      (htakes : flag.takesValue = true) (hvalue : dashes = .keep ∨ value ≠ "--")
      (tail : Writes dashes words uses) :
      Writes dashes ((start ++ "=" ++ value) :: words) (⟨flag, some (.value value)⟩ :: uses)
  /-- Two dashes may be dropped where they are attached. -/
  | dropped {flag start words uses} (hflag : flag.Fits start) (htakes : flag.takesValue = true)
      (hdashes : dashes = .drop) (tail : Writes dashes words uses) :
      Writes dashes ((start ++ "=" ++ "--") :: words) (⟨flag, some .nothing⟩ :: uses)
  | separate {flag start value words uses} (hflag : flag.Fits start)
      (htakes : flag.takesValue = true) (hvalue : IsOperand value)
      (tail : Writes dashes words uses) :
      Writes dashes (start :: value :: words) (⟨flag, some (.value value)⟩ :: uses)

section Lines

variable {dashes : DashRule} {words : List Text} {uses : List Use} {flags after : Flags}
  {tagged : List (Text × Word)}

theorem IsOperand.ne_separator {word : Text} (h : IsOperand word) : word ≠ "--" := by
  rintro rfl
  exact absurd (classify_eq_operand.mpr h) (by decide)

/-- All words are told apart one by one. -/
theorem classifyAll_cons {word : Text} {found : Word} (hseparator : word ≠ "--")
    (hword : classify word = .ok found) (hwords : classifyAll words = .ok tagged) :
    classifyAll (word :: words) = .ok ((word, found) :: tagged) := by
  rw [classifyAll, if_neg hseparator, hword, hwords]
  rfl

theorem classifyAll_attached {flag : Flag} {start : Text} (h : flag.Fits start) (value : Text)
    (hwords : classifyAll words = .ok tagged) :
    classifyAll ((start ++ "=" ++ value) :: words) =
      .ok ((start ++ "=" ++ value, .flag flag false (some value)) :: tagged) := by
  refine classifyAll_cons (fun heq => ?_) ((classify_of_fits h).2 value) hwords
  have hmem : .scalar '=' ∈ (start ++ "=" ++ value).toList := by simp
  rw [heq] at hmem
  exact absurd hmem (by decide)

theorem givenByAttached_eq_value {value : Text} (h : dashes = .keep ∨ value ≠ "--") :
    givenByAttached dashes value = .value value := by
  rw [givenByAttached, if_neg]
  rcases h with rfl | hvalue
  · simp
  · simp [hvalue]

theorem givenByAttached_eq_nothing (h : dashes = .drop) : givenByAttached dashes "--" = .nothing := by
  subst h
  rfl

/-- A flag without a value is taken whatever stands after it. -/
theorem take_switch {flag : Flag} (h : flag.takesValue = false) (flags : Flags)
    (extras : List Text) (word : Text) (short : Bool) (rest : List (Text × Word)) :
    take dashes flags extras ((word, .flag flag short .none) :: rest) =
      flags.switch flag >>= fun next => take dashes next extras rest := by
  match rest with
  | [] => simp [take, h]
  | (_, .operand) :: _ | (_, .separator) :: _ | (_, .unknown) :: _ | (_, .flag ..) :: _ =>
      simp [take, h]

/-- What the flags of a line say is what its uses say in order. -/
theorem Writes.parse_eq (h : Writes dashes words uses) :
    parse dashes words = uses.foldlM Flags.note .none := by
  suffices htake : ∃ tagged, classifyAll words = .ok tagged ∧
      ∀ flags, take dashes flags [] tagged = uses.foldlM Flags.note flags by
    obtain ⟨tagged, htagged, htake⟩ := htake
    rw [parse, htagged]
    exact htake .none
  induction h with
  | nil => exact ⟨[], rfl, fun flags => rfl⟩
  | @switch flag start words uses hflag hswitch _ ih =>
      obtain ⟨tagged, htagged, htake⟩ := ih
      refine ⟨_, classifyAll_cons hflag.ne_separator (classify_of_fits hflag).1 htagged, ?_⟩
      intro flags
      simp only [take_switch hswitch, htake, List.foldlM_cons, Flags.note]
  | attached hflag htakes hvalue _ ih =>
      obtain ⟨tagged, htagged, htake⟩ := ih
      refine ⟨_, classifyAll_attached hflag _ htagged, fun flags => ?_⟩
      simp only [take, htakes, htake, if_true, List.foldlM_cons, Flags.note,
        givenByAttached_eq_value hvalue]
  | dropped hflag htakes hdashes _ ih =>
      obtain ⟨tagged, htagged, htake⟩ := ih
      refine ⟨_, classifyAll_attached hflag "--" htagged, fun flags => ?_⟩
      simp only [take, htakes, htake, if_true, List.foldlM_cons, Flags.note,
        givenByAttached_eq_nothing hdashes]
  | @separate flag start value words uses hflag htakes hvalue _ ih =>
      obtain ⟨tagged, htagged, htake⟩ := ih
      refine ⟨_, classifyAll_cons hflag.ne_separator (classify_of_fits hflag).1
        (classifyAll_cons hvalue.ne_separator (classify_eq_operand.mpr hvalue) htagged), ?_⟩
      intro flags
      simp only [take, htakes, htake, if_true, List.foldlM_cons, Flags.note]

/-- A line with words that mean nothing is refused. -/
theorem extras_of_take {extras : List Text} (h : take dashes flags extras tagged = .ok after) :
    extras = [] := by
  fun_induction take dashes flags extras tagged with
  | case1 flags extras hempty => exact List.isEmpty_iff.mp hempty
  | case3 _ _ _ _ _ _ _ _ ih | case4 _ _ _ _ _ _ _ _ ih | case7 _ _ _ _ _ _ _ ih =>
      obtain ⟨next, -, h⟩ := bind_eq_ok.mp h
      exact ih next h
  | case8 _ _ _ _ _ _ ih => exact absurd (ih h) (by simp)
  | case2 | case5 | case6 => cases h

/-- The first word of a line that is no separator is told apart by itself. -/
theorem classifyAll_eq_cons {word : Text} {found : Word}
    (h : classifyAll words = .ok ((word, found) :: tagged)) (hfound : found ≠ .separator) :
    ∃ rest, words = word :: rest ∧ classify word = .ok found ∧ classifyAll rest = .ok tagged := by
  match words with
  | [] => cases h
  | first :: rest =>
      rw [classifyAll] at h
      split at h
      · obtain ⟨hfirst, -⟩ := List.cons.inj (Except.ok.inj h)
        exact absurd (Prod.mk.inj hfirst).2.symm hfound
      · obtain ⟨kind, hkind, h⟩ := bind_eq_ok.mp h
        obtain ⟨others, hothers, h⟩ := bind_eq_ok.mp h
        obtain ⟨hfirst, rfl⟩ := List.cons.inj (Except.ok.inj h)
        obtain ⟨rfl, rfl⟩ := Prod.mk.inj hfirst
        exact ⟨rest, rfl, hkind, hothers⟩

/-- The words of a line that is accepted use flags. -/
theorem exists_writes_of_take (hwords : classifyAll words = .ok tagged) {extras : List Text}
    (h : take dashes flags extras tagged = .ok after) : ∃ uses, Writes dashes words uses := by
  fun_induction take dashes flags extras tagged generalizing words with
  | case1 =>
      match words with
      | [] => exact ⟨[], .nil⟩
      | word :: rest =>
          rw [classifyAll] at hwords
          split at hwords
          · cases hwords
          · obtain ⟨_, _, hwords⟩ := bind_eq_ok.mp hwords
            obtain ⟨_, _, hwords⟩ := bind_eq_ok.mp hwords
            cases hwords
  | case3 flags extras word flag short rest htakes value ih =>
      obtain ⟨next, -, h⟩ := bind_eq_ok.mp h
      obtain ⟨words, rfl, hword, hwords⟩ := classifyAll_eq_cons hwords (by simp)
      obtain ⟨uses, huses⟩ := ih next hwords h
      rcases classify_eq_flag hword with rfl | ⟨start, hfits, ⟨-, hnone⟩ | ⟨given, rfl, -⟩⟩
      · cases htakes
      · cases hnone
      · by_cases hdashes : given = "--"
        · subst hdashes
          cases dashes with
          | drop => exact ⟨_, .dropped hfits htakes rfl huses⟩
          | keep => exact ⟨_, .attached hfits htakes (.inl rfl) huses⟩
        · exact ⟨_, .attached hfits htakes (.inr hdashes) huses⟩
  | case4 flags extras word flag short htakes value rest ih =>
      obtain ⟨next, -, h⟩ := bind_eq_ok.mp h
      obtain ⟨words, rfl, hword, hwords⟩ := classifyAll_eq_cons hwords (by simp)
      obtain ⟨words, rfl, hvalue, hwords⟩ := classifyAll_eq_cons hwords (by simp)
      obtain ⟨uses, huses⟩ := ih next hwords h
      rcases classify_eq_flag hword with rfl | ⟨start, hfits, ⟨rfl, -⟩ | ⟨_, -, hsome⟩⟩
      · cases htakes
      · exact ⟨_, .separate hfits htakes (classify_eq_operand.mp hvalue) huses⟩
      · cases hsome
  | case7 flags extras word flag short rest hswitch ih =>
      obtain ⟨next, hnext, h⟩ := bind_eq_ok.mp h
      obtain ⟨words, rfl, hword, hwords⟩ := classifyAll_eq_cons hwords (by simp)
      obtain ⟨uses, huses⟩ := ih next hwords h
      rcases classify_eq_flag hword with rfl | ⟨start, hfits, ⟨rfl, -⟩ | ⟨_, -, hsome⟩⟩
      · cases hnext
      · exact ⟨_, .switch hfits (by simpa using hswitch) huses⟩
      · cases hsome
  | case8 flags extras word found rest hfound ih => exact absurd (extras_of_take h) (by simp)
  | case2 | case5 | case6 => cases h

/-- The lines that are accepted are those that use flags, where all that the uses say can be taken. -/
theorem parse_eq_ok_iff :
    parse dashes words = .ok flags ↔
      ∃ uses, Writes dashes words uses ∧ uses.foldlM Flags.note .none = .ok flags := by
  constructor
  · intro h
    have hparse := h
    rw [parse] at hparse
    split at hparse
    · cases hparse
    · rename_i tagged htagged
      obtain ⟨uses, huses⟩ := exists_writes_of_take htagged hparse
      exact ⟨uses, huses, huses.parse_eq.symm.trans h⟩
  · rintro ⟨uses, huses, hflags⟩
    exact huses.parse_eq.trans hflags

end Lines

end CommandLine

end Playbook
