import Mathlib.Logic.ExistsUnique
import Playbook.Fault
import Playbook.Proofs.Characters
import Playbook.Proofs.Outcome

/-! # The grammar of durations

Behind an optional sign, a duration is a single zero or parts, each a number and a unit. A text is
read exactly if it is written so, in one way only, and its value is the sum of its parts from left to
right. Every other text is refused, and what stands at the first place where no part fits decides on
the words.

## Implementation notes

The reader takes the longest part at each place and never comes back to it. That loses no reading: a
number ends where its unit begins, since no unit begins with a digit or a point, and of the units only
the minute begins another one. What would have to follow a minute there is an `s`, which begins no
part. -/

namespace Playbook

open Text

namespace TimeUnit

/-- The spellings of the units. -/
def spellings : List (List CodePoint × TimeUnit) :=
  [(['n', 's'], nanosecond), (['u', 's'], microsecond), (['\u00B5', 's'], microsecond),
    (['\u03BC', 's'], microsecond), (['m', 's'], millisecond), ([.scalar 's'], second), ([.scalar 'm'], minute),
    ([.scalar 'h'], hour)]

/-- No unit begins with a digit or a point. -/
theorem exists_cons_of_mem_spellings {name : List CodePoint} {unit : TimeUnit}
    (h : (name, unit) ∈ spellings) :
    ∃ c cs, name = c :: cs ∧ isDigit c = false ∧ c ≠ '.' := by
  have key : ∀ spelling ∈ spellings,
      spelling.1.head?.any fun c => isDigit c = false ∧ c ≠ '.' := by
    decide
  obtain ⟨c, hc, hdigit⟩ := (Option.any_eq_true _ _).mp (key _ h)
  obtain ⟨cs, rfl⟩ := List.head?_eq_some_iff.mp hc
  exact ⟨c, cs, rfl, of_decide_eq_true hdigit⟩

/-- A unit is read from its spelling, unless it is a minute that an `s` follows. -/
theorem read_append_cases {name : List CodePoint} {unit : TimeUnit} (h : (name, unit) ∈ spellings)
    (rest : List CodePoint) :
    read (name ++ rest) = some (unit, rest) ∨
      ∃ more, rest = .scalar 's' :: more ∧ read (name ++ rest) = some (millisecond, more) := by
  simp only [spellings, List.mem_cons, Prod.mk.injEq, List.not_mem_nil, or_false] at h
  rcases h with ⟨rfl, rfl⟩ | ⟨rfl, rfl⟩ | ⟨rfl, rfl⟩ | ⟨rfl, rfl⟩ | ⟨rfl, rfl⟩ | ⟨rfl, rfl⟩ |
    ⟨rfl, rfl⟩ | ⟨rfl, rfl⟩
  case inr.inr.inr.inr.inr.inr.inl =>
    cases rest with
    | nil => exact .inl rfl
    | cons c more =>
        by_cases hc : c = 's'
        · subst hc
          exact .inr ⟨more, rfl, rfl⟩
        · exact .inl (by simp [read, hc])
  all_goals exact .inl rfl

/-- What is read is a spelling. -/
theorem exists_spelling_of_read {cs rest : List CodePoint} {unit : TimeUnit}
    (h : read cs = some (unit, rest)) : ∃ name, (name, unit) ∈ spellings ∧ cs = name ++ rest := by
  unfold read at h
  split at h
  case h_9 => cases h
  all_goals
    obtain ⟨rfl, rfl⟩ := Prod.mk.inj (Option.some.inj h)
    first
      | exact ⟨[_], by decide, rfl⟩
      | exact ⟨[_, _], by decide, rfl⟩

end TimeUnit

namespace Duration

/-- The ways to write a number: digits alone, digits with a point behind them and perhaps more digits
behind that, or digits behind a point. -/
inductive WritesNumber : List CodePoint → Number → Prop
  | whole {whole : List CodePoint} (hne : whole ≠ []) (hwhole : ∀ c ∈ whole, isDigit c = true) :
      WritesNumber whole ⟨whole, []⟩
  | pointed {whole fraction : List CodePoint} (hne : whole ≠ [])
      (hwhole : ∀ c ∈ whole, isDigit c = true) (hfraction : ∀ c ∈ fraction, isDigit c = true) :
      WritesNumber (whole ++ .scalar '.' :: fraction) ⟨whole, fraction⟩
  | fraction {fraction : List CodePoint} (hne : fraction ≠ [])
      (hfraction : ∀ c ∈ fraction, isDigit c = true) :
      WritesNumber (.scalar '.' :: fraction) ⟨[], fraction⟩

/-- A part is written as a number and a unit. -/
inductive WritesPart : List CodePoint → Part → Prop
  | mk {digits name : List CodePoint} {number : Number} {unit : TimeUnit}
      (hnumber : WritesNumber digits number) (hunit : (name, unit) ∈ TimeUnit.spellings) :
      WritesPart (digits ++ name) ⟨number, unit⟩

/-- A text is split into the pieces that parts are written as. -/
inductive Splits : List CodePoint → List (List CodePoint × Part) → Prop
  | nil : Splits [] []
  | cons {text rest : List CodePoint} {part : Part} {pieces : List (List CodePoint × Part)}
      (hpart : WritesPart text part) (tail : Splits rest pieces) :
      Splits (text ++ rest) ((text, part) :: pieces)

/-- What a text stands for behind its sign, if it begins with one. -/
inductive Signed {τ : Type} [TimeScale τ] : List CodePoint → τ → List CodePoint → Prop
  | plus {body : List CodePoint} : Signed (.scalar '+' :: body) (TimeScale.seconds 1) body
  | minus {body : List CodePoint} : Signed (.scalar '-' :: body) (-TimeScale.seconds 1) body
  | unsigned {body : List CodePoint} (h : ∀ c ∈ body.head?, c ≠ '+' ∧ c ≠ '-') :
      Signed body (TimeScale.seconds 1) body

/-- A text writes a time: behind an optional sign it is a single zero, or parts whose lengths add up
from left to right. -/
inductive Writes {τ : Type} [TimeScale τ] (cs : List CodePoint) : τ → Prop
  | zero {sign : τ} (hsign : Signed cs sign [.scalar '0']) : Writes cs TimeScale.none
  | parts {sign : τ} {body : List CodePoint} {pieces : List (List CodePoint × Part)}
      (hsign : Signed cs sign body) (hne : pieces ≠ []) (hsplit : Splits body pieces) :
      Writes cs (sign * pieces.foldl (fun total piece => total + piece.2.value) TimeScale.none)

/-- A number begins a text. -/
def StartsNumber (cs : List CodePoint) : Prop :=
  ∃ digits number rest, WritesNumber digits number ∧ cs = digits ++ rest

/-- The pieces that a text is cut into, the longest part at each place, and what is left over where no
part fits. -/
inductive Scans : List CodePoint → List (List CodePoint × Part) → List CodePoint → Prop
  | stop {rest : List CodePoint} (h : ∀ text part more, WritesPart text part → rest ≠ text ++ more) :
      Scans rest [] rest
  | part {text rest last : List CodePoint} {part : Part} {pieces : List (List CodePoint × Part)}
      (hpart : WritesPart text part)
      (hlongest : ∀ other part more, WritesPart other part → text ++ rest = other ++ more →
        other.length ≤ text.length)
      (tail : Scans rest pieces last) : Scans (text ++ rest) ((text, part) :: pieces) last

/-- A number begins with a digit or a point. -/
theorem WritesNumber.exists_cons {digits : List CodePoint} {number : Number}
    (h : WritesNumber digits number) :
    ∃ c cs, digits = c :: cs ∧ (isDigit c = true ∨ c = '.') := by
  cases h with
  | whole hne hwhole =>
      obtain ⟨c, cs, rfl⟩ := List.exists_cons_of_ne_nil hne
      exact ⟨c, cs, rfl, .inl (hwhole c (by simp))⟩
  | pointed hne hwhole _ =>
      obtain ⟨c, cs, rfl⟩ := List.exists_cons_of_ne_nil hne
      exact ⟨c, _, rfl, .inl (hwhole c (by simp))⟩
  | fraction _ _ => exact ⟨'.', _, rfl, .inr rfl⟩

/-- Digits with a point behind them are read with all digits behind that. -/
theorem Number.read_point {whole : List CodePoint} (hwhole : ∀ c ∈ whole, isDigit c = true)
    (tail : List CodePoint) :
    Number.read (whole ++ .scalar '.' :: tail) =
      if whole.isEmpty && (tail.takeWhile isDigit).isEmpty then none
      else some (⟨whole, tail.takeWhile isDigit⟩, tail.dropWhile isDigit) := by
  have hpoint : ∀ c ∈ (.scalar '.' :: tail).head?, isDigit c = false := by
    simp
    decide
  obtain ⟨htake, hdrop⟩ := takeWhile_dropWhile_append hwhole hpoint
  simp only [Number.read, htake, hdrop]

/-- Digits that no point follows are read alone. -/
theorem Number.read_digits {whole rest : List CodePoint} (hwhole : ∀ c ∈ whole, isDigit c = true)
    (hrest : ∀ c ∈ rest.head?, isDigit c = false ∧ c ≠ '.') :
    Number.read (whole ++ rest) = if whole.isEmpty then none else some (⟨whole, []⟩, rest) := by
  obtain ⟨htake, hdrop⟩ := takeWhile_dropWhile_append hwhole fun c hc => (hrest c hc).1
  simp only [Number.read, htake, hdrop]
  split
  · exact absurd rfl (hrest '.' rfl).2
  · rfl

/-- A number is read up to a character that does not continue it. -/
theorem WritesNumber.read_append {digits rest : List CodePoint} {number : Number}
    (h : WritesNumber digits number) (hrest : ∀ c ∈ rest.head?, isDigit c = false ∧ c ≠ '.') :
    Number.read (digits ++ rest) = some (number, rest) := by
  have hstop : ∀ c ∈ rest.head?, isDigit c = false := fun c hc => (hrest c hc).1
  cases h with
  | whole hne hwhole =>
      simp [Number.read_digits hwhole hrest, hne]
  | pointed hne hwhole hfraction =>
      obtain ⟨htake, hdrop⟩ := takeWhile_dropWhile_append hfraction hstop
      rw [List.append_assoc, List.cons_append, Number.read_point hwhole, htake, hdrop]
      simp [hne]
  | @fraction fraction hne hfraction =>
      obtain ⟨htake, hdrop⟩ := takeWhile_dropWhile_append hfraction hstop
      have hnone : ∀ c ∈ ([] : List CodePoint), isDigit c = true := nofun
      have hread := Number.read_point hnone (fraction ++ rest)
      rw [List.nil_append, htake, hdrop] at hread
      simpa [hne] using hread

/-- Behind the digits that a text begins with stands a point, or nothing that continues a number. -/
theorem exists_digits (cs : List CodePoint) :
    ∃ whole rest, (∀ c ∈ whole, isDigit c = true) ∧ cs = whole ++ rest ∧
      ((∃ tail, rest = .scalar '.' :: tail) ∨ ∀ c ∈ rest.head?, isDigit c = false ∧ c ≠ '.') := by
  refine ⟨cs.takeWhile isDigit, cs.dropWhile isDigit, List.all_eq_true.mp List.all_takeWhile,
    List.takeWhile_append_dropWhile.symm, ?_⟩
  have hstop := List.head?_dropWhile_not isDigit cs
  cases hrest : cs.dropWhile isDigit with
  | nil => exact .inr fun c hc => nomatch hc
  | cons c tail =>
      rw [hrest] at hstop
      by_cases hc : c = '.'
      · exact .inl ⟨tail, by rw [hc]⟩
      · refine .inr fun d hd => ?_
        obtain rfl := Option.some.inj hd
        exact ⟨by simpa using hstop, hc⟩

/-- What is read is a number. -/
theorem Number.exists_of_read {cs rest : List CodePoint} {number : Number}
    (h : Number.read cs = some (number, rest)) :
    ∃ digits, WritesNumber digits number ∧ cs = digits ++ rest := by
  obtain ⟨whole, after, hwhole, rfl, hafter⟩ := exists_digits cs
  rcases hafter with ⟨tail, rfl⟩ | hafter
  · rw [Number.read_point hwhole] at h
    split at h
    · cases h
    · rename_i hne
      obtain ⟨rfl, rfl⟩ := Prod.mk.inj (Option.some.inj h)
      have hfraction : ∀ c ∈ tail.takeWhile isDigit, isDigit c = true :=
        List.all_eq_true.mp List.all_takeWhile
      refine ⟨whole ++ .scalar '.' :: tail.takeWhile isDigit, ?_, by simp⟩
      cases whole with
      | nil => exact .fraction (by simpa using hne) hfraction
      | cons c cs => exact .pointed (List.cons_ne_nil c cs) hwhole hfraction
  · rw [Number.read_digits hwhole hafter] at h
    split at h
    · cases h
    · rename_i hne
      obtain ⟨rfl, rfl⟩ := Prod.mk.inj (Option.some.inj h)
      exact ⟨whole, .whole (by simpa using hne) hwhole, rfl⟩

/-- A digit begins a number, whatever follows it. -/
theorem Number.isSome_read_cons {c : CodePoint} {cs : List CodePoint} (hc : isDigit c = true) :
    (Number.read (c :: cs)).isSome = true := by
  have hne : ((c :: cs).takeWhile isDigit).isEmpty = false := by simp [hc]
  unfold Number.read
  simp only [hne]
  split <;> rfl

theorem Number.isSome_read_iff {cs : List CodePoint} :
    (Number.read cs).isSome = true ↔ StartsNumber cs := by
  constructor
  · intro h
    obtain ⟨⟨number, rest⟩, hread⟩ := Option.isSome_iff_exists.mp h
    obtain ⟨digits, hdigits, hcs⟩ := Number.exists_of_read hread
    exact ⟨digits, number, rest, hdigits, hcs⟩
  · rintro ⟨digits, number, rest, hdigits, rfl⟩
    cases hdigits with
    | whole hne hwhole =>
        obtain ⟨c, cs, rfl⟩ := List.exists_cons_of_ne_nil hne
        exact Number.isSome_read_cons (hwhole c (by simp))
    | pointed hne hwhole _ =>
        obtain ⟨c, cs, rfl⟩ := List.exists_cons_of_ne_nil hne
        exact Number.isSome_read_cons (hwhole c (by simp))
    | fraction hne hfraction =>
        obtain ⟨c, cs, rfl⟩ := List.exists_cons_of_ne_nil hne
        have hc : isDigit c = true := hfraction c (by simp)
        have hnone : ∀ c ∈ ([] : List CodePoint), isDigit c = true := nofun
        have hread := Number.read_point hnone (c :: cs ++ rest)
        rw [List.nil_append] at hread
        rw [List.cons_append, hread]
        simp [hc]

/-- A part is read from the characters that write it, unless an `s` follows that makes it longer. -/
theorem WritesPart.read_append_cases {text : List CodePoint} {part : Part} (h : WritesPart text part)
    (rest : List CodePoint) :
    Part.read (text ++ rest) = some (part, rest) ∨
      ∃ longer more, rest = .scalar 's' :: more ∧ Part.read (text ++ rest) = some (longer, more) := by
  obtain ⟨hnumber, hunit⟩ := h
  rename_i digits name number unit
  obtain ⟨c, cs, hname, hdigit, hpoint⟩ := TimeUnit.exists_cons_of_mem_spellings hunit
  have hread : Number.read (digits ++ (name ++ rest)) = some (number, name ++ rest) := by
    refine hnumber.read_append fun d hd => ?_
    obtain rfl : c = d := by simpa [hname] using hd
    exact ⟨hdigit, hpoint⟩
  rw [List.append_assoc]
  rcases TimeUnit.read_append_cases hunit rest with hunit | ⟨more, rfl, hunit⟩
  · exact .inl (by simp [Part.read, hread, hunit])
  · exact .inr ⟨⟨number, .millisecond⟩, more, rfl, by simp [Part.read, hread, hunit]⟩

/-- An `s` makes milliseconds of a minute. -/
example : Part.read ['1', 'm', 's', '5'] = some (⟨⟨[.scalar '1'], []⟩, .millisecond⟩, [.scalar '5']) := rfl

theorem WritesPart.read_append {text rest : List CodePoint} {part : Part} (h : WritesPart text part)
    (hrest : ∀ c ∈ rest.head?, c ≠ 's') : Part.read (text ++ rest) = some (part, rest) := by
  rcases h.read_append_cases rest with hread | ⟨_, more, rfl, -⟩
  · exact hread
  · exact absurd rfl (hrest 's' rfl)

/-- What is read is a part. -/
theorem Part.exists_of_read {cs rest : List CodePoint} {part : Part}
    (h : Part.read cs = some (part, rest)) : ∃ text, WritesPart text part ∧ cs = text ++ rest := by
  simp only [Part.read, Option.bind_eq_bind, Option.bind_eq_some_iff, Prod.exists] at h
  obtain ⟨number, after, hnumber, unit, last, hunit, hlast⟩ := h
  obtain ⟨rfl, rfl⟩ := Prod.mk.inj (Option.some.inj hlast)
  obtain ⟨digits, hdigits, rfl⟩ := Number.exists_of_read hnumber
  obtain ⟨name, hname, rfl⟩ := TimeUnit.exists_spelling_of_read hunit
  exact ⟨digits ++ name, .mk hdigits hname, (List.append_assoc ..).symm⟩

/-- What is read at a place is the longest part that fits there. -/
theorem Part.length_le_of_read {cs rest text more : List CodePoint} {part other : Part}
    (h : Part.read cs = some (part, rest)) (hpart : WritesPart text other)
    (hcs : cs = text ++ more) : rest.length ≤ more.length := by
  subst hcs
  rcases hpart.read_append_cases more with hread | ⟨_, _, rfl, hread⟩
  · obtain ⟨-, rfl⟩ := Prod.mk.inj (Option.some.inj (h.symm.trans hread))
    exact Nat.le_refl _
  · obtain ⟨-, rfl⟩ := Prod.mk.inj (Option.some.inj (h.symm.trans hread))
    simp

/-- No part fits exactly where none is read. -/
theorem Part.read_eq_none_iff {cs : List CodePoint} :
    Part.read cs = none ↔ ∀ text part more, WritesPart text part → cs ≠ text ++ more := by
  constructor
  · rintro h text part more hpart rfl
    rcases hpart.read_append_cases more with hread | ⟨_, _, -, hread⟩ <;> cases h.symm.trans hread
  · intro h
    cases hread : Part.read cs with
    | none => rfl
    | some found =>
        obtain ⟨text, hpart, hcs⟩ := Part.exists_of_read hread
        exact absurd hcs (h text found.1 found.2 hpart)

/-- What is split begins with no `s`. -/
theorem Splits.ne_of_mem_head? {cs : List CodePoint} {pieces : List (List CodePoint × Part)}
    (h : Splits cs pieces) : ∀ c ∈ cs.head?, c ≠ 's' := by
  cases h with
  | nil => exact fun c hc => nomatch hc
  | cons hpart _ =>
      obtain ⟨hnumber, -⟩ := hpart
      obtain ⟨c, cs, rfl, hc⟩ := hnumber.exists_cons
      rintro _ ⟨⟩ rfl
      revert hc
      decide

theorem WritesPart.ne_nil {text : List CodePoint} {part : Part} (h : WritesPart text part) :
    text ≠ [] := by
  obtain ⟨hnumber, -⟩ := h
  obtain ⟨c, cs, rfl, -⟩ := hnumber.exists_cons
  exact List.cons_ne_nil _ _

/-- Parts are read one after another. -/
theorem readParts_of_read {cs rest : List CodePoint} {part : Part}
    (h : Part.read cs = some (part, rest)) :
    readParts cs = (readParts rest).map (part :: ·) := by
  cases cs with
  | nil => cases h
  | cons c cs =>
      rw [readParts]
      split
      · rename_i hnone
        cases h.symm.trans hnone
      · rename_i other last hother
        obtain ⟨rfl, rfl⟩ := Prod.mk.inj (Option.some.inj (h.symm.trans hother))
        rfl

/-- The parts of a text that is split are read. -/
theorem Splits.readParts_eq {cs : List CodePoint} {pieces : List (List CodePoint × Part)}
    (h : Splits cs pieces) : readParts cs = .ok (pieces.map (·.2)) := by
  induction h with
  | nil => rw [readParts]; rfl
  | cons hpart tail ih =>
      rw [readParts_of_read (hpart.read_append tail.ne_of_mem_head?), ih]
      rfl

/-- A text is split in one way only. -/
theorem Splits.unique {cs : List CodePoint} {pieces others : List (List CodePoint × Part)}
    (h : Splits cs pieces) (hother : Splits cs others) : pieces = others := by
  induction h generalizing others with
  | nil =>
      generalize hcs : [] = cs at hother
      cases hother with
      | nil => rfl
      | cons hpart _ => exact absurd (List.append_eq_nil_iff.mp hcs.symm).1 hpart.ne_nil
  | @cons text rest part pieces hpart tail ih =>
      generalize hcs : text ++ rest = cs at hother
      cases hother with
      | nil => exact absurd (List.append_eq_nil_iff.mp hcs).1 hpart.ne_nil
      | @cons other more next others hnext htail =>
          -- The reader takes either first piece here, so the two are the same.
          have hread := hpart.read_append tail.ne_of_mem_head?
          rw [hcs, hnext.read_append htail.ne_of_mem_head?] at hread
          obtain ⟨rfl, rfl⟩ := Prod.mk.inj (Option.some.inj hread)
          obtain rfl := List.append_cancel_right hcs
          rw [ih htail]

/-- The pieces of a scan that leaves nothing over split the text. -/
theorem Scans.splits {cs : List CodePoint} {pieces : List (List CodePoint × Part)} (h : Scans cs pieces []) :
    Splits cs pieces := by
  generalize hrest : [] = rest at h
  induction h with
  | stop => exact hrest ▸ .nil
  | part hpart _ _ ih => exact .cons hpart (ih hrest)

/-- The longest part is the one that is read. -/
theorem WritesPart.read_of_longest {text rest : List CodePoint} {part : Part} (h : WritesPart text part)
    (hlongest : ∀ other part more, WritesPart other part → text ++ rest = other ++ more →
      other.length ≤ text.length) : Part.read (text ++ rest) = some (part, rest) := by
  rcases h.read_append_cases rest with hread | ⟨longer, more, rfl, hread⟩
  · exact hread
  · -- What is read here would be a longer part.
    obtain ⟨other, hother, heq⟩ := Part.exists_of_read hread
    have hle := hlongest other longer more hother heq
    have hlength := congrArg List.length heq
    simp only [List.length_append, List.length_cons] at hlength
    omega

/-- A text is scanned in one way only. -/
theorem Scans.unique {cs rest last : List CodePoint} {pieces others : List (List CodePoint × Part)}
    (h : Scans cs pieces rest) (hother : Scans cs others last) : pieces = others ∧ rest = last := by
  induction h generalizing others with
  | stop hstop =>
      cases hother with
      | stop => exact ⟨rfl, rfl⟩
      | part hpart _ _ => exact absurd rfl (hstop _ _ _ hpart)
  | @part text rest last part pieces hpart hlongest _ ih =>
      generalize hcs : text ++ rest = cs at hother
      cases hother with
      | stop hstop => exact absurd hcs.symm (hstop _ _ _ hpart)
      | part hnext hfarthest htail =>
          have hread := hpart.read_of_longest hlongest
          rw [hcs, hnext.read_of_longest hfarthest] at hread
          obtain ⟨rfl, rfl⟩ := Prod.mk.inj (Option.some.inj hread)
          obtain rfl := List.append_cancel_right hcs
          obtain ⟨rfl, rfl⟩ := ih htail
          exact ⟨rfl, rfl⟩

/-- What is read of a text shows in its scan: its parts if nothing is left over, and otherwise
whether a number begins the rest. -/
theorem exists_scans (cs : List CodePoint) :
    ∃ pieces rest, Scans cs pieces rest ∧
      readParts cs =
        if rest = [] then .ok (pieces.map (·.2)) else .error (Number.read rest).isSome := by
  fun_induction readParts cs with
  | case1 =>
      have hnone : Part.read [] = none := rfl
      exact ⟨[], [], .stop (Part.read_eq_none_iff.mp hnone), rfl⟩
  | case2 c cs hnone =>
      exact ⟨[], c :: cs, .stop (Part.read_eq_none_iff.mp hnone), by simp⟩
  | case3 c cs part rest hread ih =>
      obtain ⟨pieces, last, hscans, hparts⟩ := ih
      obtain ⟨text, hpart, heq⟩ := Part.exists_of_read hread
      refine ⟨(text, part) :: pieces, last, ?_, ?_⟩
      · rw [heq]
        refine .part hpart (fun other next more hother hmore => ?_) hscans
        have hle := Part.length_le_of_read hread hother (heq.trans hmore)
        have hlength := congrArg List.length hmore
        simp only [List.length_append] at hlength
        omega
      · rw [hparts]
        split <;> rfl

section Parse

variable {τ : Type} [TimeScale τ]

/-- A text has one sign and one body. -/
theorem signed_iff {cs body : List CodePoint} {sign : τ} :
    Signed cs sign body ↔ splitSign cs = (sign, body) := by
  constructor
  · intro h
    cases h with
    | plus => rfl
    | minus => rfl
    | unsigned hhead =>
        unfold splitSign
        split
        · exact absurd rfl (hhead '+' rfl).1
        · exact absurd rfl (hhead '-' rfl).2
        · rfl
  · intro h
    unfold splitSign at h
    split at h
    · obtain ⟨rfl, rfl⟩ := Prod.mk.inj h
      exact .plus
    · obtain ⟨rfl, rfl⟩ := Prod.mk.inj h
      exact .minus
    · rename_i hplus hminus
      obtain ⟨rfl, rfl⟩ := Prod.mk.inj h
      refine .unsigned fun c hc => ?_
      obtain ⟨rest, rfl⟩ := List.head?_eq_some_iff.mp hc
      exact ⟨fun heq => hplus rest (by rw [heq]), fun heq => hminus rest (by rw [heq])⟩

theorem parse_of_zero {text : Text} {sign : τ} (h : Signed text.toList sign [.scalar '0']) :
    (parse text : Except DurationFault τ) = .ok TimeScale.none := by
  simp only [parse, signed_iff.mp h, if_true]

/-- A duration is read if its body is split into parts. -/
theorem parse_of_splits {text : Text} {sign : τ} {body : List CodePoint}
    {pieces : List (List CodePoint × Part)} (h : Signed text.toList sign body) (hne : pieces ≠ [])
    (hsplit : Splits body pieces) :
    parse text =
      .ok (sign * pieces.foldl (fun total piece => total + piece.2.value) TimeScale.none) := by
  have hread : (Part.read body).isSome = true := by
    rw [Option.isSome_iff_ne_none, Ne, Part.read_eq_none_iff]
    cases hsplit with
    | nil => exact absurd rfl hne
    | cons hpart _ => exact fun h => h _ _ _ hpart rfl
  have hzero : body ≠ [.scalar '0'] := by
    rintro rfl
    cases hread
  have hempty : body.isEmpty = false := by
    cases body with
    | nil => cases hread
    | cons => rfl
  simp only [parse, signed_iff.mp h, if_neg hzero, hempty, Bool.false_eq_true, if_false,
    hsplit.readParts_eq, List.foldl_map]

/-- A text is refused if its scan leaves something over or finds nothing at all. -/
theorem parse_of_scans {text : Text} {sign : τ} {body rest : List CodePoint}
    {pieces : List (List CodePoint × Part)} (h : Signed text.toList sign body) (hzero : body ≠ [.scalar '0'])
    (hscans : Scans body pieces rest) (hrest : rest = [] → pieces = []) :
    ∃ fault, (parse text : Except DurationFault τ) = .error fault ∧
      (fault = .missingUnit text ∧ StartsNumber rest ∨
        fault = .invalid text ∧ ¬ StartsNumber rest) := by
  rw [← Number.isSome_read_iff]
  simp only [parse, signed_iff.mp h, if_neg hzero]
  obtain ⟨others, last, hother, hparts⟩ := exists_scans body
  obtain ⟨rfl, rfl⟩ := hscans.unique hother
  by_cases hnil : rest = []
  · subst hnil
    obtain rfl := hrest rfl
    cases hscans
    exact ⟨_, rfl, .inr ⟨rfl, nofun⟩⟩
  · rw [if_neg hnil] at hparts
    have hempty : body.isEmpty = false := by
      cases body with
      | nil => rw [readParts] at hparts; cases hparts
      | cons => rfl
    cases hstarts : (Number.read rest).isSome with
    | true =>
        rw [hstarts] at hparts
        exact ⟨.missingUnit text, by simp [hempty, hparts], .inl ⟨rfl, rfl⟩⟩
    | false =>
        rw [hstarts] at hparts
        exact ⟨.invalid text, by simp [hempty, hparts], .inr ⟨rfl, by simp⟩⟩

theorem Writes.parse_eq {text : Text} {time : τ} (h : Writes text.toList time) :
    parse text = .ok time := by
  cases h with
  | zero hsign => exact parse_of_zero hsign
  | parts hsign hne hsplit => exact parse_of_splits hsign hne hsplit

/-- A text writes a time, or it is refused for what its scan leaves over. -/
theorem writes_or_refused (text : Text) :
    (∃ time : τ, Writes text.toList time) ∨
      ∃ fault, ∃ sign : τ, ∃ body pieces rest, (parse text : Except DurationFault τ) = .error fault ∧
        Signed text.toList sign body ∧ Scans body pieces rest ∧
          (fault = .missingUnit text ∧ StartsNumber rest ∨
            fault = .invalid text ∧ ¬ StartsNumber rest) := by
  obtain ⟨sign, body, hsign⟩ : ∃ (sign : τ) (body : List CodePoint), Signed text.toList sign body :=
    ⟨_, _, signed_iff.mpr rfl⟩
  obtain ⟨pieces, rest, hscans, -⟩ := exists_scans body
  by_cases hzero : body = [.scalar '0']
  · subst hzero
    exact .inl ⟨_, .zero hsign⟩
  by_cases hrest : rest = [] → pieces = []
  · obtain ⟨fault, hparse, hfault⟩ := parse_of_scans hsign hzero hscans hrest
    exact .inr ⟨fault, sign, body, pieces, rest, hparse, hsign, hscans, hfault⟩
  · obtain ⟨rfl, hne⟩ := Classical.not_imp.mp hrest
    exact .inl ⟨_, .parts hsign hne hscans.splits⟩

/-- A text is read as a time exactly if it writes that time. -/
theorem parse_eq_ok_iff {text : Text} {time : τ} :
    parse text = .ok time ↔ Writes text.toList time := by
  refine ⟨fun h => ?_, Writes.parse_eq⟩
  rcases @writes_or_refused τ _ text with ⟨other, hother⟩ | ⟨fault, _, _, _, _, hparse, -⟩
  · obtain rfl := Except.ok.inj (h.symm.trans hother.parse_eq)
    exact hother
  · cases h.symm.trans hparse

/-- A text is read exactly as the time that it writes, and is split into parts in one way only. Every
other text is refused, for a missing unit exactly if a number begins what is left over at the first
place where no part fits. -/
theorem parse_accepts_grammar (text : Text) :
    (∀ time : τ, parse text = .ok time ↔ Writes text.toList time) ∧
      (∀ body pieces others, Splits body pieces → Splits body others → pieces = others) ∧
      (∀ body, ∃! scan : List (List CodePoint × Part) × List CodePoint, Scans body scan.1 scan.2) ∧
      ((∃ time : τ, Writes text.toList time) ∨
        ∃ fault, (parse text : Except DurationFault τ) = .error fault ∧
          (Fault.duration fault).className = "DurationError" ∧
          ∃ sign : τ, ∃ body pieces rest, Signed text.toList sign body ∧ Scans body pieces rest ∧
            (fault = .missingUnit text ∧ StartsNumber rest ∨
              fault = .invalid text ∧ ¬ StartsNumber rest)) := by
  refine ⟨fun time => parse_eq_ok_iff, fun body pieces others => Splits.unique, fun body => ?_, ?_⟩
  · obtain ⟨pieces, rest, hscans, -⟩ := exists_scans body
    refine ⟨(pieces, rest), hscans, fun scan hscan => ?_⟩
    obtain ⟨hpieces, hrest⟩ := hscan.unique hscans
    exact Prod.ext hpieces hrest
  · rcases @writes_or_refused τ _ text with
      hwrites | ⟨fault, sign, body, pieces, rest, hparse, hsign, hscans, hfault⟩
    · exact .inl hwrites
    · exact .inr ⟨fault, hparse, rfl, sign, body, pieces, rest, hsign, hscans, hfault⟩

end Parse

end Duration

end Playbook
