import Playbook.Token

/-! # Classes of characters that exclude one another

A word character is neither blank nor a mark of any kind. The tables of the classes are compared
range by range, so these facts hold of every code point. -/

namespace Playbook.Text

/-- Decide whether no code point lies in ranges of both sets. -/
def Ranges.apart (a b : Ranges) : Bool :=
  a.all fun r => b.all fun s => r.2 < s.1 || s.2 < r.1

theorem Ranges.contains_eq_false_of_apart {a b : Ranges} (h : a.apart b = true) {n : Nat}
    (hn : a.contains n = true) : b.contains n = false := by
  obtain ⟨r, hr⟩ := Option.isSome_iff_exists.mp hn
  obtain ⟨hra, hlo, hhi⟩ := Ranges.range?_bounds hr
  cases hb : b.contains n with
  | false => rfl
  | true =>
      obtain ⟨s, hs⟩ := Option.isSome_iff_exists.mp hb
      obtain ⟨hsb, hlo', hhi'⟩ := Ranges.range?_bounds hs
      simp only [Ranges.apart, List.all_eq_true, Bool.or_eq_true, decide_eq_true_eq] at h
      have := h r hra s hsb
      omega

/-- A code point lies in increasing ranges if it lies in the first one, or above it in another one. -/
theorem Ranges.contains_cons_iff {lo hi n : Nat} {ranges : Ranges} :
    contains ((lo, hi) :: ranges) n = true ↔ lo ≤ n ∧ (n ≤ hi ∨ ranges.contains n = true) := by
  rw [contains, range?]
  split
  · rename_i hbelow
    exact iff_of_false Bool.noConfusion fun h => absurd hbelow (Nat.not_lt.mpr h.1)
  · rename_i hlo
    split
    · rename_i hhi
      exact iff_of_true rfl ⟨Nat.le_of_not_lt hlo, .inl hhi⟩
    · rename_i hhi
      exact ⟨fun h => ⟨Nat.le_of_not_lt hlo, .inr h⟩, fun h => h.2.resolve_left hhi⟩

/-- Where a run of characters of a class ends. -/
theorem takeWhile_dropWhile_append {p : CodePoint → Bool} {body rest : List CodePoint}
    (hbody : ∀ c ∈ body, p c = true) (hrest : ∀ c ∈ rest.head?, p c = false) :
    (body ++ rest).takeWhile p = body ∧ (body ++ rest).dropWhile p = rest := by
  rw [List.takeWhile_append_of_pos hbody, List.dropWhile_append_of_pos hbody]
  cases rest with
  | nil => simp
  | cons c cs => simp [hrest c rfl]

/-- No word character is blank. -/
theorem isBlank_of_isWord {c : CodePoint} (h : isWord c = true) : isBlank c = false :=
  Ranges.contains_eq_false_of_apart (by decide +kernel) h

theorem isWord_of_isBlank {c : CodePoint} (h : isBlank c = true) : isWord c = false := by
  cases hc : isWord c with
  | false => rfl
  | true =>
      rw [isBlank_of_isWord hc] at h
      exact Bool.noConfusion h

/-- A word character differs from any character that is none. -/
theorem ne_of_isWord {c d : CodePoint} (h : isWord c = true) (hd : isWord d = false) : c ≠ d := by
  rintro rfl
  rw [h] at hd
  exact Bool.noConfusion hd

theorem isWord_of_isWordStart {c : CodePoint} (h : isWordStart c = true) : isWord c = true := by
  simp only [isWordStart, Bool.and_eq_true] at h
  exact h.1

theorem isIdentifier_cons {c : CodePoint} {cs : List CodePoint} :
    isIdentifier (c :: cs) = true ↔ isWordStart c = true ∧ cs.all isWord = true := by
  simp [isIdentifier]

/-- An identifier consists of word characters. -/
theorem isWord_of_mem_isIdentifier {cs : List CodePoint} (h : isIdentifier cs = true) {c : CodePoint}
    (hc : c ∈ cs) : isWord c = true := by
  cases cs with
  | nil => simp at hc
  | cons d ds =>
      obtain ⟨hd, hds⟩ := isIdentifier_cons.mp h
      rcases List.mem_cons.mp hc with rfl | hc
      · exact isWord_of_isWordStart hd
      · exact List.all_eq_true.mp hds c hc

theorem isIdentifier_append {cs ds : List CodePoint} (h : isIdentifier cs = true)
    (hds : ds.all isWord = true) : isIdentifier (cs ++ ds) = true := by
  cases cs with
  | nil => simp [isIdentifier] at h
  | cons c cs =>
      obtain ⟨hc, hcs⟩ := isIdentifier_cons.mp h
      rw [List.cons_append, isIdentifier_cons]
      exact ⟨hc, by rw [List.all_append, hcs, hds, Bool.and_self]⟩

end Playbook.Text

namespace Playbook.Token

open Text

/-- A character that no word, number or point can take along, so that it ends each of them. -/
def isDivider (c : CodePoint) : Bool :=
  !isWord c && !isDigit c && c ≠ '.' && c ≠ '+' && c ≠ '-'

theorem isMark_eq_true_iff {c : CodePoint} :
    isMark c = true ↔ c = '\x7b' ∨ c = '\x7d' ∨ c = ':' ∨ c = ',' := by
  simp [isMark, or_assoc]

theorem isWord_of_isMark {c : CodePoint} (h : isMark c = true) : isWord c = false := by
  rcases isMark_eq_true_iff.mp h with rfl | rfl | rfl | rfl <;> decide

/-- Between two tokens a mark is a token. -/
theorem fresh_of_isMark {c : CodePoint} (h : isMark c = true) (position : Nat) :
    fresh position c = ([single .mark c position], none) := by
  rcases isMark_eq_true_iff.mp h with rfl | rfl | rfl | rfl <;> rfl

end Playbook.Token
