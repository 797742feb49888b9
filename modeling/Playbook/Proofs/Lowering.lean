import Playbook.Text.LowerCase

/-! # Lowering a text twice

A text that is in lower case stays as it is when it is lowered again. No mapping leads to a letter that
is mapped itself, as the table of the mappings shows, and the capital sigma, whose lower case depends on
the letters around it, does not come up again. -/

namespace Playbook.Text

namespace CaseRun

theorem mem_of_find? {runs : List CaseRun} {n : Nat} {run : CaseRun} (h : find? runs n = some run) :
    run ∈ runs ∧ run.holds n = true := by
  induction runs with
  | nil => cases h
  | cons first rest ih =>
      rw [find?] at h
      split at h
      · cases h
      · split at h
        · rename_i hholds
          obtain rfl := Option.some.inj h
          exact ⟨List.mem_cons_self, hholds⟩
        · obtain ⟨hmem, hholds⟩ := ih h
          exact ⟨List.mem_cons_of_mem _ hmem, hholds⟩

/-- What a run maps a code point to. -/
def image (run : CaseRun) (n : Nat) : Nat := ((n : Int) + run.shift).toNat

/-- Decide whether no run holds a number that is reached from the least one to the greatest one in
steps: it lies before the run or behind it, or all steps are even and the run has the other parity. -/
def misses (least greatest step : Nat) : List CaseRun → Bool
  | [] => true
  | run :: rest =>
      Nat.blt greatest run.first ||
        (Nat.blt run.last least ||
          step % 2 == 0 && run.step % 2 == 0 && (least + run.first) % 2 == 1) &&
        misses least greatest step rest

/-- So none is found. -/
theorem find?_of_misses {least greatest step n : Nat} {runs : List CaseRun}
    (h : misses least greatest step runs = true) (hleast : least ≤ n) (hgreatest : n ≤ greatest)
    (hstep : step ∣ n - least) : find? runs n = none := by
  induction runs with
  | nil => rfl
  | cons run rest ih =>
      rw [find?]
      by_cases hfirst : n < run.first
      · rw [if_pos hfirst]
      · simp only [misses, Bool.or_eq_true, Bool.and_eq_true, Nat.blt_eq, beq_iff_eq] at h
        rcases h with hbefore | ⟨happart, hrest⟩
        · omega
        · have hfree : run.holds n = false := by
            apply Bool.eq_false_iff.mpr
            intro hholds
            simp only [holds, Bool.and_eq_true, decide_eq_true_eq] at hholds
            rcases happart with hbehind | ⟨⟨heven, hrun⟩, hparity⟩
            · omega
            · have hleasts : 2 ∣ n - least := Nat.dvd_trans (Nat.dvd_of_mod_eq_zero heven) hstep
              have hfirsts : 2 ∣ n - run.first :=
                Nat.dvd_trans (Nat.dvd_of_mod_eq_zero hrun) (Nat.dvd_of_mod_eq_zero hholds.2)
              omega
          rw [if_neg hfirst, hfree]
          exact ih hrest

/-- The steps in which a run goes; one that holds a single number may be said to go in twos. -/
def pace (run : CaseRun) : Nat := if run.first == run.last then 2 else run.step

/-- Decide whether a run leads only to characters that the mapping leaves as they are. -/
def settles (run : CaseRun) : Bool :=
  let least := run.image run.first
  let greatest := run.image run.last
  0 ≤ (run.first : Int) + run.shift &&
    (Nat.blt greatest 0xD800 || Nat.blt 0xDFFF least && Nat.blt greatest 0x110000) &&
    (Nat.blt greatest 0x130 || Nat.blt 0x130 least) && misses least greatest run.pace lowerRuns

end CaseRun

/-- A character that lowering leaves as it is, whatever stands around it. -/
def Lowered (c : CodePoint) : Prop := c ≠ '\u03A3' ∧ lowerChar c = [c]

instance (c : CodePoint) : Decidable (Lowered c) := inferInstanceAs (Decidable (_ ∧ _))

/-- All runs do, as the table shows. -/
theorem settles_of_mem : ∀ run ∈ lowerRuns, run.settles = true := by decide +kernel

theorem lowered_of_find? {c : CodePoint} (hdot : c ≠ '\u0130')
    (hfind : CaseRun.find? lowerRuns c.toNat = none) : Lowered c := by
  have hsame : CaseRun.apply lowerRuns c = c := by rw [CaseRun.apply, hfind]
  refine ⟨?_, by rw [lowerChar, if_neg hdot, hsame]⟩
  rintro rfl
  exact absurd hfind (by decide)

theorem CaseRun.lowered_image {run : CaseRun} {n : Nat} (h : run.settles = true)
    (hholds : run.holds n = true) : Lowered (Char.ofNat (run.image n)) := by
  simp only [settles, Bool.and_eq_true, Bool.or_eq_true, decide_eq_true_eq, Nat.blt_eq] at h
  obtain ⟨⟨⟨hpositive, hvalid⟩, hdot⟩, hmisses⟩ := h
  simp only [holds, Bool.and_eq_true, decide_eq_true_eq] at hholds
  obtain ⟨⟨hfirst, hlast⟩, hstep⟩ := hholds
  have hleast : run.image run.first ≤ run.image n := by unfold image; omega
  have hgreatest : run.image n ≤ run.image run.last := by unfold image; omega
  have hpace : run.pace ∣ run.image n - run.image run.first := by
    have hdistance : run.image n - run.image run.first = n - run.first := by unfold image; omega
    rw [hdistance, pace]
    split
    · rename_i hsingle
      have hzero : n - run.first = 0 := by
        have := beq_iff_eq.mp hsingle
        omega
      rw [hzero]
      exact Nat.dvd_zero _
    · exact Nat.dvd_of_mod_eq_zero hstep
  have hcode : (CodePoint.scalar (Char.ofNat (run.image n))).toNat = run.image n := by
    have hchar : (run.image n).isValidChar := by unfold Nat.isValidChar; omega
    rw [Char.ofNat, dif_pos hchar]
    rfl
  refine lowered_of_find? (fun heq => ?_) ?_
  · have hcapital : run.image n = 0x130 := by rw [← hcode, heq]; rfl
    omega
  · rw [hcode]
    exact find?_of_misses hmisses hleast hgreatest hpace

theorem lowered_apply {c : CodePoint} (hdot : c ≠ '\u0130') : Lowered (CaseRun.apply lowerRuns c) := by
  cases hfind : CaseRun.find? lowerRuns c.toNat with
  | none =>
      have hsame : CaseRun.apply lowerRuns c = c := by rw [CaseRun.apply, hfind]
      rw [hsame]
      exact lowered_of_find? hdot hfind
  | some run =>
      obtain ⟨hmem, hholds⟩ := CaseRun.mem_of_find? hfind
      rw [CaseRun.apply, hfind]
      exact CaseRun.lowered_image (settles_of_mem run hmem) hholds

/-- Lowering leads to nothing else. -/
theorem lowered_of_mem_lowerAfter {before cs : List CodePoint} {c : CodePoint} (h : c ∈ lowerAfter before cs) :
    Lowered c := by
  induction cs generalizing before with
  | nil => cases h
  | cons d cs ih =>
      rw [lowerAfter, List.mem_append] at h
      rcases h with h | h
      case inr => exact ih h
      case inl =>
        by_cases hsigma : d = '\u03A3'
        · rw [if_pos hsigma] at h
          split at h
          · rw [List.mem_singleton.mp h]
            decide
          · rw [List.mem_singleton.mp h]
            decide
        · rw [if_neg hsigma, lowerChar] at h
          split at h
          · have hpair : c = 'i' ∨ c = '\u0307' := by simpa using h
            rcases hpair with rfl | rfl
            · decide
            · decide
          · rename_i hdot
            rw [List.mem_singleton.mp h]
            exact lowered_apply hdot

theorem lowerAfter_of_lowered {before cs : List CodePoint} (h : ∀ c ∈ cs, Lowered c) :
    lowerAfter before cs = cs := by
  induction cs generalizing before with
  | nil => rfl
  | cons c cs ih =>
      obtain ⟨⟨hsigma, hsame⟩, hrest⟩ := List.forall_mem_cons.mp h
      rw [lowerAfter, if_neg hsigma, hsame, ih hrest, List.singleton_append]

/-- Lowering once is enough. -/
theorem lower_lower (text : Text) : lower (lower text) = lower text := by
  rw [lower, lower, Text.toList_ofList, lowerAfter_of_lowered fun c => lowered_of_mem_lowerAfter]

end Playbook.Text
