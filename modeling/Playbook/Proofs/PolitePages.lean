import Playbook.Proofs.Invariants

/-! # Plays on a page that behaves

A page behaves if all that it reports are faults of the browser and of the system. What actions end in
on such a page is then handled, with two exceptions: a file whose name holds a null character is
refused with a defect, and so is what cannot be encoded. More generally, a page that reports faults of
one sort only goes on doing so while it is used. -/

namespace Playbook

variable {τ : Type}

/-- A rule reports no faults but those of the browser and of the system. -/
def Rule.Polite (rule : Rule τ) : Prop :=
  ∀ fault ∈ rule.fault, fault.family = .browser ∨ fault.family = .system

/-- A page with such rules only. -/
def Stage.Polite (stage : Stage τ) : Prop := ∀ rule ∈ stage.rules, rule.Polite

/-- The faults of texts, paths and literals that cannot be encoded. -/
inductive Fault.Unencodable : Fault → Prop
  | text (fault : Text.EncodingFault) : Unencodable (.encoding fault)
  | path (fault : Text.EncodingFault) (path : Text) : Unencodable (.disk ⟨.unencodable fault, path⟩)
  | literal {fault : RecordFault} (h : fault.isSyntax = false) : Unencodable (.malformed fault)

/-- The faults that pass through every handler although the page behaves: a path that is not given, one
with a null character, and what cannot be encoded. -/
def Fault.Escapes (fault : Fault) : Prop :=
  fault = .noPath ∨ (∃ path, fault = .disk ⟨.nulCharacter, path⟩) ∨ fault.Unencodable

/-- The faults that may come up on a page that behaves. -/
def Fault.Foreseen (fault : Fault) : Prop := fault.isExpected = true ∨ fault.Escapes

namespace Fault

theorem foreseen_of_family {fault : Fault} (h : fault.family ≠ .defect) : fault.Foreseen :=
  .inl (by simp [isExpected, h])

theorem foreseen_disk (fault : DiskFault) : (disk fault).Foreseen := by
  obtain ⟨cause, path⟩ := fault
  cases cause with
  | nulCharacter => exact .inr (.inr (.inl ⟨path, rfl⟩))
  | unencodable fault => exact .inr (.inr (.inr (.path fault path)))
  | missing | notDirectory | isDirectory | nameTooLong => exact .inl rfl

theorem foreseen_malformed (fault : RecordFault) : (malformed fault).Foreseen := by
  cases hsyntax : fault.isSyntax with
  | true => exact foreseen_of_family (by simp [family, hsyntax])
  | false => exact .inr (.inr (.inr (.literal hsyntax)))

theorem not_expected_of_unencodable {fault : Fault} (h : fault.Unencodable) :
    fault.isExpected = false := by
  cases h with
  | text | path => rfl
  | literal hsyntax => simp [isExpected, family, hsyntax]

theorem not_expected_of_escapes {fault : Fault} (h : fault.Escapes) : fault.isExpected = false := by
  rcases h with rfl | ⟨path, rfl⟩ | hencoding
  · rfl
  · rfl
  · exact not_expected_of_unencodable hencoding

end Fault

/-- A page reports faults of one sort only. -/
def Stage.Tells (G : Fault → Prop) (stage : Stage τ) : Prop :=
  ∀ rule ∈ stage.rules, ∀ fault ∈ rule.fault, G fault

theorem Stage.Polite.tells {stage : Stage τ} (h : stage.Polite) : stage.Tells Fault.Foreseen := by
  intro rule hrule fault hfault
  apply Fault.foreseen_of_family
  rcases h rule hrule fault hfault with hfamily | hfamily <;> simp [hfamily]

/-- The rule that answers a call and the rules that are left are among the rules, but for their use. -/
theorem Rule.forall_of_pick {P : Rule τ → Prop} (hused : ∀ rule, P rule → P rule.used)
    {request : Call τ} {rules rest : List (Rule τ)} {rule : Rule τ}
    (h : pick request rules = some (rule, rest)) (hrules : ∀ rule ∈ rules, P rule) :
    P rule ∧ ∀ rule ∈ rest, P rule := by
  induction rules generalizing rest with
  | nil => simp [pick] at h
  | cons first rules ih =>
      obtain ⟨hfirst, hrules⟩ := List.forall_mem_cons.mp hrules
      rw [pick] at h
      split at h
      · obtain ⟨rfl, rfl⟩ := Prod.mk.inj (Option.some.inj h)
        exact ⟨hfirst, List.forall_mem_cons.mpr ⟨hused _ hfirst, hrules⟩⟩
      · obtain ⟨⟨found, left⟩, hfound, hpair⟩ := Option.map_eq_some_iff.mp h
        obtain ⟨rfl, rfl⟩ := Prod.mk.inj hpair
        obtain ⟨hrule, hleft⟩ := ih hfound hrules
        exact ⟨hrule, List.forall_mem_cons.mpr ⟨hfirst, hleft⟩⟩

/-- What the rules of a page tell is of one sort still when one of them has been used. -/
theorem Rule.pick_tells {G : Fault → Prop} {request : Call τ} {rules rest : List (Rule τ)}
    {rule : Rule τ} (h : pick request rules = some (rule, rest))
    (hrules : ∀ rule ∈ rules, ∀ fault ∈ rule.fault, G fault) :
    (∀ fault ∈ rule.fault, G fault) ∧ ∀ rule ∈ rest, ∀ fault ∈ rule.fault, G fault :=
  Rule.forall_of_pick (fun _ htells => htells) h hrules

/-- A page that is open and reports faults of one sort only. -/
structure Stage.Ready (G : Fault → Prop) (stage : Stage τ) : Prop where
  told : stage.Tells G
  opened : stage.browser.opened = true

section Tells

variable {G F : Fault → Prop} (hfault : ∀ fault, G fault → F fault) (htimedOut : F .timedOut)

include hfault htimedOut

theorem Stage.tells_undisturbed : Undisturbed (Stage.Tells G : Stage τ → Prop) F where
  event _ _ _ h := h
  clock _ _ h := h
  cancelled _ h := h
  rules _ _ _ _ _ h _ hpick := (Rule.pick_tells hpick h).2
  told _ _ _ _ h hpick fault htold := hfault fault ((Rule.pick_tells hpick h).1 fault htold)
  timedOut := htimedOut

/-- A page stays open and ready while it is used. -/
theorem Stage.ready_engaged : Engaged (Stage.Ready G : Stage τ → Prop) F where
  event _ _ _ h := ⟨h.told, h.opened⟩
  clock _ _ h := ⟨h.told, h.opened⟩
  cancelled _ h := ⟨h.told, h.opened⟩
  rules _ _ _ _ _ h hother hpick := ⟨(Rule.pick_tells hpick h.told).2, hother.opened⟩
  told _ _ _ _ h hpick fault htold := hfault fault ((Rule.pick_tells hpick h.told).1 fault htold)
  timedOut := htimedOut
  request _ _ _ h := ⟨h.told, h.opened⟩
  closed _ h hclosed := Bool.noConfusion (hclosed.symm.trans h.opened)

end Tells

/-- What actions end in on a page that behaves is foreseen. -/
theorem Stage.ready_steady : Steady (Stage.Ready Fault.Foreseen : Stage τ → Prop) Fault.Foreseen where
  toEngaged := Stage.ready_engaged (fun _ h => h) (.inl rfl)
  disk _ _ h := ⟨h.told, h.opened⟩
  refused := Fault.foreseen_disk
  mismatch _ _ _ := .inl rfl
  encoding fault := .inr (.inr (.inr (.text fault)))
  duration _ := .inl rfl

end Playbook
