import Playbook.Proofs.Course
import Playbook.Proofs.DialectAgreement
import Playbook.Proofs.DiskFiles
import Playbook.Proofs.LineReading
import Playbook.Proofs.LiteralRejection
import Playbook.Proofs.PolitePages

/-! # Playing a playbook to its end

A medium never comes to hold more octets than a run reckons with, because all that is written over it
are pictures of the page. Hence a reader is followed until it has handed out its last line. The lines
are played without a fault just if each of them leaves a record open or completes one that makes a
step, and this step, which has a proper bound, is done. -/

namespace Playbook

variable {τ : Type}

/-- A medium whose octets are written over holds what was written. -/
theorem Medium.length_content_of_write {medium : Medium} {disk after : Disk} {path : Text}
    {octets : List UInt8} {limit : Nat} (h : disk.write path octets = .ok after)
    (hdisk : (medium.content disk).length ≤ limit) (hoctets : octets.length ≤ limit) :
    (medium.content after).length ≤ limit := by
  obtain ⟨location, hlocation, rfl⟩ := Disk.canWrite_of_write h
  cases medium with
  | octets content => exact hdisk
  | file place =>
      by_cases hplace : place = location
      · subst hplace
        rwa [content, hlocation.content?_put, Option.getD_some]
      · rw [content, Disk.content?, disk.entry?_put_of_ne _ hplace, ← Disk.content?]
        exact hdisk

/-- A step is named by the kind of its record. -/
theorem Step.name_of_ofRecord {vocabulary : Vocabulary} {record : Record} {step : Step}
    (h : ofRecord vocabulary record = .ok step) : step.name = record.kind := by
  rw [ofRecord] at h
  obtain ⟨_, -, h⟩ := bind_eq_ok.mp h
  obtain ⟨_, -, h⟩ := bind_eq_ok.mp h
  obtain rfl := Except.ok.inj h
  rfl

namespace Play

variable [TimeScale τ]

/-- The rule that answers a call is the one that is picked. -/
theorem pick_of_call {limit : Option τ} {request : Call τ} {stage after : Stage τ} {rule : Rule τ}
    (h : upshot (call limit request) stage = (.ok (some rule), after)) :
    ∃ rules, Rule.pick request stage.rules = some (rule, rules) := by
  obtain ⟨found, hpick, rfl⟩ := Option.map_eq_some_iff.mp (answer_of_call h).symm
  exact ⟨found.2, hpick⟩

/-- A picture of the page is one that a rule tells, or a plain one. -/
theorem picture_cases {limit : Option τ} {timeout : τ} {stage after : Stage τ} {data : List UInt8}
    (h : upshot (picture limit timeout) stage = (.ok data, after)) :
    data = plainPicture ∨ ∃ request rule rules,
      Rule.pick request stage.rules = some (rule, rules) ∧ rule.picture = some data := by
  rw [picture] at h
  obtain ⟨answer, middle, hanswer, h⟩ := upshot_bind_eq_ok.mp h
  obtain rfl := Except.ok.inj (Prod.mk.inj h).1
  rw [onPage, upshot_bind_of_ok (upshot_get stage)] at hanswer
  cases answer with
  | none => exact .inl rfl
  | some rule =>
      cases hpicture : rule.picture with
      | none => exact .inl (by simp [hpicture])
      | some told =>
          split at hanswer
          · obtain ⟨rules, hpick⟩ := pick_of_call hanswer
            exact .inr ⟨_, rule, rules, hpick, by simp [hpicture]⟩
          · cases (Prod.mk.inj hanswer).1

end Play

/-- A stage that is not cancelled and on which a medium holds no more than a number of octets, nor can
come to hold more. -/
structure Stage.Within (limit : Nat) (medium : Medium) (stage : Stage τ) : Prop where
  content : (medium.content stage.disk).length ≤ limit
  plain : Play.plainPicture.length ≤ limit
  told : ∀ rule ∈ stage.rules, ∀ picture ∈ rule.picture, picture.length ≤ limit
  going : stage.cancelled = none

namespace Stage.Within

variable {limit : Nat} {medium : Medium}

theorem undisturbed : Undisturbed (Stage.Within limit medium : Stage τ → Prop) fun _ => True where
  event _ _ _ h := ⟨h.content, h.plain, h.told, h.going⟩
  clock _ _ h := ⟨h.content, h.plain, h.told, h.going⟩
  cancelled _ h := ⟨h.content, h.plain, h.told, Option.map_eq_none_iff.mpr h.going⟩
  rules _ _ _ _ _ h hother hpick := by
    have htold := (Rule.forall_of_pick (fun _ htold => htold) hpick h.told).2
    exact ⟨hother.content, hother.plain, htold, hother.going⟩
  told _ _ _ _ _ _ _ _ := trivial
  timedOut := trivial

theorem engaged : Engaged (Stage.Within limit medium : Stage τ → Prop) fun _ => True where
  toUndisturbed := undisturbed
  request _ _ _ h := ⟨h.content, h.plain, h.told, h.going⟩
  closed _ _ _ := trivial

theorem writeFile (path : Text) {octets : List UInt8} (hoctets : octets.length ≤ limit) :
    Keeps (Stage.Within limit medium : Stage τ → Prop) (fun _ => True)
      (Play.writeFile path octets) := by
  intro stage h
  rw [Play.upshot_writeFile]
  cases hwrite : stage.disk.write path octets with
  | ok disk =>
      have hcontent := Medium.length_content_of_write hwrite h.content hoctets
      exact ⟨⟨hcontent, h.plain, h.told, h.going⟩, fun _ _ => trivial⟩
  | error fault => exact ⟨h, fun _ _ => trivial⟩

/-- A stage stays so however the page is used. -/
theorem lasting [TimeScale τ] : Lasting (Stage.Within limit medium : Stage τ → Prop) fun _ => True
    where
  toEngaged := engaged
  saved within name timeout _ := by
    refine (engaged.picture within timeout).bind_of_result (fun stage data after h hdata => ?_)
      fun data hlength => writeFile (Path.ofText name).text hlength
    rcases Play.picture_cases hdata with rfl | ⟨request, rule, rules, hpick, hpicture⟩
    · exact h.plain
    · exact (Rule.forall_of_pick (fun _ htold => htold) hpick h.told).1 data hpicture
  mismatch _ _ _ := trivial
  encoding _ := trivial
  duration _ := trivial

end Stage.Within

namespace Production

variable [TimeScale τ]

theorem sustained_within (production : Production) (limit : Nat) (medium : Medium) :
    production.Sustained (fun state : RunState τ => state.stage.Within limit medium) (fun _ => True)
      fun _ => True where
  lasting _ _ := Stage.Within.lasting
  cause _ _ := trivial
  playbook _ _ := trivial
  malformed _ := trivial
  outcome _ _ _ _ _ h := h

/-- A running maximum is no less than the number that it begins with, nor than any of the others. -/
theorem le_foldr_max (numbers : List Nat) (least : Nat) :
    least ≤ numbers.foldr max least ∧ ∀ number ∈ numbers, number ≤ numbers.foldr max least := by
  induction numbers with
  | nil => simp
  | cons number numbers ih =>
      obtain ⟨hleast, hall⟩ := ih
      refine ⟨hleast.trans (Nat.le_max_right _ _), List.forall_mem_cons.mpr ⟨Nat.le_max_left _ _, ?_⟩⟩
      exact fun other hother => (hall other hother).trans (Nat.le_max_right _ _)

omit [TimeScale τ] in
/-- What a run reckons with is what the medium can come to hold. -/
theorem within_reach {stage : Stage τ} (h : stage.cancelled = none) (medium : Medium) :
    stage.Within (reach stage medium) medium := by
  obtain ⟨hcontent, hpictures⟩ := le_foldr_max
    ((Play.plainPicture :: stage.rules.filterMap (·.picture)).map List.length)
    (medium.content stage.disk).length
  refine ⟨hcontent, hpictures _ (by simp), fun rule hrule picture hpicture => ?_, h⟩
  refine hpictures _ (List.mem_map.mpr ⟨picture, ?_, rfl⟩)
  exact List.mem_cons_of_mem _ (List.mem_filterMap.mpr ⟨rule, hrule, hpicture⟩)

/-- A step is done: its bound is a duration and it is played without a fault. -/
structure Does (production : Production) (step : Step) (before after : RunState τ) : Prop where
  bound : ∃ seconds : τ, step.action.bound = .ok seconds
  play : (upshot step.action.play before.stage).1 = .ok ()
  after : after = (upshot (production.perform step) before).2

/-- That is how a step is performed without a fault. -/
theorem does_iff {production : Production} {step : Step} {before after : RunState τ} :
    production.Does step before after ↔
      ∃ outcome, upshot (production.perform step) before = (.ok outcome, after) := by
  have hperformed := production.performed step before
  constructor
  · rintro ⟨⟨seconds, hbound⟩, hplay, rfl⟩
    generalize hupshot : upshot (production.perform step) before = performed at hperformed
    obtain ⟨result, after⟩ := performed
    cases hperformed with
    | unbounded hunbounded => cases hunbounded.symm.trans hbound
    | done => exact ⟨_, rfl⟩
    | broken hbroken => cases (congrArg Prod.fst hbroken).symm.trans hplay
    | failed hfails => cases (congrArg Prod.fst hfails.played).symm.trans hplay
  · rintro ⟨outcome, hdone⟩
    rw [hdone] at hperformed
    cases hperformed with
    | done hplay =>
        refine ⟨?_, by rw [hplay], by rw [hdone]⟩
        rw [upshot_perform] at hdone
        cases hbound : (step.action.bound : Except Fault τ) with
        | ok seconds => exact ⟨seconds, rfl⟩
        | error fault =>
            rw [hbound] at hdone
            cases (Prod.mk.inj hdone).1

/-- A step that is done leaves a success. -/
theorem Does.suite {production : Production} {step : Step} {before after : RunState τ}
    (h : production.Does step before after) :
    ∃ time, after.suite = before.suite.add (success step time) := by
  obtain ⟨outcome, hdone⟩ := does_iff.mp h
  have hperformed := production.performed step before
  rw [hdone] at hperformed
  cases hperformed with
  | done _ hsuite => exact ⟨_, hsuite⟩

/-- Lines are played without a fault: each leaves a record open or completes one that makes a step,
which is done. What is listed are the lines, each with the disk after it was played, and the records;
what is left over of the lines comes last. -/
inductive Takes (production : Production) :
    Text → RunState τ → List (Text × Disk) → List Record → Text → RunState τ → Prop
  | done {buffer state} : Takes production buffer state [] [] buffer state
  | leaves {buffer line state schedule records left after}
      (hread : production.dialect.read (production.addLine buffer line) = .ok none)
      (rest : Takes production (production.addLine buffer line) state schedule records left after) :
      Takes production buffer state ((line, state.stage.disk) :: schedule) records left after
  | completes {buffer line state record step middle schedule records left after}
      (hread : production.dialect.read (production.addLine buffer line) = .ok (some record))
      (hstep : Step.ofRecord production.vocabulary record = .ok step)
      (hdone : production.Does step state middle)
      (rest : Takes production "" middle schedule records left after) :
      Takes production buffer state ((line, middle.stage.disk) :: schedule) (record :: records) left
        after

/-- Each record leaves a success that names its kind. -/
theorem Takes.suite {production : Production} {buffer left : Text} {state after : RunState τ}
    {schedule : List (Text × Disk)} {records : List Record}
    (h : production.Takes buffer state schedule records left after) :
    ∃ outcomes : List (Outcome τ), after.suite = outcomes.foldl Suite.add state.suite ∧
      outcomes.map (·.className) = records.map (·.kind) ∧
      ∀ outcome ∈ outcomes, outcome.success = true := by
  induction h with
  | done => exact ⟨[], rfl, rfl, by simp⟩
  | leaves _ _ ih => exact ih
  | @completes buffer line state record step middle _ _ _ _ _ hstep hdone _ ih =>
      obtain ⟨outcomes, hsuite, hkinds, hsuccess⟩ := ih
      obtain ⟨time, hadded⟩ := hdone.suite
      have hname : step.name = record.kind := Step.name_of_ofRecord hstep
      refine ⟨success step time :: outcomes, ?_, ?_, List.forall_mem_cons.mpr ⟨rfl, hsuccess⟩⟩
      · rw [hsuite, hadded, List.foldl_cons]
      · rw [List.map_cons, List.map_cons, hkinds]
        exact congrArg (· :: _) hname

variable {production : Production}

/-- Unless the run is cancelled, to go on with a step is to perform it. -/
theorem upshot_proceed_eq_ok {step : Step} {state after : RunState τ}
    (hgoing : state.stage.cancelled = none) :
    upshot (production.proceed step) state = (.ok (), after) ↔ production.Does step state after := by
  rw [proceed, upshot_bind_of_ok (upshot_get state), if_neg (by simp [hgoing]), upshot_bind_eq_ok,
    does_iff]
  constructor
  · rintro ⟨outcome, _, hdone, hafter⟩
    obtain ⟨-, rfl⟩ := Prod.mk.inj hafter
    exact ⟨outcome, hdone⟩
  · rintro ⟨outcome, hdone⟩
    exact ⟨outcome, after, hdone, rfl⟩

/-- A line is taken without a fault just if it leaves a record open or completes one that makes a step
which is done. -/
theorem upshot_takeLine_eq_ok {buffer line left : Text} {state after : RunState τ}
    (hgoing : state.stage.cancelled = none) :
    upshot (production.takeLine buffer line) state = (.ok left, after) ↔
      (production.dialect.read (production.addLine buffer line) = .ok none ∧
        left = production.addLine buffer line ∧ after = state) ∨
      ∃ record step,
        production.dialect.read (production.addLine buffer line) = .ok (some record) ∧
        Step.ofRecord production.vocabulary record = .ok step ∧
        production.Does step state after ∧ left = "" := by
  cases hread : production.dialect.read (production.addLine buffer line) with
  | error fault =>
      rw [Record.upshot_takeLine_of_error hread]
      simp
  | ok found =>
      cases found with
      | none =>
          rw [takeLine_of_none hread]
          simp [eq_comm]
      | some record =>
          rw [takeLine_of_record hread, upshot_bind_eq_ok, playRecord]
          constructor
          · rintro ⟨⟨⟩, middle, hplayed, hreturned⟩
            obtain ⟨hleft, rfl⟩ := Prod.mk.inj hreturned
            cases hstep : Step.ofRecord production.vocabulary record with
            | error fault =>
                rw [hstep] at hplayed
                cases (Prod.mk.inj hplayed).1
            | ok step =>
                rw [hstep, upshot_proceed_eq_ok hgoing] at hplayed
                exact .inr ⟨record, step, rfl, hstep, hplayed, (Except.ok.inj hleft).symm⟩
          · rintro (⟨hnone, -⟩ | ⟨other, step, hsome, hstep, hdone, rfl⟩)
            · cases hnone
            · obtain rfl := Option.some.inj (Except.ok.inj hsome)
              rw [hstep]
              exact ⟨(), after, (upshot_proceed_eq_ok hgoing).mpr hdone, rfl⟩

/-- A first line is played by taking it. -/
theorem exists_takes_cons_iff {buffer line left : Text} {state after : RunState τ} {disk : Disk}
    {schedule : List (Text × Disk)} (hgoing : state.stage.cancelled = none) :
    (∃ records, production.Takes buffer state ((line, disk) :: schedule) records left after) ↔
      ∃ gap middle, upshot (production.takeLine buffer line) state = (.ok gap, middle) ∧
        disk = middle.stage.disk ∧
        ∃ records, production.Takes gap middle schedule records left after := by
  constructor
  · rintro ⟨records, htakes⟩
    cases htakes with
    | leaves hread rest =>
        exact ⟨_, state, (upshot_takeLine_eq_ok hgoing).mpr (.inl ⟨hread, rfl, rfl⟩), rfl, _, rest⟩
    | @completes _ _ _ record step middle _ records _ _ hread hstep hdone rest =>
        have htaken := (upshot_takeLine_eq_ok hgoing).mpr
          (.inr ⟨record, step, hread, hstep, hdone, rfl⟩)
        exact ⟨"", middle, htaken, rfl, records, rest⟩
  · rintro ⟨gap, middle, htaken, rfl, records, rest⟩
    rcases (upshot_takeLine_eq_ok hgoing).mp htaken with
      ⟨hread, rfl, rfl⟩ | ⟨record, step, hread, hstep, hdone, rfl⟩
    · exact ⟨records, .leaves hread rest⟩
    · exact ⟨record :: records, .completes hread hstep hdone rest⟩

/-- A reader that is followed often enough is followed to its end, and that without a fault just if the
lines that it hands out are played without a fault. -/
theorem upshot_takeRead_eq_ok {limit rounds : Nat} {buffer left : Text} {reader : Reader}
    {state after : RunState τ} (hwithin : state.stage.Within limit reader.medium)
    (hrounds : reader.remaining limit < rounds) :
    upshot (production.takeRead buffer reader rounds) state = (.ok left, after) ↔
      ∃ schedule, reader.Hands state.stage.disk schedule ∧
        ∃ records, production.Takes buffer state schedule records left after := by
  induction rounds generalizing buffer reader state with
  | zero => exact absurd hrounds (Nat.not_lt_zero _)
  | succ rounds ih =>
      rw [takeRead, upshot_bind_of_ok (upshot_get state)]
      cases hadvance : reader.advance state.stage.disk with
      | line line next =>
          obtain ⟨hmedium, -, hless⟩ := Reader.remaining_of_line limit hadvance
          have hmiddle {gap : Text} {middle : RunState τ}
              (h : upshot (production.takeLine buffer line) state = (.ok gap, middle)) :
              middle.stage.Within limit next.medium := by
            have hkept := (production.sustained_within (τ := τ) limit reader.medium).takeLine
              buffer line state hwithin
            rw [h] at hkept
            exact hmedium ▸ hkept.1
          dsimp only
          rw [upshot_bind_eq_ok]
          constructor
          · rintro ⟨gap, middle, htaken, hrest⟩
            obtain ⟨schedule, hands, hplayed⟩ := (ih (hmiddle htaken) (by omega)).mp hrest
            exact ⟨(line, middle.stage.disk) :: schedule, .line hadvance hands,
              (exists_takes_cons_iff hwithin.going).mpr ⟨gap, middle, htaken, rfl, hplayed⟩⟩
          · rintro ⟨schedule, hands, hplayed⟩
            obtain ⟨later, rest, rfl, hrest⟩ := (Reader.hands_iff_of_line hadvance).mp hands
            obtain ⟨gap, middle, htaken, rfl, htakes⟩ :=
              (exists_takes_cons_iff hwithin.going).mp hplayed
            exact ⟨gap, middle, htaken, (ih (hmiddle htaken) (by omega)).mpr ⟨rest, hrest, htakes⟩⟩
      | more next =>
          obtain ⟨hmedium, -, hless⟩ := Reader.remaining_of_more hwithin.content hadvance
          simp only [ih (hmedium ▸ hwithin) (by omega : next.remaining limit < rounds),
            Reader.hands_iff_of_more hadvance]
      | done =>
          simp only [Reader.hands_iff_of_done hadvance, exists_eq_left]
          constructor
          · intro h
            obtain ⟨hleft, rfl⟩ := Prod.mk.inj h
            obtain rfl := Except.ok.inj hleft
            exact ⟨[], .done⟩
          · rintro ⟨records, htakes⟩
            cases htakes
            rfl
      | broken fault =>
          refine iff_of_false (fun h => ?_) ?_
          · cases (Prod.mk.inj h).1
          · rintro ⟨schedule, hands, -⟩
            exact Reader.not_hands_of_broken hadvance hands

/-- The playbook of a medium is followed without a fault just if its reader comes to the end, the lines
that it hands out are played without a fault, and nothing but blank text is left over. -/
theorem upshot_follow_eq_ok {medium : Medium} {format : LineFormat} {state after : RunState τ}
    (hgoing : state.stage.cancelled = none) :
    upshot (production.follow (.read (.new medium format))) state = (.ok (), after) ↔
      ∃ schedule, (Reader.new medium format).Hands state.stage.disk schedule ∧
        ∃ records left, production.Takes "" state schedule records left after ∧
          Text.isBlankText left = true := by
  have hwithin := within_reach hgoing medium
  have hrounds : (Reader.new medium format).remaining (reach state.stage medium) <
      Reader.rounds (reach state.stage medium) := by
    simp [Reader.remaining, Reader.new, Reader.rounds]
  have hsource (left : Text) (after : RunState τ) :
      upshot (production.takeSource (.read (.new medium format))) state = (.ok left, after) ↔
        ∃ schedule, (Reader.new medium format).Hands state.stage.disk schedule ∧
          ∃ records, production.Takes "" state schedule records left after := by
    rw [takeSource, upshot_bind_of_ok (upshot_get state)]
    exact upshot_takeRead_eq_ok hwithin hrounds
  rw [follow, upshot_bind_eq_ok]
  constructor
  · rintro ⟨left, middle, htaken, hended⟩
    obtain ⟨schedule, hands, records, htakes⟩ := (hsource left middle).mp htaken
    split at hended
    · rename_i hblank
      obtain ⟨-, rfl⟩ := Prod.mk.inj hended
      exact ⟨schedule, hands, records, left, htakes, hblank⟩
    · cases (Prod.mk.inj hended).1
  · rintro ⟨schedule, hands, records, left, htakes, hblank⟩
    refine ⟨left, after, (hsource left after).mpr ⟨schedule, hands, records, htakes⟩, ?_⟩
    rw [if_pos hblank]
    rfl

end Production

end Playbook
