import Playbook.Proofs.LiteralRejection
import Playbook.Proofs.RunComposition

/-! # The chronicle of a run

A run reads on until a record is complete, plays that record, and reads on from there. Reading sees the
disk and nothing else of the state, and after a record nothing is left over. So a run amounts to its
chronicle: the records that it reads, each with the state in which it is read. What is said of two runs
is said by way of their chronicles.

## Implementation notes

Reading on is a function, for lists of lines and for readers alike, so that a proof about a run follows
the records and never the lines. -/

namespace Playbook

/-- What remains of a playbook when a record has been completed. -/
inductive Remains where
  /-- Lines, and the fault that ends them, if one does. -/
  | listed (lines : List Text) (fault : Option Fault)
  /-- A reader that goes on a limited number of times. -/
  | read (reader : Reader) (rounds : Nat)
deriving Repr, DecidableEq

/-- How often it can be read on. -/
def Remains.size : Remains → Nat
  | listed lines _ => lines.length
  | read _ rounds => rounds

/-- What reading on comes to. -/
inductive Next where
  /-- A record is complete; that is what remains behind it. -/
  | record (record : Record) (remains : Remains)
  /-- There are no more records, and so the playbook ends. -/
  | ends (result : Except Fault Unit)
deriving Repr, DecidableEq

/-- A record that is read, and the state in which it is read. -/
structure Reading (τ : Type) where
  record : Record
  state : RunState τ

/-- What remains of a source at the beginning. -/
def Source.remains {τ : Type} (stage : Stage τ) : Source → Remains
  | listed lines fault => .listed lines fault
  | read reader => .read reader (Reader.rounds (Production.reach stage reader.medium))

namespace Production

variable {τ : Type} [TimeScale τ] {production : Production}

/-- A run that is cancelled stops in front of its next step. -/
theorem upshot_proceed_of_given (production : Production) {state : RunState τ}
    (h : state.stage.cancelled = some true) (step : Step) :
    upshot (production.proceed step) state = (.error (.cancelled step), state) := by
  rw [proceed, upshot_bind_of_ok (upshot_get state), if_pos h]
  rfl

/-- As long as it is not, it performs the step. -/
theorem upshot_proceed (production : Production) {state : RunState τ}
    (h : state.stage.cancelled ≠ some true) (step : Step) :
    upshot (production.proceed step) state =
      upshot (production.perform step >>= fun _ => pure ()) state := by
  rw [proceed, upshot_bind_of_ok (upshot_get state), if_neg h]

/-- A record that is played is refused, which changes nothing, or its step is performed. -/
theorem playRecord_cases (production : Production) (record : Record) (state : RunState τ) :
    (∃ fault, upshot (production.playRecord record) state = (.error fault, state)) ∨
      ∃ step, Step.ofRecord production.vocabulary record = .ok step ∧
        upshot (production.playRecord record) state =
          upshot (production.perform step >>= fun _ => pure ()) state := by
  rw [playRecord]
  cases hrecord : Step.ofRecord production.vocabulary record with
  | error fault => exact .inl ⟨_, rfl⟩
  | ok step =>
      by_cases hcancelled : state.stage.cancelled = some true
      · exact .inl ⟨_, upshot_proceed_of_given production hcancelled step⟩
      · exact .inr ⟨step, rfl, upshot_proceed production hcancelled step⟩

/-- What is kept when steps are performed is kept when a record is played. -/
theorem keeps_playRecord {J : RunState τ → Prop} {F : Fault → Prop}
    (hperform : ∀ step, Keeps J F (production.perform step))
    (hplaybook : ∀ fault, fault.family = .playbook → F fault) (record : Record) :
    Keeps J F (production.playRecord record) := by
  rw [playRecord]
  split
  · exact keeps_throw (hplaybook _ rfl)
  · refine keeps_get_bind fun state _ => ?_
    split
    · exact keeps_throw (hplaybook _ rfl)
    · exact (hperform _).bind fun _ => keeps_pure ()

/-- How a playbook ends of which a text is left over. -/
def ending (fault : Option Fault) (left : Text) : Except Fault Unit :=
  match fault with
  | some fault => .error (Source.raised fault)
  | none => if Text.isBlankText left then .ok () else .error (.malformed (.unfinished left))

omit [TimeScale τ] in
theorem upshot_finish (fault : Option Fault) (left : Text) (state : RunState τ) :
    upshot (finish fault left) state = (ending fault left, state) := by
  cases fault with
  | some fault => rfl
  | none =>
      rw [finish, ending]
      split <;> rfl

/-- Read on in a list of lines. -/
def nextListed (production : Production) (buffer : Text) (fault : Option Fault) :
    List Text → Next
  | [] => .ends (ending fault buffer)
  | line :: lines =>
      let buffer := production.addLine buffer line
      match production.dialect.read buffer with
      | .error fault => .ends (.error (.malformed fault))
      | .ok none => production.nextListed buffer fault lines
      | .ok (some record) => .record record (.listed lines fault)

/-- Read on with a reader while the disk stays as it is. -/
def nextRead (production : Production) (disk : Disk) (buffer : Text) (reader : Reader) :
    Nat → Next
  | 0 => .ends (ending none buffer)
  | rounds + 1 =>
      match reader.advance disk with
      | .line line reader =>
          let buffer := production.addLine buffer line
          match production.dialect.read buffer with
          | .error fault => .ends (.error (.malformed fault))
          | .ok none => production.nextRead disk buffer reader rounds
          | .ok (some record) => .record record (.read reader rounds)
      | .more reader => production.nextRead disk buffer reader rounds
      | .done => .ends (ending none buffer)
      | .broken fault => .ends (.error (.input (.found fault)))

/-- Read on in what remains. -/
def next (production : Production) (disk : Disk) : Remains → Next
  | .listed lines fault => production.nextListed "" fault lines
  | .read reader rounds => production.nextRead disk "" reader rounds

/-- Follow what remains of a playbook to its end. -/
def followOn (production : Production) : Remains → Running τ Unit
  | .listed lines fault => production.takeLines "" lines >>= finish fault
  | .read reader rounds => production.takeRead "" reader rounds >>= finish none

/-- Do what reading on has come to. -/
def goOn (production : Production) : Next → Running τ Unit
  | .record record remains => do
      production.playRecord record
      production.followOn remains
  | .ends (.ok ()) => pure ()
  | .ends (.error fault) => throw fault

theorem upshot_goOn_ends (result : Except Fault Unit) (state : RunState τ) :
    upshot (production.goOn (.ends result)) state = (result, state) := by
  cases result <;> rfl

theorem upshot_takeLines_finish (buffer : Text) (lines : List Text) (fault : Option Fault)
    (state : RunState τ) :
    upshot (production.takeLines buffer lines >>= finish fault) state =
      upshot (production.goOn (production.nextListed buffer fault lines)) state := by
  induction lines generalizing buffer with
  | nil => rw [takeLines, pure_bind, upshot_finish, nextListed, upshot_goOn_ends]
  | cons line lines ih =>
      rw [takeLines, bind_assoc, nextListed]
      cases hread : production.dialect.read (production.addLine buffer line) with
      | error fault =>
          rw [upshot_bind_of_error (Record.upshot_takeLine_of_error hread state)]
          rfl
      | ok found =>
          cases found with
          | none =>
              rw [takeLine_of_none hread, pure_bind]
              exact ih _
          | some record =>
              rw [takeLine_of_record hread, bind_assoc]
              simp only [pure_bind]
              rfl

theorem upshot_takeRead_finish (buffer : Text) (reader : Reader) (rounds : Nat)
    (state : RunState τ) :
    upshot (production.takeRead buffer reader rounds >>= finish none) state =
      upshot (production.goOn (production.nextRead state.stage.disk buffer reader rounds)) state := by
  induction rounds generalizing buffer reader with
  | zero => rw [takeRead, pure_bind, upshot_finish, nextRead, upshot_goOn_ends]
  | succ rounds ih =>
      rw [takeRead, bind_assoc, upshot_bind_of_ok (upshot_get state), nextRead]
      cases reader.advance state.stage.disk with
      | line line reader =>
          dsimp only
          rw [bind_assoc]
          cases hread : production.dialect.read (production.addLine buffer line) with
          | error fault =>
              rw [upshot_bind_of_error (Record.upshot_takeLine_of_error hread state)]
              rfl
          | ok found =>
              cases found with
              | none =>
                  rw [takeLine_of_none hread, pure_bind]
                  exact ih _ reader
              | some record =>
                  rw [takeLine_of_record hread, bind_assoc]
                  simp only [pure_bind]
                  rfl
      | more reader => exact ih buffer reader
      | done =>
          dsimp only
          rw [pure_bind, upshot_finish, upshot_goOn_ends]
      | broken fault => rfl

/-- To follow what remains is to read on and to do what that comes to. -/
theorem upshot_followOn (remains : Remains) (state : RunState τ) :
    upshot (production.followOn remains) state =
      upshot (production.goOn (production.next state.stage.disk remains)) state := by
  cases remains with
  | listed lines fault => exact upshot_takeLines_finish "" lines fault state
  | read reader rounds => exact upshot_takeRead_finish "" reader rounds state

/-- A source is followed as what remains of it at the beginning. -/
theorem upshot_follow (source : Source) (state : RunState τ) :
    upshot (production.follow source) state =
      upshot (production.followOn (source.remains state.stage)) state := by
  cases source with
  | listed lines fault => rw [follow_listed, Source.remains, followOn]
  | read reader =>
      rw [follow, takeSource, bind_assoc, upshot_bind_of_ok (upshot_get state)]
      rfl

theorem size_nextListed {buffer : Text} {fault : Option Fault} {lines : List Text}
    {record : Record} {rest : Remains}
    (h : production.nextListed buffer fault lines = .record record rest) :
    rest.size < lines.length := by
  induction lines generalizing buffer with
  | nil => cases h
  | cons line lines ih =>
      rw [nextListed] at h
      split at h
      · cases h
      · exact (ih h).trans (Nat.lt_succ_self _)
      · obtain ⟨-, rfl⟩ := Next.record.inj h
        exact Nat.lt_succ_self _

theorem size_nextRead {disk : Disk} {buffer : Text} {reader : Reader} {rounds : Nat}
    {record : Record} {rest : Remains}
    (h : production.nextRead disk buffer reader rounds = .record record rest) :
    rest.size < rounds := by
  induction rounds generalizing buffer reader with
  | zero => cases h
  | succ rounds ih =>
      rw [nextRead] at h
      split at h
      · dsimp only at h
        split at h
        · cases h
        · exact (ih h).trans (Nat.lt_succ_self _)
        · obtain ⟨-, rfl⟩ := Next.record.inj h
          exact Nat.lt_succ_self _
      · exact (ih h).trans (Nat.lt_succ_self _)
      · cases h
      · cases h

/-- Behind a record less remains. -/
theorem size_next {disk : Disk} {remains rest : Remains} {record : Record}
    (h : production.next disk remains = .record record rest) : rest.size < remains.size := by
  cases remains with
  | listed lines fault => exact size_nextListed h
  | read reader rounds => exact size_nextRead h

/-- How a production reads on is a matter of its dialect. -/
theorem next_congr {production' : Production} (h : production'.dialect = production.dialect)
    (disk : Disk) (remains : Remains) :
    production'.next disk remains = production.next disk remains := by
  have hline (buffer line : Text) :
      production'.addLine buffer line = production.addLine buffer line := by
    rw [addLine, addLine, h]
  have hlisted (buffer : Text) (fault : Option Fault) (lines : List Text) :
      production'.nextListed buffer fault lines = production.nextListed buffer fault lines := by
    induction lines generalizing buffer with
    | nil => rfl
    | cons line lines ih => simp only [nextListed, hline, h, ih]
  have hread (buffer : Text) (reader : Reader) (n : Nat) :
      production'.nextRead disk buffer reader n = production.nextRead disk buffer reader n := by
    induction n generalizing buffer reader with
    | zero => rfl
    | succ n ih => simp only [nextRead, hline, h, ih]
  cases remains with
  | listed lines fault => exact hlisted "" fault lines
  | read reader rounds => exact hread "" reader rounds

/-- The records that are read from some state on, each with the state in which it is read, and what
the run comes to. -/
inductive Chronicle (production : Production) :
    Remains → RunState τ → List (Reading τ) → Except Fault Unit → RunState τ → Prop
  /-- There are no more records. -/
  | ends {remains state result} (hnext : production.next state.stage.disk remains = .ends result) :
      Chronicle production remains state [] result state
  /-- A record is read, and playing it ends the run. -/
  | stops {remains rest record} {state after : RunState τ} {fault}
      (hnext : production.next state.stage.disk remains = .record record rest)
      (hplay : upshot (production.playRecord record) state = (.error fault, after)) :
      Chronicle production remains state [⟨record, state⟩] (.error fault) after
  /-- A record is read and played, and the run goes on. -/
  | goesOn {remains rest record} {state middle : RunState τ} {readings result after}
      (hnext : production.next state.stage.disk remains = .record record rest)
      (hplay : upshot (production.playRecord record) state = (.ok (), middle))
      (tail : Chronicle production rest middle readings result after) :
      Chronicle production remains state (⟨record, state⟩ :: readings) result after

/-- What a chronicle tells is what the run comes to. -/
theorem Chronicle.upshot_eq {remains : Remains} {state after : RunState τ} {readings : List (Reading τ)}
    {result : Except Fault Unit} (h : production.Chronicle remains state readings result after) :
    upshot (production.followOn remains) state = (result, after) := by
  induction h with
  | ends hnext => rw [upshot_followOn, hnext, upshot_goOn_ends]
  | stops hnext hplay => rw [upshot_followOn, hnext, goOn, upshot_bind_of_error hplay]
  | goesOn hnext hplay _ ih => rw [upshot_followOn, hnext, goOn, upshot_bind_of_ok hplay, ih]

/-- What playing each of its records keeps holds at the end. -/
theorem Chronicle.keeps {J : RunState τ → Prop} {remains : Remains} {state after : RunState τ}
    {readings : List (Reading τ)} {result : Except Fault Unit}
    (h : production.Chronicle remains state readings result after)
    (hplay : ∀ reading ∈ readings, J reading.state →
      J (upshot (production.playRecord reading.record) reading.state).2) (hstate : J state) : J after := by
  induction h with
  | ends => exact hstate
  | stops _ hstop =>
      have hfirst := hplay _ List.mem_cons_self hstate
      rwa [hstop] at hfirst
  | goesOn _ hstep _ ih =>
      obtain ⟨hfirst, hrest⟩ := List.forall_mem_cons.mp hplay
      refine ih hrest ?_
      have hmiddle := hfirst hstate
      rwa [hstep] at hmiddle

/-- What playing a record keeps holds whenever a record is read. -/
theorem Chronicle.holds_at_readings {J : RunState τ → Prop} {F : Fault → Prop} {remains : Remains}
    {state after : RunState τ} {readings : List (Reading τ)} {result : Except Fault Unit}
    (h : production.Chronicle remains state readings result after)
    (hplay : ∀ record, Keeps J F (production.playRecord record)) (hstate : J state) :
    ∀ reading ∈ readings, J reading.state := by
  induction h with
  | ends => simp
  | stops => simpa using hstate
  | @goesOn _ _ record state _ _ _ _ _ hstep _ ih =>
      have hmiddle := (hplay record state hstate).1
      rw [hstep] at hmiddle
      exact List.forall_mem_cons.mpr ⟨hstate, ih hmiddle⟩

/-- A run has no other chronicle. -/
theorem Chronicle.deterministic {remains : Remains} {state after after' : RunState τ}
    {readings readings' : List (Reading τ)} {result result' : Except Fault Unit}
    (h : production.Chronicle remains state readings result after)
    (h' : production.Chronicle remains state readings' result' after') :
    readings = readings' ∧ result = result' ∧ after = after' := by
  induction h generalizing readings' with
  | ends hnext =>
      cases h' with
      | ends hnext' => exact ⟨rfl, Next.ends.inj (hnext.symm.trans hnext'), rfl⟩
      | stops hnext' | goesOn hnext' => cases hnext.symm.trans hnext'
  | stops hnext hplay =>
      cases h' with
      | ends hnext' => cases hnext.symm.trans hnext'
      | stops hnext' hplay' =>
          obtain ⟨rfl, rfl⟩ := Next.record.inj (hnext.symm.trans hnext')
          obtain ⟨hfault, rfl⟩ := Prod.mk.inj (hplay.symm.trans hplay')
          exact ⟨rfl, congrArg _ (Except.error.inj hfault), rfl⟩
      | goesOn hnext' hplay' =>
          obtain ⟨rfl, -⟩ := Next.record.inj (hnext.symm.trans hnext')
          cases hplay.symm.trans hplay'
  | goesOn hnext hplay _ ih =>
      cases h' with
      | ends hnext' => cases hnext.symm.trans hnext'
      | stops hnext' hplay' =>
          obtain ⟨rfl, -⟩ := Next.record.inj (hnext.symm.trans hnext')
          cases hplay.symm.trans hplay'
      | goesOn hnext' hplay' tail' =>
          obtain ⟨rfl, rfl⟩ := Next.record.inj (hnext.symm.trans hnext')
          obtain ⟨-, rfl⟩ := Prod.mk.inj (hplay.symm.trans hplay')
          obtain ⟨rfl, rfl, rfl⟩ := ih tail'
          exact ⟨rfl, rfl, rfl⟩

/-- Productions that read alike and play the records that are read alike have the same chronicle. -/
theorem Chronicle.congr {production' : Production} {remains : Remains} {state after : RunState τ}
    {readings : List (Reading τ)} {result : Except Fault Unit}
    (h : production.Chronicle remains state readings result after)
    (hdialect : production'.dialect = production.dialect)
    (hplay : ∀ reading ∈ readings, upshot (production'.playRecord reading.record) reading.state =
      upshot (production.playRecord reading.record) reading.state) :
    production'.Chronicle remains state readings result after := by
  induction h with
  | ends hnext => exact .ends ((next_congr hdialect ..).trans hnext)
  | stops hnext hstop =>
      obtain ⟨hfirst, -⟩ := List.forall_mem_cons.mp hplay
      exact .stops ((next_congr hdialect ..).trans hnext) (hfirst.trans hstop)
  | goesOn hnext hstep _ ih =>
      obtain ⟨hfirst, hrest⟩ := List.forall_mem_cons.mp hplay
      exact .goesOn ((next_congr hdialect ..).trans hnext) (hfirst.trans hstep) (ih hrest)

/-- A production that plays alike the records in front of some reading, and whose run this reading ends,
has a chronicle that ends with it. -/
theorem Chronicle.cut {production' : Production} {remains : Remains} {state after ended : RunState τ}
    {readings rest : List (Reading τ)} {reading : Reading τ} {result : Except Fault Unit} {fault : Fault}
    (h : production.Chronicle remains state (readings ++ reading :: rest) result after)
    (hdialect : production'.dialect = production.dialect)
    (hplay : ∀ reading ∈ readings, upshot (production'.playRecord reading.record) reading.state =
      upshot (production.playRecord reading.record) reading.state)
    (hstop : upshot (production'.playRecord reading.record) reading.state = (.error fault, ended)) :
    production'.Chronicle remains state (readings ++ [reading]) (.error fault) ended := by
  induction readings generalizing remains state with
  | nil =>
      cases h with
      | stops hnext | goesOn hnext => exact .stops ((next_congr hdialect ..).trans hnext) hstop
  | cons first readings ih =>
      obtain ⟨hfirst, hrest⟩ := List.forall_mem_cons.mp hplay
      generalize hreadings : first :: readings ++ reading :: rest = all at h
      cases h with
      | ends => cases hreadings
      | stops => simp at hreadings
      | goesOn hnext hstep tail =>
          obtain ⟨rfl, rfl⟩ := List.cons.inj hreadings
          exact .goesOn ((next_congr hdialect ..).trans hnext) (hfirst.trans hstep) (ih tail hrest)

/-- Every run has a chronicle. -/
theorem exists_chronicle (production : Production) (remains : Remains) (state : RunState τ) :
    ∃ readings, production.Chronicle remains state readings
      (upshot (production.followOn remains) state).1 (upshot (production.followOn remains) state).2 := by
  induction hsize : remains.size using Nat.strong_induction_on generalizing remains state with
  | h size ih =>
      rw [upshot_followOn]
      cases hnext : production.next state.stage.disk remains with
      | ends result =>
          rw [upshot_goOn_ends]
          exact ⟨[], .ends hnext⟩
      | record record rest =>
          rw [goOn, upshot_bind]
          cases hplay : upshot (production.playRecord record) state with
          | mk result middle =>
              cases result with
              | error fault => exact ⟨_, .stops hnext hplay⟩
              | ok =>
                  obtain ⟨readings, htail⟩ := ih rest.size (hsize ▸ size_next hnext) rest middle rfl
                  exact ⟨_, .goesOn hnext hplay htail⟩

/-- A run over a source has a chronicle. -/
theorem exists_chronicle_follow (production : Production) (source : Source) (state : RunState τ) :
    ∃ readings, production.Chronicle (source.remains state.stage) state readings
      (upshot (production.follow source) state).1 (upshot (production.follow source) state).2 := by
  rw [upshot_follow]
  exact production.exists_chronicle _ state

end Production

end Playbook
