import Playbook.Proofs.Chronicle
import Playbook.Proofs.PlayParts

/-! # Cancelled runs

The signal to cancel may be given before a run, or by any call to the browser. A step pays no heed to
it: it is performed to its end, as it would be if there were no signal. The signal is looked at only
when the next record has made a step. Then the run stops in front of that step. If no step follows, the
run ends as if there were no signal. -/

namespace Playbook

variable {τ σ α β : Type}

/-- A stage with a signal: none, or one that is given or not. -/
def Stage.withSignal (signal : Option Bool) (stage : Stage τ) : Stage τ :=
  { stage with cancelled := signal }

/-- A run with a signal. -/
def RunState.withSignal (signal : Option Bool) (state : RunState τ) : RunState τ :=
  { state with stage := state.stage.withSignal signal }

@[simp] theorem RunState.withSignal_withSignal (signal other : Option Bool) (state : RunState τ) :
    (state.withSignal other).withSignal signal = state.withSignal signal := rfl

@[simp] theorem Source.remains_withSignal (signal : Option Bool) (state : RunState τ)
    (source : Source) : source.remains (state.withSignal signal).stage = source.remains state.stage := by
  cases source <;> rfl

/-- A play or a part of a run is deaf if it does the same whatever the signal is. It may give the
signal, if there is one. -/
def Deaf (withSignal : Option Bool → σ → σ) (m : ExceptT Fault (StateM σ) α) : Prop :=
  ∀ s, ∃ gives : Bool, ∀ signal, upshot m (withSignal signal s) =
    ((upshot m s).1, withSignal (signal.map (· || gives)) (upshot m s).2)

namespace Deaf

variable {withSignal : Option Bool → σ → σ} {m : ExceptT Fault (StateM σ) α}
  {f : α → ExceptT Fault (StateM σ) β}

theorem pure (a : α) : Deaf withSignal (pure a : ExceptT Fault (StateM σ) α) :=
  fun _ => ⟨false, fun signal => by simp⟩

theorem throw (fault : Fault) : Deaf withSignal (throw fault : ExceptT Fault (StateM σ) α) :=
  fun _ => ⟨false, fun signal => by simp⟩

theorem modify {g : σ → σ} (h : ∀ signal s, g (withSignal signal s) = withSignal signal (g s)) :
    Deaf withSignal (modify g : ExceptT Fault (StateM σ) Unit) :=
  fun _ => ⟨false, fun signal => by simp [h]⟩

/-- What both parts give of the signal is given by the whole. -/
theorem bind (h : Deaf withSignal m) (hf : ∀ a, Deaf withSignal (f a)) :
    Deaf withSignal (m >>= f) := by
  intro s
  obtain ⟨gives, hfirst⟩ := h s
  cases hupshot : upshot m s with
  | mk result middle =>
      rw [hupshot] at hfirst
      cases result with
      | error fault =>
          refine ⟨gives, fun signal => ?_⟩
          rw [upshot_bind_of_error (hfirst signal), upshot_bind_of_error hupshot]
      | ok a =>
          obtain ⟨more, hnext⟩ := hf a middle
          refine ⟨gives || more, fun signal => ?_⟩
          rw [upshot_bind_of_ok (hfirst signal), upshot_bind_of_ok hupshot, hnext, Option.map_map]
          simp [Function.comp_def, Bool.or_assoc]

/-- What is looked up must not be the signal. -/
theorem get_bind {f : σ → ExceptT Fault (StateM σ) β}
    (hsame : ∀ signal s, f (withSignal signal s) = f s)
    (hf : ∀ s, Deaf withSignal (f s)) : Deaf withSignal (get >>= f) := by
  intro s
  obtain ⟨gives, hnext⟩ := hf s s
  refine ⟨gives, fun signal => ?_⟩
  rw [upshot_bind_of_ok (upshot_get _), upshot_bind_of_ok (upshot_get _), hsame, hnext signal]

theorem tryCatch (h : Deaf withSignal m) {handle : Fault → ExceptT Fault (StateM σ) α}
    (hhandle : ∀ fault, Deaf withSignal (handle fault)) : Deaf withSignal (tryCatch m handle) := by
  intro s
  obtain ⟨gives, hfirst⟩ := h s
  cases hupshot : upshot m s with
  | mk result middle =>
      rw [hupshot] at hfirst
      cases result with
      | ok a =>
          refine ⟨gives, fun signal => ?_⟩
          rw [upshot_tryCatch, upshot_tryCatch, hfirst signal, hupshot]
      | error fault =>
          obtain ⟨more, hnext⟩ := hhandle fault middle
          refine ⟨gives || more, fun signal => ?_⟩
          rw [upshot_tryCatch, upshot_tryCatch, hfirst signal, hupshot]
          dsimp only
          rw [hnext, Option.map_map]
          simp [Function.comp_def, Bool.or_assoc]

/-- Where there is no signal there is none afterwards. -/
theorem unsignalled (h : Deaf withSignal m) {s : σ} (hs : withSignal none s = s) :
    withSignal none (upshot m s).2 = (upshot m s).2 := by
  obtain ⟨gives, hsame⟩ := h s
  have hnone := congrArg Prod.snd (hsame none)
  rw [hs] at hnone
  exact hnone.symm

end Deaf

/-- All plays are deaf, since no play looks for the signal. -/
theorem Writes.deaf {play : Play τ α} (h : Writes (fun _ => True) play) :
    Deaf Stage.withSignal play := by
  induction h with
  | pure a => exact .pure a
  | throw fault => exact .throw fault
  | bind _ _ ih ihnext => exact ih.bind ihnext
  | tryCatch _ _ ih ihhandle => exact ih.tryCatch ihhandle
  | look hsame _ ih => exact .get_bind (fun signal stage => hsame stage signal) ih
  | change _ hsame => exact .modify fun signal stage => hsame stage signal
  | cancel => exact fun _ => ⟨true, fun signal => by simp [Play.cancel, Stage.withSignal]⟩
  | call | err | out => exact .modify fun _ _ => rfl

namespace Running

theorem deaf_onStage {play : Play τ α} (h : Writes (fun _ => True) play) :
    Deaf RunState.withSignal (onStage play) := by
  intro state
  obtain ⟨gives, hsame⟩ := h.deaf state.stage
  refine ⟨gives, fun signal => ?_⟩
  rw [upshot_onStage, upshot_onStage, RunState.withSignal, hsame signal]
  rfl

theorem deaf_play [TimeScale τ] (action : Action) :
    Deaf RunState.withSignal (onStage action.play : Running τ Unit) :=
  deaf_onStage (.play fun _ _ _ => trivial)

theorem deaf_attempt {run : Running τ α} (h : Deaf RunState.withSignal run) :
    Deaf RunState.withSignal (attempt run) := by
  intro state
  obtain ⟨gives, hsame⟩ := h state
  refine ⟨gives, fun signal => ?_⟩
  rw [upshot_attempt, upshot_attempt, hsame signal]

end Running

namespace Production

open Running (onStage deaf_onStage deaf_play deaf_attempt)

variable [TimeScale τ] {production : Production}

theorem deaf_capture (production : Production) :
    Deaf RunState.withSignal (production.capture : Running τ Unit) := by
  rw [capture]
  split
  · exact .pure ()
  · refine (deaf_attempt (deaf_play _)).bind fun result => ?_
    split
    · exact deaf_onStage (.printErr _)
    · split
      · exact deaf_onStage (.printErr _)
      · exact .throw _

theorem deaf_perform (production : Production) (step : Step) :
    Deaf RunState.withSignal (production.perform step : Running τ (Outcome τ)) := by
  have htell (line : Text) :
      Deaf RunState.withSignal (onStage (Play.printErr line) : Running τ Unit) :=
    deaf_onStage (.printErr line)
  have hadd (outcome : Outcome τ) : Deaf RunState.withSignal (Running.addOutcome outcome) :=
    .modify fun _ _ => rfl
  refine (deaf_onStage (.ofExcept _)).bind fun _ => .get_bind (fun _ _ => rfl) fun before => ?_
  refine (deaf_attempt (deaf_play _)).bind fun result => .get_bind (fun _ _ => rfl) fun after => ?_
  dsimp only
  split
  · exact (hadd _).bind fun _ => (htell _).bind fun _ => .pure _
  · split
    · refine (hadd _).bind fun _ => (htell _).bind fun _ => ?_
      exact production.deaf_capture.bind fun _ => .throw _
    · exact .throw _

/-- The signal is given while a record is played that is read when it is not given yet. -/
def gives (production : Production) (reading : Reading τ) : Bool :=
  (upshot (production.playRecord reading.record)
    (reading.state.withSignal (some false))).2.stage.cancelled = some true

/-- The signal is given once some records have been played, and not before: it is given before the
run and there are none, or it is given first while the last of them is played. -/
inductive Signalled (production : Production) : Bool → List (Reading τ) → Prop
  | before : Signalled production true []
  | played {reading readings} (tail : Signalled production (production.gives reading) readings) :
      Signalled production false (reading :: readings)

/-- A record is played alike without a signal and with one that is not given. -/
theorem upshot_playRecord_withSignal (production : Production) {state : RunState τ}
    (hnone : state.stage.cancelled = none) (record : Record) :
    (upshot (production.playRecord record) state).2.stage.cancelled = none ∧
      upshot (production.playRecord record) (state.withSignal (some false)) =
        ((upshot (production.playRecord record) state).1,
          (upshot (production.playRecord record) state).2.withSignal
            (some (production.gives ⟨record, state⟩))) := by
  rw [gives, playRecord]
  cases Step.ofRecord production.vocabulary record with
  | error fault => exact ⟨hnone, rfl⟩
  | ok step =>
      have hdeaf : Deaf RunState.withSignal
          (production.perform step >>= fun _ => pure () : Running τ Unit) :=
        (production.deaf_perform step).bind fun _ => .pure ()
      have hstate : state.withSignal none = state := by
        rw [RunState.withSignal, Stage.withSignal, ← hnone]
      have hkept := congrArg (·.stage.cancelled) (hdeaf.unsignalled hstate)
      obtain ⟨gives, hsame⟩ := hdeaf state
      have hwaiting : (state.withSignal (some false)).stage.cancelled ≠ some true := by
        simp [RunState.withSignal, Stage.withSignal]
      rw [upshot_proceed _ (by simp [hnone]), upshot_proceed _ hwaiting, hsame]
      refine ⟨hkept.symm, ?_⟩
      simp [RunState.withSignal, Stage.withSignal]

/-- A signal that is never given changes nothing. -/
theorem Chronicle.upshot_of_silent {remains : Remains} {state after : RunState τ}
    {readings : List (Reading τ)} {result : Except Fault Unit}
    (h : production.Chronicle remains state readings result after)
    (hnone : state.stage.cancelled = none)
    (hsilent : ∀ reading ∈ readings, production.gives reading = false) :
    upshot (production.followOn remains) (state.withSignal (some false)) =
      (result, after.withSignal (some false)) := by
  induction h with
  | @ends remains state result hnext =>
      have hnext' : production.next (state.withSignal (some false)).stage.disk remains = .ends result :=
        hnext
      rw [upshot_followOn, hnext', upshot_goOn_ends]
  | @stops remains rest record state after fault hnext hplay =>
      have hnext' : production.next (state.withSignal (some false)).stage.disk remains =
        .record record rest := hnext
      obtain ⟨-, hsame⟩ := production.upshot_playRecord_withSignal hnone record
      rw [hplay, hsilent _ List.mem_cons_self] at hsame
      rw [upshot_followOn, hnext', goOn, upshot_bind_of_error hsame]
  | @goesOn remains rest record state middle readings result after hnext hplay _ ih =>
      have hnext' : production.next (state.withSignal (some false)).stage.disk remains =
        .record record rest := hnext
      obtain ⟨hmiddle, hsame⟩ := production.upshot_playRecord_withSignal hnone record
      rw [hplay, hsilent _ List.mem_cons_self] at hsame
      rw [hplay] at hmiddle
      rw [upshot_followOn, hnext', goOn, upshot_bind_of_ok hsame]
      exact ih hmiddle fun reading hreading => hsilent reading (List.mem_cons_of_mem _ hreading)

/-- What a run comes to that looks at a given signal before each step: `rest` are the records that are
read after it has been given in the run without a signal. It stops in front of the next step, and without
one it ends as that run does. -/
structure Heeds (production : Production) (rest : List (Reading τ))
    (plain heeding : Except Fault Unit × RunState τ) : Prop where
  stops : ∀ reading ∈ rest.head?, ∀ step,
    Step.ofRecord production.vocabulary reading.record = .ok step →
      heeding = (.error (.cancelled step), reading.state.withSignal (some true))
  ends : (∀ reading ∈ rest.head?, ∀ step,
    Step.ofRecord production.vocabulary reading.record ≠ .ok step) →
      heeding = (plain.1, plain.2.withSignal (some true))

/-- With the signal given, all that is still done is to read on. -/
theorem Chronicle.heeds_of_given {remains : Remains} {state after : RunState τ}
    {readings : List (Reading τ)} {result : Except Fault Unit}
    (h : production.Chronicle remains state readings result after) :
    production.Heeds readings (result, after)
      (upshot (production.followOn remains) (state.withSignal (some true))) := by
  rw [upshot_followOn]
  change production.Heeds _ _ (upshot (production.goOn (production.next state.stage.disk remains)) _)
  -- A record that makes a step is met in the same way whether or not the run goes on after it.
  have hrecord {record : Record} {rest : Remains} {more : List (Reading τ)}
      (hplay : ∀ fault, Step.ofRecord production.vocabulary record = .error fault →
        (result, after) = (.error (.unbuildable fault), state)) :
      production.Heeds (⟨record, state⟩ :: more) (result, after)
        (upshot (production.goOn (.record record rest)) (state.withSignal (some true))) := by
    rw [goOn]
    refine ⟨fun reading hreading step hstep => ?_, fun hnone => ?_⟩
    · obtain rfl := Option.some.inj hreading
      have hstops : upshot (production.playRecord record) (state.withSignal (some true)) =
          (.error (.cancelled step), state.withSignal (some true)) := by
        rw [playRecord, hstep]
        exact production.upshot_proceed_of_given rfl step
      rw [upshot_bind_of_error hstops]
    · cases hstep : Step.ofRecord production.vocabulary record with
      | ok step => exact absurd hstep (hnone _ rfl step)
      | error fault =>
          have hends : upshot (production.playRecord record) (state.withSignal (some true)) =
              (.error (.unbuildable fault), state.withSignal (some true)) := by
            rw [playRecord, hstep]
            rfl
          rw [upshot_bind_of_error hends, hplay fault hstep]
  cases h with
  | ends hnext =>
      rw [hnext, upshot_goOn_ends]
      exact ⟨by simp, fun _ => rfl⟩
  | stops hnext hplay =>
      rw [hnext]
      refine hrecord fun fault hstep => ?_
      rw [playRecord, hstep] at hplay
      exact hplay.symm
  | goesOn hnext hplay =>
      rw [hnext]
      refine hrecord fun fault hstep => ?_
      rw [playRecord, hstep] at hplay
      cases (Prod.mk.inj hplay).1

/-- Until the signal is given the run does what it does without a signal. -/
theorem Chronicle.heeds {remains : Remains} {state after : RunState τ} {given : Bool}
    {first rest : List (Reading τ)} {result : Except Fault Unit}
    (h : production.Chronicle remains state (first ++ rest) result after)
    (hnone : state.stage.cancelled = none) (hsignal : production.Signalled given first) :
    production.Heeds rest (result, after)
      (upshot (production.followOn remains) (state.withSignal (some given))) := by
  induction hsignal generalizing remains state with
  | before => exact h.heeds_of_given
  | @played reading readings tail ih =>
      have hstage : (state.withSignal (some false)).stage.disk = state.stage.disk := rfl
      rw [List.cons_append] at h
      generalize hreadings : readings ++ rest = more at h
      cases h with
      | @stops _ remaining record _ _ fault hnext hplay =>
          obtain ⟨rfl, rfl⟩ := List.append_eq_nil_iff.mp hreadings
          have hgives : production.gives ⟨record, state⟩ = true := by
            generalize production.gives ⟨record, state⟩ = gives at tail
            cases tail
            rfl
          obtain ⟨-, hsame⟩ := production.upshot_playRecord_withSignal hnone record
          rw [hplay, hgives] at hsame
          rw [upshot_followOn, hstage, hnext, goOn, upshot_bind_of_error hsame]
          exact ⟨by simp, fun _ => rfl⟩
      | @goesOn _ remaining record _ middle _ _ _ hnext hplay htail =>
          obtain ⟨hmiddle, hsame⟩ := production.upshot_playRecord_withSignal hnone record
          rw [hplay] at hmiddle hsame
          rw [upshot_followOn, hstage, hnext, goOn, upshot_bind_of_ok hsame]
          exact ih (hreadings ▸ htail) hmiddle

/-- A run with a signal does what the run without a signal does up to the step that the signal comes in,
and that step is performed to its end. If a record is read after it that makes a step, the run stops in
front of this step, in the state in which the other run reads the record. Otherwise it ends as the other
run does, and so it does if the signal never comes. -/
theorem run_stops_between_steps (hreport : production.reportPath = none) (source : Source)
    (state : RunState τ) (given : Bool) :
    let plain := upshot (production.run source) (state.withSignal none)
    let heeding := upshot (production.run source) (state.withSignal (some given))
    ∃ readings ended,
      production.Chronicle (source.remains state.stage) (state.withSignal none) readings plain.1 ended ∧
      plain.2 = ended.marked ∧
      (∀ first rest, readings = first ++ rest → production.Signalled given first →
        (∀ reading ∈ rest.head?, ∀ step,
          Step.ofRecord production.vocabulary reading.record = .ok step →
            heeding = (.error (.cancelled step), (reading.state.withSignal (some true)).marked)) ∧
        ((∀ reading ∈ rest.head?, ∀ step,
          Step.ofRecord production.vocabulary reading.record ≠ .ok step) →
            heeding = (plain.1, plain.2.withSignal (some true)))) ∧
      (given = false → (∀ reading ∈ readings, production.gives reading = false) →
        heeding = (plain.1, plain.2.withSignal (some false))) := by
  intro plain heeding
  have hrun (signal : Option Bool) : upshot (production.run source) (state.withSignal signal) =
      ((upshot (production.followOn (source.remains state.stage)) (state.withSignal signal)).1,
        (upshot (production.followOn (source.remains state.stage))
          (state.withSignal signal)).2.marked) := by
    rw [upshot_run_of_no_report hreport, upshot_follow, Source.remains_withSignal]
  obtain ⟨readings, hchronicle⟩ :=
    production.exists_chronicle (source.remains state.stage) (state.withSignal none)
  have hplain : plain = _ := hrun none
  have hheeding : heeding = _ := hrun (some given)
  clear_value plain heeding
  subst hplain hheeding
  refine ⟨readings, _, hchronicle, rfl, fun first rest hreadings hsignal => ?_,
    fun hgiven hsilent => ?_⟩
  · subst hreadings
    obtain ⟨hstops, hends⟩ := hchronicle.heeds rfl hsignal
    rw [RunState.withSignal_withSignal] at hstops hends
    refine ⟨fun reading hreading step hstep => ?_, fun hnone => ?_⟩
    · rw [hstops reading hreading step hstep]
    · rw [hends hnone]
      rfl
  · subst hgiven
    have hsame := hchronicle.upshot_of_silent rfl hsilent
    rw [RunState.withSignal_withSignal] at hsame
    rw [hsame]
    rfl

/-- An open page on which a click cancels the run. -/
def cancellingPage : RunState Float :=
  let rule : Rule Float := ⟨.click, none, none, none, none, true, none, none, none⟩
  { closedPage with stage := { closedPage.stage with browser.opened := true, rules := [rule] } }

/-- A step before the click, as it is read on this page. -/
def noopReading : Reading Float := ⟨⟨"noop", []⟩, cancellingPage⟩

/-- The click, as it is read after that step. -/
def clickReading : Reading Float :=
  ⟨⟨"click", [("selector", "#go")]⟩,
    (upshot ((unreported .literal).playRecord noopReading.record) noopReading.state).2⟩

/-- A step after the click, as it is read there. -/
def sleepReading : Reading Float :=
  ⟨⟨"sleep", []⟩,
    (upshot ((unreported .literal).playRecord clickReading.record) clickReading.state).2⟩

/-- The lines that write these steps. -/
def cancelledLines : List Text :=
  ["noop\x7b\x7d", "click\x7bselector:", " \"#go\"\x7d", "sleep\x7b\x7d"]

/-- The click is performed to its end, and the run stops in front of the step after it. -/
theorem run_stops_before_sleep :
    (unreported .literal).reportPath = none ∧
      (unreported .literal).Signalled false [noopReading, clickReading] ∧
      upshot ((unreported .literal).run (.listed cancelledLines none))
          (cancellingPage.withSignal (some false)) =
        (.error (.cancelled ⟨"sleep", ⟨.sleep, "60s"⟩⟩),
          (sleepReading.state.withSignal (some true)).marked) ∧
      sleepReading.state.suite.cases.map (·.className) = (["noop", "click"] : List Text) := by
  have hreport : (unreported .literal).reportPath = none := rfl
  have hnoop : (unreported .literal).gives noopReading = false := by decide +kernel
  have hclick : (unreported .literal).gives clickReading = true := by decide +kernel
  have hsignal : (unreported .literal).Signalled false [noopReading, clickReading] :=
    .played (hnoop ▸ .played (hclick ▸ .before))
  let after := (upshot ((unreported .literal).playRecord sleepReading.record) sleepReading.state).2
  have hended : (unreported .literal).Chronicle (.listed [] none) after [] (.ok ()) after :=
    .ends (by decide +kernel)
  have hslept : (unreported .literal).Chronicle (.listed (cancelledLines.drop 3) none)
      sleepReading.state [sleepReading] (.ok ()) after :=
    .goesOn (by decide +kernel) (Prod.ext (by decide +kernel) rfl) hended
  have hclicked : (unreported .literal).Chronicle (.listed (cancelledLines.drop 1) none)
      clickReading.state [clickReading, sleepReading] (.ok ()) after :=
    .goesOn (by decide +kernel) (Prod.ext (by decide +kernel) rfl) hslept
  have hread : (unreported .literal).Chronicle (.listed cancelledLines none)
      (cancellingPage.withSignal none) [noopReading, clickReading, sleepReading] (.ok ()) after :=
    .goesOn (by decide +kernel) (Prod.ext (by decide +kernel) rfl) hclicked
  obtain ⟨readings, ended, hchronicle, -, hstops, -⟩ :=
    run_stops_between_steps hreport (.listed cancelledLines none) cancellingPage false
  obtain ⟨rfl, -, -⟩ := hchronicle.deterministic hread
  obtain ⟨hstops, -⟩ := hstops [noopReading, clickReading] [sleepReading] rfl hsignal
  exact ⟨hreport, hsignal, hstops sleepReading rfl _ (by decide +kernel), by decide +kernel⟩

end Production

end Playbook
