import Playbook.Proofs.Chronicle
import Playbook.Proofs.FinalReport
import Playbook.Proofs.PlayParts

/-! # The standard output

All that the program tells of itself goes to the error output. On the standard output there is just what
a playbook asks for: for each step that records a text of the page and succeeds, that text on a line of
its own, in the order of the steps. -/

namespace Playbook

variable {τ α : Type}

/-- The text on the standard output that an event is, if it is one. -/
def Event.out? : Event τ → Option Text
  | .out text => some text
  | .call _ | .err _ => none

/-- The texts on the standard output, one for each time that something was put there. -/
def Stage.written (stage : Stage τ) : List Text := stage.trace.filterMap Event.out?

/-- All that is on the standard output. -/
def Stage.output (stage : Stage τ) : Text := Text.join stage.written

theorem Stage.written_noting (stage : Stage τ) (event : Event τ) :
    (stage.noting event).written = stage.written ++ event.out?.toList := by
  cases h : event.out? <;> simp [written, noting, h]

/-- A play is mute if it puts nothing on the standard output. -/
abbrev Mute (play : Play τ α) : Prop := Writes (fun _ => False) play

namespace Mute

variable {play : Play τ α}

theorem keeps (h : Mute play) (texts : List Text) :
    Keeps (fun stage => stage.written = texts) (fun _ => True) play := by
  have hsilent {stage : Stage τ} {event : Event τ} (hevent : event.out? = none)
      (hwritten : stage.written = texts) : (stage.noting event).written = texts := by
    rw [stage.written_noting, hevent, hwritten, Option.toList_none, List.append_nil]
  induction h with
  | pure a => exact keeps_pure a
  | throw fault => exact keeps_throw trivial
  | bind _ _ ih ihnext => exact ih.bind ihnext
  | tryCatch _ _ ih ihhandle => exact ih.tryCatch fun fault _ => ihhandle fault
  | look _ _ ih => exact keeps_get_bind fun stage _ => ih stage
  | change htrace _ =>
      refine keeps_modify fun stage hwritten => ?_
      rw [Stage.written, htrace, ← Stage.written, hwritten]
  | cancel => exact keeps_modify fun _ h => h
  | call | err => exact keeps_modify fun _ => hsilent rfl
  | out h => exact absurd h id

/-- What was written before a mute play is all that was written after it. -/
theorem written (h : Mute play) (stage : Stage τ) : (upshot play stage).2.written = stage.written :=
  (h.keeps stage.written stage rfl).1

end Mute

section Texts

variable [TimeScale τ]

/-- The text that the page returns for an element: what the rule tells that answers when it is asked
for, or else the text that the element has; empty if there is none. -/
def Stage.textFor (stage : Stage τ) (selector : Text) : Text :=
  let told := (Rule.pick (.textContent selector TimeScale.none) stage.rules).bind (·.1.text)
  (told.getD ((stage.texts.lookup selector).getD stage.text)).getD ""

namespace Play

omit [TimeScale τ] in
/-- The texts of elements stay as they are. -/
theorem undisturbed_texts (texts : List (Text × Option Text)) (text : Option Text) :
    Undisturbed (fun stage : Stage τ => stage.texts = texts ∧ stage.text = text) fun _ => True where
  event _ _ _ h := h
  clock _ _ h := h
  cancelled _ h := h
  rules _ _ _ _ _ _ h _ := h
  told _ _ _ _ _ _ _ _ := trivial
  timedOut := trivial

/-- If asking for a text succeeds, it is the text that the page returns. -/
theorem textFor_of_textOf {limit : Option τ} {selector text : Text} {timeout : τ}
    {stage after : Stage τ} (h : upshot (textOf limit selector timeout) stage = (.ok text, after)) :
    text = stage.textFor selector := by
  obtain ⟨answer, middle, hanswer, h⟩ := upshot_bind_eq_ok.mp h
  obtain rfl := Except.ok.inj (Prod.mk.inj h).1
  rw [onPage, upshot_bind_of_ok (upshot_get stage)] at hanswer
  split at hanswer
  · have htexts := (undisturbed_texts stage.texts stage.text).call limit
      (.textContent selector timeout) (fun _ h => h) stage ⟨rfl, rfl⟩
    rw [hanswer] at htexts
    obtain ⟨⟨htexts, htext⟩, -⟩ := htexts
    have hpick : Rule.pick (.textContent selector timeout) stage.rules =
        Rule.pick (.textContent selector TimeScale.none) stage.rules := by
      apply Rule.pick_congr <;> rfl
    rw [answer_of_call hanswer, hpick, Stage.textFor, htexts, htext, Option.bind_map]
    rfl
  · cases (Prod.mk.inj hanswer).1

end Play

namespace Action

variable {action : Action}

/-- The line that an action prints on a stage if it succeeds. Only a record prints one. -/
def line? (action : Action) (stage : Stage τ) : Option Text :=
  match action.deed with
  | .record selector => some (stage.textFor selector ++ "\n")
  | _ => none

theorem mute_play (h : ∀ selector, action.deed ≠ .record selector) :
    Mute (action.play : Play τ Unit) :=
  .play fun selector hdeed => absurd hdeed (h selector)

/-- What an action that ended in some way has added to the standard output. -/
def lines (action : Action) (stage : Stage τ) : Except Fault Unit → List Text
  | .ok () => (action.line? stage).toList
  | .error _ => []

/-- A record prints its text last of all. So it has printed it if it succeeds, and it has printed nothing
if it fails. -/
theorem written_play_record {selector : Text} (hdeed : action.deed = .record selector)
    (stage : Stage τ) :
    (upshot action.play stage).2.written =
      stage.written ++ action.lines stage (upshot action.play stage).1 := by
  have hplay : (action.play : Play τ Unit) = action.playBounded := by
    rw [play, hdeed]
    rfl
  rw [hplay]
  cases hbound : (action.bound : Except Fault τ) with
  | error fault =>
      rw [playBounded, hbound, upshot_bind, Play.upshot_ofExcept]
      simp [lines]
  | ok seconds =>
      rw [upshot_playBounded hbound, hdeed, Deed.act]
      split
      · rw [upshot_bind]
        have hmute := Mute.written
          (.textOf (some (stage.clock + seconds)) selector (TimeScale.milliseconds seconds)) stage
        cases htext : upshot (Play.textOf (some (stage.clock + seconds)) selector
          (TimeScale.milliseconds seconds)) stage with
        | mk result middle =>
            rw [htext] at hmute
            cases result with
            | error fault => simpa [lines] using hmute
            | ok text =>
                obtain rfl := Play.textFor_of_textOf htext
                dsimp only
                rw [Play.upshot_printOut]
                split
                · rw [middle.written_noting, hmute, lines, line?, hdeed]
                  rfl
                · simpa [lines] using hmute
      · simp [lines]

/-- Whatever a page does, an action that succeeds has printed its line and no other has printed any. -/
theorem written_play (action : Action) (stage : Stage τ) :
    (upshot action.play stage).2.written =
      stage.written ++ action.lines stage (upshot action.play stage).1 := by
  by_cases hrecord : ∃ selector, action.deed = .record selector
  · obtain ⟨selector, hdeed⟩ := hrecord
    exact written_play_record hdeed stage
  · have hother : ∀ selector, action.deed ≠ .record selector := fun selector hdeed =>
      hrecord ⟨selector, hdeed⟩
    have hline : action.line? stage = none := by
      rw [line?]
      split
      · rename_i selector hdeed
        exact absurd hdeed (hother selector)
      · rfl
    rw [(mute_play hother).written]
    cases (upshot action.play stage).1 <;> simp [lines, hline]

end Action

end Texts

/-- A run that has come to these outcomes and has put these texts on the standard output. -/
structure RunState.Left (outcomes : List (Outcome τ)) (texts : List Text) (state : RunState τ) :
    Prop where
  cases : state.suite.cases = outcomes
  written : state.stage.written = texts

/-- A pause puts nothing there. -/
theorem RunState.written_paused [TimeScale τ] (state : RunState τ) :
    state.paused.stage.written = state.stage.written :=
  (state.stage.written_noting (Program.pauseLine τ)).trans (List.append_nil _)

section Runs

variable {outcomes : List (Outcome τ)} {texts : List Text}

open Running (onStage attempt)

/-- A mute play on the stage of a run changes neither. -/
theorem RunState.Left.onStage {play : Play τ α} (h : Mute play) :
    Keeps (RunState.Left outcomes texts) (fun _ => True) (onStage play) :=
  Running.keeps_onStage fun _ _ stage hleft =>
    ⟨⟨hleft.cases, (h.keeps texts stage hleft.written).1⟩, fun _ _ => trivial⟩

namespace Production

open RunState (Left)

variable [TimeScale τ] {production : Production}

theorem left_report (production : Production) :
    Keeps (Left outcomes texts) (fun _ => True) (production.report : Running τ Unit) := by
  refine keeps_get_bind fun state _ => ?_
  split
  · exact keeps_pure ()
  · refine Keeps.bind (keeps_modify fun _ hleft => ⟨hleft.cases, hleft.written⟩) fun _ => ?_
    split
    · exact keeps_pure ()
    · exact keeps_throw trivial
    · have hsave (suite : Suite τ) (path : Text) : Mute (suite.save path) :=
        (Writes.writeText _ _).bind fun _ => .pure _
      exact Left.onStage ((hsave _ _).bind fun _ => Writes.printErr _)

theorem left_capture (production : Production) :
    Keeps (Left outcomes texts) (fun _ => True) (production.capture : Running τ Unit) := by
  rw [capture]
  split
  · exact keeps_pure ()
  · have hplay : Mute (production.diagnosticAction.play : Play τ Unit) :=
      Action.mute_play (by simp [diagnosticAction])
    refine Running.keeps_attempt_bind (Left.onStage hplay) fun result _ => ?_
    split
    · exact Left.onStage (Writes.printErr _)
    · split
      · exact Left.onStage (Writes.printErr _)
      · exact keeps_throw trivial

theorem left_succeed (step : Step) (time : τ) (state : RunState τ) :
    (upshot (succeed step time) state).2.Left (state.suite.cases ++ [success step time])
      state.stage.written := by
  rw [succeed, upshot_bind_of_ok (Running.upshot_addOutcome ..)]
  exact ((Keeps.bind (Left.onStage (Writes.printErr _)) fun _ => keeps_pure _)
    { state with suite := state.suite.add (success step time) } ⟨rfl, rfl⟩).1

theorem left_fail (production : Production) (step : Step) (time : τ) (fault : Fault)
    (state : RunState τ) :
    (upshot (production.fail step time fault) state).2.Left
      (state.suite.cases ++ [failure step time fault]) state.stage.written := by
  rw [fail, upshot_bind_of_ok (Running.upshot_addOutcome ..)]
  exact ((Keeps.bind (Left.onStage (Writes.printErr _)) fun _ =>
    production.left_capture.bind fun _ => keeps_throw trivial)
    { state with suite := state.suite.add (failure step time fault) } ⟨rfl, rfl⟩).1

/-- The lines that a step leaves on the standard output, with an outcome if it leaves one. -/
def lines (step : Step) (stage : Stage τ) (outcome : Option (Outcome τ)) : List Text :=
  if outcome.any (·.success) then (step.action.line? stage).toList else []

/-- A step that leaves a success has printed its line. One that leaves a failure, or no outcome, has
printed none. -/
theorem left_perform (production : Production) (step : Step) (before : RunState τ) :
    ∃ outcome : Option (Outcome τ), (upshot (production.perform step) before).2.Left
      (before.suite.cases ++ outcome.toList)
      (before.stage.written ++ lines step before.stage outcome) := by
  rw [upshot_perform]
  cases (step.action.bound : Except Fault τ) with
  | error fault => exact ⟨none, by simp, by simp [lines]⟩
  | ok seconds =>
      have hwritten := step.action.written_play before.stage
      cases hplay : upshot step.action.play before.stage with
      | mk result ended =>
          rw [hplay] at hwritten
          cases result with
          | ok =>
              have hleft := left_succeed step (ended.clock - before.stage.clock)
                { before with stage := ended }
              exact ⟨some _, hleft.cases, hleft.written.trans hwritten⟩
          | error cause =>
              dsimp only
              split
              · have hleft := production.left_fail step (ended.clock - before.stage.clock) cause
                  { before with stage := ended }
                exact ⟨some _, hleft.cases, hleft.written.trans hwritten⟩
              · exact ⟨none, by simp, hwritten⟩

end Production

namespace Reading

variable [TimeScale τ]

/-- The outcome that playing the record of a reading leaves, if it leaves one. -/
def outcome? (production : Production) (reading : Reading τ) : Option (Outcome τ) :=
  (upshot (production.playRecord reading.record) reading.state).2.suite.cases[
    reading.state.suite.cases.length]?

/-- The line that it puts on the standard output: the text that the page returns, if the record makes a
record step and this step leaves a success. -/
def line? (production : Production) (reading : Reading τ) : Option Text :=
  match Step.ofRecord production.vocabulary reading.record with
  | .error _ => none
  | .ok step =>
      if (reading.outcome? production).any (·.success) then step.action.line? reading.state.stage
      else none

/-- A record that is not performed, because it makes no step or the run is cancelled, leaves nothing. -/
theorem left_of_refused {production : Production} {reading : Reading τ} {result : Except Fault Unit}
    (h : upshot (production.playRecord reading.record) reading.state = (result, reading.state)) :
    reading.outcome? production = none ∧ reading.line? production = none := by
  have houtcome : reading.outcome? production = none := by
    rw [outcome?, h]
    simp
  refine ⟨houtcome, ?_⟩
  rw [line?, houtcome]
  split <;> rfl

/-- Playing a record adds its outcome and its line, if there are any, and nothing else. -/
theorem left (production : Production) (reading : Reading τ) :
    (upshot (production.playRecord reading.record) reading.state).2.Left
      (reading.state.suite.cases ++ (reading.outcome? production).toList)
      (reading.state.stage.written ++ (reading.line? production).toList) := by
  have hrefused {result : Except Fault Unit}
      (h : upshot (production.playRecord reading.record) reading.state = (result, reading.state)) :
      (upshot (production.playRecord reading.record) reading.state).2.Left
        (reading.state.suite.cases ++ (reading.outcome? production).toList)
        (reading.state.stage.written ++ (reading.line? production).toList) := by
    obtain ⟨houtcome, hline⟩ := left_of_refused h
    rw [houtcome, hline, h]
    exact ⟨by simp, by simp⟩
  rcases production.playRecord_cases reading.record reading.state with
    ⟨fault, hstops⟩ | ⟨step, hstep, hplay⟩
  · exact hrefused hstops
  · have hperform : (upshot (production.playRecord reading.record) reading.state).2 =
        (upshot (production.perform step) reading.state).2 := by
      rw [hplay, upshot_bind_pure_state]
    obtain ⟨outcome, hleft⟩ := production.left_perform step reading.state
    have houtcome : reading.outcome? production = outcome := by
      rw [outcome?, hperform, hleft.cases]
      cases outcome <;> simp
    rw [line?, hstep, houtcome, hperform]
    refine ⟨hleft.cases, hleft.written.trans ?_⟩
    rw [Production.lines]
    dsimp only
    split <;> rfl

end Reading

variable [TimeScale τ]

/-- A run leaves the outcomes and the lines of its readings, in order, and nothing else. -/
theorem Production.Chronicle.left {production : Production} {remains : Remains}
    {state after : RunState τ} {readings : List (Reading τ)} {result : Except Fault Unit}
    (h : production.Chronicle remains state readings result after) :
    after.Left (state.suite.cases ++ readings.filterMap (·.outcome? production))
      (state.stage.written ++ readings.filterMap (·.line? production)) := by
  simp only [List.filterMap_eq_flatMap_toList]
  induction h with
  | ends => exact ⟨by simp, by simp⟩
  | @stops _ _ record state _ _ _ hplay =>
      have hleft := Reading.left production ⟨record, state⟩
      rw [hplay] at hleft
      exact ⟨by simpa using hleft.cases, by simpa using hleft.written⟩
  | @goesOn _ _ record state _ _ _ _ _ hplay _ ih =>
      have hleft := Reading.left production ⟨record, state⟩
      rw [hplay] at hleft
      refine ⟨ih.cases.trans ?_, ih.written.trans ?_⟩
      · rw [hleft.cases, List.flatMap_cons, List.append_assoc]
      · rw [hleft.written, List.flatMap_cons, List.append_assoc]

namespace Program

open Running (endingWith)
open RunState (Left)

variable {settings : Settings} {input : StandardInput} {state : RunState τ}

/-- The program tells of itself elsewhere when it opens the page and the playbook. -/
theorem left_opening (settings : Settings) (input : StandardInput) :
    Keeps (Left outcomes texts) (fun _ => True) (opening settings input : Running τ Source) := by
  refine (Left.onStage Writes.enter).bind fun _ => ?_
  rw [openPlaybook]
  split
  · exact keeps_pure _
  · refine keeps_get_bind fun state _ => ?_
    split
    · exact keeps_pure _
    · exact keeps_throw trivial

/-- So it does when it reports, pauses and closes the page. -/
theorem left_playOnPage (h : (played settings input state).Left outcomes texts) :
    (upshot (playOnPage settings input) state).2.Left outcomes texts := by
  rw [played, opening, upshot_bind] at h
  rw [playOnPage, upshot_bind]
  cases hupshot : upshot (onStage Play.enter) state with
  | mk result opened =>
      rw [hupshot] at h
      cases result with
      | error fault => exact h
      | ok =>
          dsimp only at h ⊢
          have hopen : (upshot (playOpen settings input) opened).2.Left outcomes texts := by
            rw [playOpen, upshot_bind]
            rcases openPlaybook_cases settings input opened with ⟨reader, hread⟩ | ⟨fault, hrefused⟩
            · rw [hread] at h ⊢
              dsimp only at h ⊢
              rw [Production.run, Running.endingWith_state]
              exact ((production settings).left_report _ h).1
            · rw [hrefused] at h ⊢
              exact h
          have hwatched : (upshot (playWatched settings input) opened).2.Left outcomes texts := by
            rcases playWatched_cases settings input opened with hleft | hpaused
            · rw [hleft]
              exact hopen
            · rw [hpaused]
              exact ⟨hopen.cases, by rw [RunState.written_paused, hopen.written]⟩
          rw [Running.endingWith_state]
          exact (Left.onStage Writes.leave _ hwatched).1

/-- And so it does to its end. -/
theorem left_run (h : (played settings input state).Left outcomes texts) :
    (upshot (run settings input) state).2.Left outcomes texts := by
  have hplayed := left_playOnPage h
  have hstatus : (upshot (status settings input) state).2.Left outcomes texts := by
    rw [status, upshot_bind_of_ok (Running.upshot_attempt ..)]
    cases (upshot (playOnPage settings input) state).1 with
    | ok => exact hplayed
    | error fault =>
        dsimp only
        split
        · exact (((Left.onStage (Writes.printErr _)).bind fun _ => keeps_pure 1) _ hplayed).1
        · exact hplayed
  have hsummary : Keeps (Left outcomes texts) (fun _ => True)
      (Production.printSummary : Running τ Unit) :=
    keeps_get_bind fun state _ => Left.onStage (Writes.printAll _)
  rw [run, Running.endingWith_state]
  exact (((production settings).left_report.bind fun _ => hsummary) _ hstatus).1

/-- What is read of the playbook when the program runs: nothing if the page or the playbook cannot be
opened. -/
def ReadBy (settings : Settings) (input : StandardInput) (state : RunState τ)
    (readings : List (Reading τ)) : Prop :=
  match upshot (opening settings input) state with
  | (.ok source, opened) =>
      ∃ result after,
        (production settings).Chronicle (source.remains opened.stage) opened readings result after
  | (.error _, _) => readings = []

/-- The page and the playbook are opened, and what is read has a chronicle that comes to the state in
which the last step has been performed; or they are refused, and that is the state. -/
theorem exists_readBy (settings : Settings) (input : StandardInput) (state : RunState τ) :
    ∃ readings, ReadBy settings input state readings ∧
      ((∃ source opened result, upshot (opening settings input) state = (.ok source, opened) ∧
          (production settings).Chronicle (source.remains opened.stage) opened readings result
            (played settings input state)) ∨
        ∃ fault, upshot (opening settings input) state = (.error fault, played settings input state) ∧
          readings = []) := by
  unfold ReadBy
  cases hupshot : upshot (opening settings input) state with
  | mk result opened =>
      cases result with
      | error fault =>
          have hplayed : played settings input state = opened := by rw [played, hupshot]
          exact ⟨[], rfl, .inr ⟨fault, by rw [hplayed], rfl⟩⟩
      | ok source =>
          obtain ⟨readings, hreadings⟩ := (production settings).exists_chronicle_follow source opened
          rw [← played_of_opened hupshot] at hreadings
          exact ⟨readings, ⟨_, _, hreadings⟩, .inl ⟨source, opened, _, rfl, hreadings⟩⟩

/-- Whatever the settings, the playbook, the page and the disk are, all that the program leaves on the
standard output is a line for each record step whose outcome is a success: the text that the page
returns for its element. The lines come in the order of the steps. -/
theorem standard_output_carries_records (settings : Settings) (input : StandardInput)
    (rules : List (Rule τ)) (texts : List (Text × Option Text)) (text : Option Text)
    (disk : Disk) (console : Text.ErrorHandler) :
    ∃ readings, ReadBy settings input (start settings rules texts text disk console) readings ∧
      (finalState settings input rules texts text disk console).suite.cases =
        readings.filterMap (·.outcome? (production settings)) ∧
      (finalState settings input rules texts text disk console).stage.output =
        Text.join (readings.filterMap (·.line? (production settings))) := by
  have hstart : (start settings rules texts text disk console).Left [] [] := ⟨rfl, rfl⟩
  have hopening := (left_opening settings input _ hstart).1
  obtain ⟨readings, hread, hplayed⟩ :=
    exists_readBy settings input (start settings rules texts text disk console)
  suffices hleft : (played settings input (start settings rules texts text disk console)).Left
      (readings.filterMap (·.outcome? (production settings)))
      (readings.filterMap (·.line? (production settings))) by
    have hrun := left_run hleft
    exact ⟨readings, hread, hrun.cases, congrArg Text.join hrun.written⟩
  rcases hplayed with ⟨source, opened, result, hopened, hreadings⟩ | ⟨fault, hrefused, rfl⟩
  · have hleft := hreadings.left
    rw [hopened] at hopening
    rw [hopening.cases, hopening.written] at hleft
    exact hleft
  · rw [hrefused] at hopening
    exact hopening

/-- The text of one element is printed. The other element has none that the page returns. -/
example :
    (finalState (settingsOf "-" "report.xml")
        ⟨("record\x7bselector:\"#a\"\x7d\nrecord\x7bselector:\"#b\"\x7d\n" : Text).octets, .file⟩
        [{ refusing .textContent "no" with argument := some "#b" }] [("#a", some "yes")] none
        .empty .strict).stage.output = "yes\n" := by
  decide +kernel

end Program

end Runs

end Playbook
