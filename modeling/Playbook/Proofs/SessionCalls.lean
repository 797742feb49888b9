import Playbook.Proofs.Housekeeping
import Playbook.Proofs.PlannedCalls
import Playbook.Proofs.StandardOutput

/-! # Calls within a session

The page is called only while it is open. A run calls for its session first, up to a call that fails or
until the page is open. Then come the calls of the steps, in the order of the playbook, behind them at
most one picture of a failure, and last of all the browser is closed and the engine stopped. No step
finds the page closed.

## Implementation notes

The dismissals of dialogs are left out, as they are called on the dialog and not on the page. -/

namespace Playbook

variable {τ : Type}

/-- How a play ends that calls for something in order: it fails after some of the first calls, or it makes
all of them and then the last ones. -/
inductive Stage.Carries {α : Type} (first last : List (Call τ)) (before : Stage τ) :
    Except Fault α → Stage τ → Prop
  | fails {fault after made} (hmade : made <+: first) (hadds : before.Adds made after) :
      Carries first last before (.error fault) after
  | ends {a after} (hadds : before.Adds (first ++ last) after) : Carries first last before (.ok a) after

/-- A play calls in this order, whatever stage it begins on. -/
def CallsFor {α : Type} (first last : List (Call τ)) (play : Play τ α) : Prop :=
  ∀ before : Stage τ, before.Carries first last (upshot play before).1 (upshot play before).2

/-- A part of a run makes no call on the page. -/
def Running.Quiet {α : Type} (run : Running τ α) : Prop :=
  ∀ (stage : Stage τ) calls, Keeps (fun state => stage.Adds calls state.stage) (fun _ => True) run

namespace Running.Quiet

variable {α : Type}

theorem onStage {play : Play τ α} (h : Playbook.Quiet play) : Running.Quiet (Running.onStage play) :=
  fun stage calls => Running.keeps_onStage fun _ _ => h stage calls

theorem adds {run : Running τ α} (h : Running.Quiet run) (state : RunState τ) :
    state.stage.Adds [] (upshot run state).2.stage :=
  (h state.stage [] state (.refl state.stage)).1

theorem printErr (line : Text) : Running.Quiet (Running.onStage (Play.printErr line : Play τ Unit)) :=
  onStage fun stage calls => (Stage.Adds.unaffected stage calls).printErr line

end Running.Quiet

section Plays

variable [TimeScale τ]

namespace CallsFor

variable {α β : Type} {first last : List (Call τ)}

/-- One more call comes first. -/
theorem cons {request : Call τ} (hrequest : (Event.call request).pageCall? = some request)
    {next : Option (Rule τ) → Play τ α} (hnext : ∀ answer, CallsFor first last (next answer)) :
    CallsFor (request :: first) last (Play.call none request >>= next) := by
  intro before
  have hadds := Stage.Adds.call hrequest none before
  rw [upshot_bind]
  cases hcall : upshot (Play.call none request) before with
  | mk result middle =>
      rw [hcall] at hadds
      cases result with
      | error fault => exact .fails (List.prefix_append [request] first) hadds
      | ok answer =>
          have hrest := hnext answer middle
          dsimp only
          cases hnexted : upshot (next answer) middle with
          | mk result after =>
              rw [hnexted] at hrest
              cases hrest with
              | fails hmade hmore =>
                  exact .fails ((List.prefix_cons_inj request).mpr hmade) (hadds.trans hmore)
              | ends hmore => exact .ends (hadds.trans hmore)

omit [TimeScale τ] in
/-- A change that notes nothing may come first. -/
theorem change {g : Stage τ → Stage τ} (htrace : ∀ stage, (g stage).trace = stage.trace)
    {next : Play τ α} (hnext : CallsFor first last next) :
    CallsFor first last (modify g >>= fun _ => next) := by
  intro before
  have hadds : before.Adds [] (g before) := ⟨[], by rw [htrace, List.append_nil], rfl⟩
  have hrest := hnext (g before)
  rw [upshot_bind_of_ok (upshot_modify ..)]
  cases hnexted : upshot next (g before) with
  | mk result after =>
      rw [hnexted] at hrest
      cases hrest with
      | fails hmade hmore => exact .fails hmade (by simpa using hadds.trans hmore)
      | ends hmore => exact .ends (by simpa using hadds.trans hmore)

end CallsFor

namespace Play

/-- The page is opened by four calls, any of which may fail, and then dialogs are listened for. -/
theorem carries_enter (stage : Stage τ) :
    stage.Carries (stage.browser.life.take 4) [.listen] (upshot enter stage).1 (upshot enter stage).2 := by
  have hlisten : CallsFor [] [.listen] (note (.call .listen) : Play τ Unit) := fun before =>
    .ends (.noting before (.call .listen))
  rw [enter, upshot_bind_of_ok (upshot_get stage)]
  suffices h : CallsFor (stage.browser.life.take 4) [.listen] _ from h stage
  refine .cons rfl fun _ => .change ?_ (.cons rfl fun _ => .change ?_ ?_)
  case refine_3 => exact .cons rfl fun _ => .cons rfl fun _ => .change (by exact fun _ => rfl) hlisten
  all_goals exact fun _ => rfl

/-- A browser that was launched is closed once, and then the engine may be stopped once. -/
theorem adds_leave {stage : Stage τ} (h : stage.browser.launched = true) :
    ∃ stops, (stops = [] ∨ stops = [.stop]) ∧ stage.Adds (.close :: stops) (upshot leave stage).2 := by
  have hclose : stage.Adds [.close] (upshot (call none .close) stage).2 := .call rfl none stage
  rw [leave, upshot_bind_of_ok (upshot_get stage)]
  simp only [if_pos h]
  rw [upshot_bind]
  cases hclosed : upshot (call none .close) stage with
  | mk result closed =>
      rw [hclosed] at hclose
      cases result with
      | error fault => exact ⟨[], .inl rfl, hclose⟩
      | ok =>
          dsimp only
          rw [upshot_bind_of_ok (upshot_get closed)]
          split
          case isFalse => exact ⟨[], .inl rfl, hclose⟩
          case isTrue =>
            have hstop : closed.Adds [.stop] (upshot (call none .stop) closed).2 := .call rfl none closed
            refine ⟨[.stop], .inr rfl, ?_⟩
            rw [upshot_bind]
            cases hstopped : upshot (call none .stop) closed with
            | mk result stopped =>
                rw [hstopped] at hstop
                cases result <;> exact hclose.trans hstop

end Play

end Plays

/-- What a deed plans are calls on the open page. -/
theorem Deed.not_housekeeping_of_mem_plan {deed : Deed} {timeout : τ} {request : Call τ}
    (h : request ∈ deed.plan timeout) : request.isHousekeeping = false := by
  cases deed with
  | wait selector =>
      rw [plan] at h
      split at h
      · cases h
      · rcases List.mem_pair.mp h with rfl | rfl <;> rfl
  | idle | noop | sleep => cases h
  | _ =>
      obtain rfl := List.mem_singleton.mp h
      rfl

variable [TimeScale τ]

/-- The calls that the action of a reading makes on the page. -/
inductive Reading.Calls (production : Production) (reading : Reading τ) : List (Call τ) → Prop
  /-- The record is not performed. -/
  | refused {fault}
      (h : upshot (production.playRecord reading.record) reading.state = (.error fault, reading.state)) :
      Calls production reading []
  | played {step made} {seconds : τ}
      (hstep : Step.ofRecord production.vocabulary reading.record = .ok step)
      (hbound : step.action.bound = .ok seconds)
      (h : step.action.CallsPlanned seconds reading.state.stage
        (upshot step.action.play reading.state.stage).1 (upshot step.action.play reading.state.stage).2
        made) : Calls production reading made

theorem Reading.Calls.not_housekeeping {production : Production} {reading : Reading τ}
    {made : List (Call τ)} (h : reading.Calls production made) :
    ∀ request ∈ made, request.isHousekeeping = false := by
  cases h with
  | refused => simp
  | played _ _ h =>
      exact fun request hrequest => Deed.not_housekeeping_of_mem_plan (h.planned.subset hrequest)

/-- Playing the record of a reading makes the calls of its action. Behind them there may be one picture,
if the record leaves a failure. -/
theorem Reading.exists_calls (production : Production) (reading : Reading τ) :
    ∃ made shots, reading.Calls production made ∧
      reading.state.stage.Adds (made ++ shots)
        (upshot (production.playRecord reading.record) reading.state).2.stage ∧
      (shots = [] ∨ shots = [Production.lastCall] ∧
        (upshot (production.playRecord reading.record) reading.state).1 ≠ .ok () ∧
        ∃ outcome ∈ reading.outcome? production, outcome.success = false) := by
  rcases production.playRecord_cases reading.record reading.state with
    ⟨fault, hrefused⟩ | ⟨step, hstep, hplay⟩
  · rw [hrefused]
    exact ⟨[], [], .refused hrefused, .refl _, .inl rfl⟩
  · have hperformed := production.performed step reading.state
    have hstate := congrArg Prod.snd hplay
    rw [upshot_bind_pure_state] at hstate
    cases hbound : (step.action.bound : Except Fault τ) with
    | error fault =>
        have hrefused : upshot (production.playRecord reading.record) reading.state =
            (.error fault, reading.state) := by
          rw [hplay, upshot_bind, Production.upshot_perform, hbound]
        rw [hrefused]
        exact ⟨[], [], .refused hrefused, .refl _, .inl rfl⟩
    | ok seconds =>
        obtain ⟨made, hmade⟩ := Action.play_makes_planned_calls hbound reading.state.stage
        have hcalls : reading.Calls production made := .played hstep hbound hmade
        have hadded := hmade.added
        rw [hstate]
        cases hperform : upshot (production.perform step) reading.state with
        | mk result after =>
            rw [hperform] at hperformed
            cases hperformed with
            | unbounded hunbounded => cases hbound.symm.trans hunbounded
            | done hplayed _ _ hquiet =>
                rw [hplayed] at hadded
                exact ⟨made, [], hcalls, hadded.trans hquiet, .inl rfl⟩
            | broken hplayed =>
                rw [hplayed] at hadded
                exact ⟨made, [], hcalls, by simpa using hadded, .inl rfl⟩
            | @failed cause ended _ _ hfails =>
                have houtcome : reading.outcome? production =
                    some (Production.failure step (ended.clock - reading.state.stage.clock) cause) := by
                  rw [outcome?, hstate, hperform, hfails.suite, Suite.add]
                  exact List.getElem?_concat_length
                rw [hfails.played] at hadded
                rcases hfails.calls with hquiet | hshot
                · exact ⟨made, [], hcalls, hadded.trans hquiet, .inl rfl⟩
                · refine ⟨made, [Production.lastCall], hcalls, hadded.trans hshot,
                    .inr ⟨rfl, ?_, _, houtcome, rfl⟩⟩
                  rw [hplay, upshot_bind, hperform]
                  simp

/-- A run over a source makes the calls of its readings, in order, and behind them at most one picture, if
the last reading leaves a failure. -/
theorem Production.Chronicle.exists_calls {production : Production} {remains : Remains}
    {state after : RunState τ} {readings : List (Reading τ)} {result : Except Fault Unit}
    (h : production.Chronicle remains state readings result after) :
    ∃ calls shots, List.Forall₂ (Reading.Calls production) readings calls ∧
      state.stage.Adds (calls.flatten ++ shots) after.stage ∧
      (shots = [] ∨ shots = [lastCall] ∧ ∃ last ∈ readings.getLast?,
        ∃ outcome ∈ last.outcome? production, outcome.success = false) := by
  induction h with
  | ends => exact ⟨[], [], .nil, .refl _, .inl rfl⟩
  | @stops _ _ record state _ _ _ hplay =>
      obtain ⟨made, shots, hcalls, hadds, hshots⟩ := Reading.exists_calls production ⟨record, state⟩
      rw [hplay] at hadds
      refine ⟨[made], shots, .cons hcalls .nil, by simpa using hadds, hshots.imp_right ?_⟩
      exact fun ⟨hshot, _, hfailure⟩ => ⟨hshot, _, rfl, hfailure⟩
  | @goesOn _ _ record state _ readings _ _ _ hplay _ ih =>
      obtain ⟨made, first, hcalls, hadds, hfirst⟩ := Reading.exists_calls production ⟨record, state⟩
      rw [hplay] at hadds
      obtain rfl : first = [] := hfirst.resolve_right fun h => h.2.1 (by rw [hplay])
      obtain ⟨calls, shots, hrest, hmore, hshots⟩ := ih
      refine ⟨made :: calls, shots, .cons hcalls hrest, by simpa using hadds.trans hmore,
        hshots.imp_right fun ⟨hshot, last, hlast, hfailure⟩ => ⟨hshot, last, ?_, hfailure⟩⟩
      rw [List.getLast?_cons, Option.mem_def.mp hlast]
      rfl

theorem Reading.not_housekeeping_of_calls {production : Production} {readings : List (Reading τ)}
    {calls : List (List (Call τ))} (h : List.Forall₂ (Reading.Calls production) readings calls) :
    ∀ made ∈ calls, ∀ request ∈ made, request.isHousekeeping = false := by
  induction h with
  | nil => simp
  | cons hfirst _ ih => exact List.forall_mem_cons.mpr ⟨hfirst.not_housekeeping, ih⟩

omit [TimeScale τ] in
/-- A page that is open stays open for all that is played on it, and none of that finds it closed, unless
the page says so itself. -/
theorem Stage.ready_steady_of {G : Fault → Prop} (hG : ∀ fault, fault ≠ .notStarted → G fault) :
    Steady (Stage.Ready G : Stage τ → Prop) G where
  toEngaged := Stage.ready_engaged (fun _ h => h) (hG _ (by simp))
  disk _ _ h := ⟨h.told, h.opened⟩
  refused _ := hG _ (by simp)
  mismatch _ _ _ := hG _ (by simp)
  encoding _ := hG _ (by simp)
  duration _ := hG _ (by simp)

theorem Production.keeps_playRecord_ready {production : Production} {G : Fault → Prop}
    (hG : ∀ fault, fault ≠ .notStarted → G fault) (record : Record) :
    Keeps (fun state : RunState τ => state.stage.Ready G) G (production.playRecord record) := by
  have hsteady : Steady (Stage.Ready G : Stage τ → Prop) G := Stage.ready_steady_of hG
  refine keeps_playRecord (fun step => ?_) (fun fault hfamily => hG fault ?_) record
  · exact keeps_perform production (fun _ _ => hsteady.lasting) (fun _ _ => trivial)
      (fun _ h => h) (fun _ _ => hG _ (by simp)) fun _ _ _ h => h
  · rintro rfl
    cases hfamily

namespace Program

open Running (onStage endingWith)

variable {settings : Settings} {input : StandardInput} {state : RunState τ}

/-- Neither the report nor a pause calls anything. -/
theorem adds_playWatched {entered : RunState τ}
    (h : upshot (onStage Play.enter) state = (.ok (), entered)) :
    (played settings input state).stage.Adds [] (upshot (playWatched settings input) entered).2.stage := by
  have hopen : (played settings input state).stage.Adds []
      (upshot (playOpen settings input) entered).2.stage := by
    rw [played, opening, upshot_bind_of_ok h, playOpen, upshot_bind]
    rcases openPlaybook_cases settings input entered with ⟨reader, hread⟩ | ⟨fault, hrefused⟩
    · obtain ⟨result, stage, hreport, hadds⟩ := (production settings).report_cases
        (upshot ((production settings).follow (.read reader)) entered).2
      rw [hread]
      dsimp only
      rw [Production.run, Running.endingWith_state, hreport]
      exact hadds
    · rw [hrefused]
      exact .refl _
  rcases playWatched_cases settings input entered with hleft | hpaused
  · rw [hleft]
    exact hopen
  · rw [hpaused]
    exact hopen.trans ⟨[pauseLine τ], rfl, rfl⟩

/-- What follows when the page has been closed calls nothing. -/
theorem adds_run (settings : Settings) (input : StandardInput) (state : RunState τ) :
    (upshot (playOnPage settings input) state).2.stage.Adds []
      (upshot (run settings input) state).2.stage := by
  have hstatus : (upshot (playOnPage settings input) state).2.stage.Adds []
      (upshot (status settings input) state).2.stage := by
    rw [status, upshot_bind_of_ok (Running.upshot_attempt ..)]
    cases (upshot (playOnPage settings input) state).1 with
    | ok => exact .refl _
    | error fault =>
        dsimp only
        split
        · rw [upshot_bind_pure_state]
          exact (Running.Quiet.printErr _).adds _
        · exact .refl _
  rw [run, Running.endingWith_state, conclude, upshot_bind]
  obtain ⟨result, stage, hreport, hadds⟩ :=
    (production settings).report_cases (upshot (status settings input) state).2
  have hreported := hstatus.trans hadds
  rw [hreport]
  cases result with
  | error fault => exact hreported
  | ok =>
      dsimp only
      rw [Production.printSummary, upshot_bind_of_ok (upshot_get _)]
      have hsummary (lines : List Text) : Running.Quiet (onStage (lines.forM Play.printErr : Play τ Unit)) :=
        .onStage fun stage calls => (Stage.Adds.unaffected stage calls).printAll lines
      exact hreported.trans ((hsummary _).adds _)

/-- On a page that has been opened nothing finds it closed, unless it says so itself. -/
theorem ready_of_opening {G : Fault → Prop} {source : Source} {opened : RunState τ}
    (htells : state.stage.Tells G) (h : upshot (opening settings input) state = (.ok source, opened)) :
    opened.stage.Ready G := by
  obtain ⟨⟨⟩, entered, henter, hsource⟩ := upshot_bind_eq_ok.mp h
  obtain rfl : entered = opened := by
    rcases openPlaybook_cases settings input entered with ⟨reader, hread⟩ | ⟨fault, hrefused⟩
    · exact (Prod.mk.inj (hread.symm.trans hsource)).2
    · cases hrefused.symm.trans hsource
  have hundisturbed : Undisturbed (Stage.Tells G : Stage τ → Prop) fun _ => True :=
    Stage.tells_undisturbed (fun _ _ => trivial) trivial
  have htold := hundisturbed.enter (fun _ _ h => h) (fun _ _ h => h) state.stage htells
  rw [Running.upshot_onStage] at henter
  obtain ⟨hentered, rfl⟩ := Prod.mk.inj henter
  exact ⟨htold.1, Play.opened_of_enter (Prod.ext hentered rfl)⟩

/-- What the page has been called for when a run is over: the calls of its session are those of `browser`,
and between them stand the calls of the steps. -/
inductive Called (browser : Browser) (entered : Except Fault Unit) (readings : List (Reading τ))
    (production : Production) (calls : List (List (Call τ))) : List (Call τ) → Prop
  /-- The page could not be opened. -/
  | unopened {fault made} (hentered : entered = .error fault) (hmade : made <+: browser.life.take 4)
      (hcalls : calls = []) : Called browser entered readings production calls made
  /-- The page was opened, and the browser closed at the end. -/
  | opened {shots stops} (hentered : entered = .ok ())
      (hshots : shots = [] ∨ shots = [Production.lastCall] ∧ ∃ last ∈ readings.getLast?,
        ∃ outcome ∈ last.outcome? production, outcome.success = false)
      (hstops : stops = [] ∨ stops = [.stop]) :
      Called browser entered readings production calls
        (browser.life.take 5 ++ (calls.flatten ++ shots) ++ .close :: stops)

/-- What is read is read on an open page. -/
theorem ReadBy.ready {G : Fault → Prop} {readings : List (Reading τ)}
    (h : ReadBy settings input state readings) (hG : ∀ fault, fault ≠ .notStarted → G fault)
    (htells : state.stage.Tells G) : ∀ reading ∈ readings, reading.state.stage.Ready G := by
  rw [ReadBy] at h
  split at h
  · rename_i source opened hopened
    obtain ⟨result, after, hreadings⟩ := h
    exact hreadings.holds_at_readings (Production.keeps_playRecord_ready hG)
      (ready_of_opening htells hopened)
  · subst h
    simp

/-- The calls of a run between the opening of the page and the closing are those of its readings. -/
theorem exists_calls (settings : Settings) (input : StandardInput) (state : RunState τ) :
    ∃ readings calls shots, ReadBy settings input state readings ∧
      List.Forall₂ (Reading.Calls (production settings)) readings calls ∧
      (upshot (opening settings input) state).2.stage.Adds (calls.flatten ++ shots)
        (played settings input state).stage ∧
      (shots = [] ∨ shots = [Production.lastCall] ∧ ∃ last ∈ readings.getLast?,
        ∃ outcome ∈ last.outcome? (production settings), outcome.success = false) := by
  obtain ⟨readings, hread, ⟨source, opened, result, hopened, hreadings⟩ | ⟨fault, hrefused, rfl⟩⟩ :=
    exists_readBy settings input state
  · obtain ⟨calls, shots, hcalls, hadds, hshots⟩ := hreadings.exists_calls
    exact ⟨readings, calls, shots, hread, hcalls, by rwa [hopened], hshots⟩
  · exact ⟨[], [], [], hread, .nil, by rw [hrefused]; exact .refl _, .inl rfl⟩

/-- Once the page has been opened, the browser is closed after the last step. -/
theorem adds_closing (settings : Settings) (input : StandardInput) {browser : Browser} {entered : RunState τ}
    (hentered : upshot (onStage Play.enter) state = (.ok (), entered))
    (hreached : entered.stage.Reached browser 5) :
    ∃ stops, (stops = [] ∨ stops = [.stop]) ∧
      (played settings input state).stage.Adds (.close :: stops)
        (upshot (playOnPage settings input) state).2.stage := by
  have hplayed : (upshot (playWatched settings input) entered).2.stage.Reached browser 5 :=
    reached_of_playWatched settings input hreached
  obtain ⟨stops, hstops, hleave⟩ := Play.adds_leave hplayed.launched
  rw [← stage_playOnPage settings input hentered] at hleave
  exact ⟨stops, hstops, (adds_playWatched hentered).trans hleave⟩

/-- Opening the playbook calls nothing. -/
theorem stage_opening {entered : RunState τ}
    (hentered : upshot (onStage Play.enter) state = (.ok (), entered)) :
    (upshot (opening settings input) state).2.stage = entered.stage := by
  rw [opening, upshot_bind_of_ok hentered]
  rcases openPlaybook_cases settings input entered with ⟨reader, hread⟩ | ⟨fault, hrefused⟩
  · rw [hread]
  · rw [hrefused]

/-- The calls of a run from its start to the closing of the page, in order. -/
theorem exists_called {browser : Browser} {readings : List (Reading τ)} {calls : List (List (Call τ))}
    {shots : List (Call τ)} (hfresh : state.stage.Holds browser [])
    (hstarted : browser.started = false) (hlaunched : browser.launched = false)
    (hread : ReadBy settings input state readings)
    (hcalls : List.Forall₂ (Reading.Calls (production settings)) readings calls)
    (hadds : (upshot (opening settings input) state).2.stage.Adds (calls.flatten ++ shots)
      (played settings input state).stage)
    (hshots : shots = [] ∨ shots = [Production.lastCall] ∧ ∃ last ∈ readings.getLast?,
      ∃ outcome ∈ last.outcome? (production settings), outcome.success = false) :
    ∃ made, state.stage.Adds made (upshot (playOnPage settings input) state).2.stage ∧
      Called browser (upshot Play.enter state.stage).1 readings (production settings) calls made := by
  have hcarries := Play.carries_enter state.stage
  rw [hfresh.browser] at hcarries
  rcases Play.enter_cases hfresh hstarted hlaunched with
    ⟨fault, failed, n, henter, -⟩ | ⟨after, henter, hreached, -⟩
  · -- Nothing is read, and nothing is called any more.
    rw [henter] at hcarries ⊢
    have hfailed : upshot (onStage Play.enter) state = (.error fault, { state with stage := failed }) := by
      rw [Running.upshot_onStage, henter]
    have hnone : readings = [] := by
      rwa [ReadBy, opening, upshot_bind_of_error hfailed] at hread
    subst hnone
    obtain rfl := List.forall₂_nil_left_iff.mp hcalls
    cases hcarries with
    | fails hmade hentered =>
        have hended : (upshot (playOnPage settings input) state).2.stage = failed := by
          rw [playOnPage, upshot_bind_of_error hfailed]
        exact ⟨_, hended ▸ hentered, .unopened rfl hmade rfl⟩
  · rw [henter] at hcarries ⊢
    have hentered : upshot (onStage Play.enter) state = (.ok (), { state with stage := after }) := by
      rw [Running.upshot_onStage, henter]
    obtain ⟨stops, hstops, hclosed⟩ := adds_closing settings input hentered hreached
    rw [stage_opening hentered] at hadds
    cases hcarries with
    | ends hfirst =>
        have hopening : state.stage.Adds (browser.life.take 5) after := hfirst
        refine ⟨_, hopening.trans (hadds.trans hclosed), ?_⟩
        rw [← List.append_assoc]
        exact .opened rfl hshots hstops

/-- A run calls the page only within its session. Whatever the playbook, the page and the disk are, the
calls for opening the page come first, each at most once; if one of them fails nothing else is called.
Then come the calls of the steps, in order, and at most one picture of a failure, and then the browser
is closed once and the engine stopped at most once. Each step finds the page open. -/
theorem calls_stay_within_session (settings : Settings) (input : StandardInput) (rules : List (Rule τ))
    (texts : List (Text × Option Text)) (text : Option Text) (disk : Disk) :
    let before := start settings rules texts text disk console
    ∃ readings calls, ReadBy settings input before readings ∧
      List.Forall₂ (Reading.Calls (production settings)) readings calls ∧
      Called before.stage.browser (upshot Play.enter before.stage).1 readings (production settings) calls
        (pageCalls (finalState settings input rules texts text disk console).stage.trace) ∧
      (∀ made ∈ calls, ∀ request ∈ made, request.isHousekeeping = false) ∧
      (∀ reading ∈ readings, reading.state.stage.browser.opened = true) ∧
      ((∀ rule ∈ rules, rule.fault ≠ some .notStarted) → ∀ reading ∈ readings,
        (upshot ((production settings).playRecord reading.record) reading.state).1 ≠
          .error .notStarted) := by
  intro before
  obtain ⟨readings, calls, shots, hread, hcalls, hadds, hshots⟩ := exists_calls settings input before
  refine ⟨readings, calls, hread, hcalls, ?order, Reading.not_housekeeping_of_calls hcalls, ?opened,
    ?started⟩
  case order =>
    obtain ⟨made, hmade, hcalled⟩ := exists_called ⟨rfl, rfl⟩ rfl rfl hread hcalls hadds hshots
    obtain ⟨events, htrace, hevents⟩ := hmade.trans (adds_run settings input before)
    have hwhole : pageCalls (finalState settings input rules texts text disk console).stage.trace = made := by
      rw [finalState, htrace, ← List.append_nil made, ← hevents]
      rfl
    rw [hwhole]
    exact hcalled
  case opened =>
    exact fun reading hreading =>
      (hread.ready (fun _ _ => trivial) (fun _ _ _ _ => trivial) reading hreading).opened
  case started =>
    intro hrules reading hreading hresult
    have htells : before.stage.Tells fun fault => fault ≠ .notStarted := by
      rintro rule hrule fault hfault rfl
      exact hrules rule hrule hfault
    have hready : reading.state.stage.Ready fun fault => fault ≠ .notStarted :=
      hread.ready (fun _ h => h) htells reading hreading
    exact (Production.keeps_playRecord_ready (fun _ h => h) reading.record reading.state hready).2 _ hresult
      rfl

end Program

end Playbook
