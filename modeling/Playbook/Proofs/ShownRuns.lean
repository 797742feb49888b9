import Playbook.Proofs.DebugFlag
import Playbook.Proofs.Housekeeping
import Playbook.Proofs.SideBySide
import Playbook.Proofs.StandardOutput

/-! # Runs that show their browser

A run that debugs does what the same run does without: it ends alike, leaves the same outcomes and files,
and makes the same calls and prints the same texts, but it launches a browser that is shown. If the
playbook cannot be opened, or ends in a fault of the playbook or of the system, it tells that it pauses,
and lets the pause go by before it closes the browser. -/

namespace Playbook

variable {τ : Type} [TimeScale τ]

namespace Production

open RunState (Twin)
open Running (alike_onStage alike_look alike_modify unnoticed_twin)

variable {clocks : τ → τ → Prop} {front otherFront : List (Event τ)}

theorem alike_report (production : Production) :
    Alike (Twin clocks front otherFront) (production.report : Running τ Unit) production.report := by
  refine alike_look (fun _ _ _ => rfl) fun state => ?_
  split
  · exact .pure ()
  · refine .bind (alike_modify (fun _ _ => rfl) fun _ => rfl) fun _ => ?_
    split
    · exact .pure ()
    · exact .throw _
    · exact alike_onStage (((Stage.Twin.writeText _ _).bind fun _ => .pure _).bind fun _ =>
        Stage.Twin.printErr _)

theorem alike_printSummary :
    Alike (Twin clocks front otherFront) (printSummary : Running τ Unit) printSummary :=
  alike_look (fun _ _ _ => rfl) fun _ => alike_onStage (Stage.Twin.printAll _)

/-- A playbook is played alike from the same source. -/
theorem alike_run (production : Production) (source : Source) :
    Alike (Twin Eq front otherFront) (production.run source : Running τ Unit)
      (production.run source) := by
  refine Running.alike_endingWith (Alike.bind ?_ fun buffer => ?_) production.alike_report
  · cases source with
    | listed lines fault =>
        refine (unnoticed_twin.takeLines production "" lines).bind fun buffer => ?_
        split
        · exact .throw _
        · exact .pure _
    | read reader =>
        exact alike_look (fun _ _ _ => rfl) fun state => unnoticed_twin.takeRead production _ _ _
  · split
    · exact .pure ()
    · exact .throw _

end Production

/-- Clocks that have moved apart: the same delays were added to each. -/
def Apart (start other clock delayed : τ) : Prop :=
  ∃ delays : List τ, clock = delays.foldl (· + ·) start ∧ delayed = delays.foldl (· + ·) other

theorem Apart.delay {start other clock delayed : τ} (h : Apart start other clock delayed) (delay : τ) :
    Apart start other (clock + delay) (delayed + delay) := by
  obtain ⟨delays, rfl, rfl⟩ := h
  exact ⟨delays ++ [delay], by simp, by simp⟩

namespace Program

open RunState (Twin)
open Running (onStage)

variable {clocks : τ → τ → Prop} {front otherFront : List (Event τ)} {settings : Settings}
  {input : StandardInput} {state other : RunState τ}

/-- The playbook is opened and played alike whether the run debugs or not. -/
theorem alike_playOpen (settings : Settings) (input : StandardInput) :
    Alike (Twin Eq front otherFront) (playOpen settings input : Running τ Unit)
      (playOpen settings.debugging input) := by
  change Alike _ (playOpen settings input) (playOpen settings input)
  refine Alike.bind ?_ fun source => (production settings).alike_run source
  rw [openPlaybook]
  split
  · exact .pure _
  · refine Running.alike_look (fun _ _ _ => rfl) fun state => ?_
    split
    · exact .pure _
    · exact .throw _

theorem alike_conclude (settings : Settings) :
    Alike (Twin clocks front otherFront) (conclude settings : Running τ Unit)
      (conclude settings.debugging) :=
  (production settings).alike_report.bind fun _ => Production.alike_printSummary

/-- Runs that are alike when the page has been closed are alike at their ends. -/
theorem endAlike_run (h : EndAlike (Twin clocks front otherFront) (playOnPage settings input)
      (playOnPage settings.debugging input) state other) :
    EndAlike (Twin clocks front otherFront) (run settings input) (run settings.debugging input)
      state other := by
  refine Running.endAlike_endingWith ?_ (alike_conclude settings)
  refine (Running.endAlike_attempt h).bind fun result => ?_
  split
  · exact .pure 0
  · split
    · exact (Running.alike_printErr _).bind fun _ => .pure 1
    · exact .throw _

/-- Runs that are alike when the playbook has been played are alike at their ends. -/
theorem endAlike_run_of_playWatched {entered shown : RunState τ}
    (hclocks : ∀ (delay : τ) {clock delayed}, clocks clock delayed →
      clocks (clock + delay) (delayed + delay))
    (hentered : upshot (onStage Play.enter) state = (.ok (), entered))
    (hshown : upshot (onStage Play.enter) other = (.ok (), shown))
    (h : EndAlike (Twin clocks front otherFront) (playWatched settings input)
      (playWatched settings.debugging input) entered shown) :
    EndAlike (Twin clocks front otherFront) (run settings input) (run settings.debugging input)
      state other := by
  have hleave : Alike (Twin clocks front otherFront) (onStage Play.leave : Running τ Unit)
      (onStage Play.leave) :=
    Running.alike_onStage (Stage.Twin.leave (Stage.Twin.pass_none hclocks))
  refine endAlike_run ?_
  rw [EndAlike, playOnPage, playOnPage, upshot_bind_of_ok hentered, upshot_bind_of_ok hshown]
  exact Running.endAlike_endingWith h hleave

/-- The page is opened, and then opening or playing the playbook ends in a fault of the playbook or of the
system, which leaves the run in some state. -/
def Breaks (settings : Settings) (input : StandardInput) (state left : RunState τ) : Prop :=
  ∃ entered fault, upshot (onStage Play.enter) state = (.ok (), entered) ∧
    upshot (playOpen settings input) entered = (.error fault, left) ∧
    (fault.family = .playbook ∨ fault.family = .system)

/-- Two runs come to the same: they end alike, with the same outcomes, and leave the same files and the
same on the standard output. -/
structure Agrees (plain debug : Except Fault Nat × RunState τ) : Prop where
  result : debug.1 = plain.1
  suite : debug.2.suite = plain.2.suite
  reported : debug.2.reported = plain.2.reported
  disk : debug.2.stage.disk = plain.2.stage.disk
  output : debug.2.stage.output = plain.2.stage.output

/-- What a run that debugs comes to, next to what the same run comes to that does not. They differ in that
the browser is launched to be shown, and if the playbook breaks the run off, in the pause: it is told of
and lets time pass after all that was noted until then, which is before the browser is closed. -/
structure Echoes (settings : Settings) (input : StandardInput) (state : RunState τ)
    (plain debug : Except Fault Nat × RunState τ) : Prop extends Agrees plain debug where
  unbroken : (∀ left, ¬ Breaks settings input state left) →
    debug.2.stage.trace = plain.2.stage.trace.map Event.shown ∧
      debug.2.stage.clock = plain.2.stage.clock
  broken : ∀ left, Breaks settings input state left → ∃ rest,
    plain.2.stage.trace = left.stage.trace ++ rest ∧
    debug.2.stage.trace = left.stage.trace.map Event.shown ++ pauseLine τ :: rest.map Event.shown ∧
    (∀ event ∈ left.stage.trace, event ≠ .call .close ∧ event ≠ .call .stop) ∧
    Apart left.stage.clock (resume left.stage.clock) plain.2.stage.clock debug.2.stage.clock

omit [TimeScale τ] in
theorem out?_shown : (fun event : Event τ => event.shown.out?) = Event.out? := by
  funext event
  cases event <;> rfl

omit [TimeScale τ] in
/-- Twins agree on all but the trace and the clock. -/
theorem Agrees.of_twin {plain debug : Except Fault Nat × RunState τ} (hresult : debug.1 = plain.1)
    (htwin : Twin clocks front otherFront plain.2 debug.2)
    (hfront : otherFront.filterMap Event.out? = front.filterMap Event.out?) : Agrees plain debug := by
  obtain ⟨_, ⟨clock, events, -, hevents, rfl⟩, hdebug⟩ := htwin
  obtain ⟨ended, after⟩ := debug
  obtain rfl : after = _ := hdebug
  refine ⟨hresult, rfl, rfl, rfl, ?_⟩
  simp [Stage.output, Stage.written, Stage.showing, hevents, hfront, out?_shown]

theorem pausesOn_iff {fault : Fault} :
    pausesOn fault = true ↔ fault.family = .playbook ∨ fault.family = .system := by
  simp [pausesOn]

/-- Where there is no reason for a pause, the playbook is watched alike. -/
theorem endAlike_playWatched (htwin : Twin Eq [] [] state other)
    (hnone : ∀ fault left, upshot (playOpen settings input) state = (.error fault, left) →
      pausesOn fault = false) :
    EndAlike (Twin Eq [] []) (playWatched settings input) (playWatched settings.debugging input)
      state other := by
  obtain ⟨hresult, hleft⟩ := alike_playOpen settings input _ _ htwin
  rw [EndAlike, upshot_playWatched, upshot_playWatched]
  cases hplay : upshot (playOpen settings input) state with
  | mk result left =>
      cases hdebug : upshot (playOpen settings.debugging input) other with
      | mk ended after =>
          rw [hplay, hdebug] at hresult hleft
          obtain rfl : ended = result := hresult
          cases ended with
          | ok => exact ⟨rfl, hleft⟩
          | error fault => simpa [hnone fault left hplay] using hleft

/-- Otherwise the pause sets the traces and the clocks apart. -/
theorem endAlike_playWatched_of_pause (hplain : settings.debug = false)
    (htwin : Twin Eq [] [] state other) {fault : Fault} {left : RunState τ}
    (hpauses : pausesOn fault = true)
    (hplay : upshot (playOpen settings input) state = (.error fault, left)) :
    EndAlike (Twin (Apart left.stage.clock (resume left.stage.clock)) left.stage.trace
        (left.stage.trace.map Event.shown ++ [pauseLine τ]))
      (playWatched settings input) (playWatched settings.debugging input) state other := by
  obtain ⟨hresult, hleft⟩ := alike_playOpen settings input _ _ htwin
  rw [EndAlike, upshot_playWatched, upshot_playWatched]
  cases hdebug : upshot (playOpen settings.debugging input) other with
  | mk ended after =>
      rw [hplay, hdebug] at hresult hleft
      obtain rfl : ended = .error fault := hresult
      obtain ⟨_, ⟨clock, events, rfl, hevents, rfl⟩, hafter⟩ := hleft
      obtain rfl : after = _ := hafter
      obtain rfl : left.stage.trace = events := hevents
      have hdebugging : settings.debugging.debug = true := rfl
      simp only [hplay, hplain, hpauses, hdebugging, Bool.and_false, Bool.and_true, if_true,
        Bool.false_eq_true, if_false, true_and]
      refine ⟨_, ⟨resume left.stage.clock, [], ⟨[], rfl, rfl⟩, by simp, ?_⟩, rfl⟩
      simp [Stage.showing, Stage.noting]

/-- When the playbook breaks a run off, the browser has been opened and has not been closed. -/
theorem Breaks.unclosed {left : RunState τ} (h : Breaks settings input state left)
    (hplain : settings.debug = false) {browser : Browser} (hfresh : state.stage.Holds browser [])
    (hstarted : browser.started = false) (hlaunched : browser.launched = false) :
    ∀ event ∈ left.stage.trace, event ≠ .call .close ∧ event ≠ .call .stop := by
  obtain ⟨entered, fault, henter, hplay, -⟩ := h
  have hreached : left.stage.Reached browser 5 := by
    have hopened : entered.stage.Reached browser 5 := by
      rw [Running.upshot_onStage] at henter
      obtain ⟨hok, rfl⟩ := Prod.mk.inj henter
      rcases Play.enter_cases hfresh hstarted hlaunched with
        ⟨fault, _, _, hfault, -⟩ | ⟨after, hafter, hreached, -⟩
      · rw [hfault] at hok
        cases hok
      · rw [hafter]
        exact hreached
    have hwatched := reached_of_playWatched settings input hopened
    rw [upshot_playWatched, hplay] at hwatched
    simpa [hplain] using hwatched
  have hnone {request : Call τ} (hrequest : request.isHousekeeping = true)
      (hlater : request ∉ browser.life.take 5) : Event.call request ∉ left.stage.trace := by
    intro hmem
    refine hlater (hreached.calls ▸ List.mem_filterMap.mpr ⟨_, hmem, ?_⟩)
    simp [Event.housekeeping?, hrequest]
  intro event hevent
  constructor
  · rintro rfl
    exact hnone rfl (by simp [Browser.life]) hevent
  · rintro rfl
    exact hnone rfl (by simp [Browser.life]) hevent

/-- Without a pause all that differs is how the browser is launched. -/
theorem echoes_of_unbroken (hnone : ∀ left, ¬ Breaks settings input state left)
    (h : EndAlike (Twin Eq [] []) (run settings input) (run settings.debugging input) state other) :
    Echoes settings input state (upshot (run settings input) state)
      (upshot (run settings.debugging input) other) := by
  obtain ⟨hresult, hended⟩ := h
  refine ⟨.of_twin hresult hended rfl, fun _ => ?_, fun left hbreaks => absurd hbreaks (hnone left)⟩
  obtain ⟨_, ⟨clock, events, hclock, hevents, rfl⟩, hother⟩ := hended
  rw [hother]
  exact ⟨by simp [hevents, Stage.showing], hclock.symm⟩

/-- A run breaks off in one way only. -/
theorem Breaks.unique {left after : RunState τ} (h : Breaks settings input state left)
    (hother : Breaks settings input state after) : after = left := by
  obtain ⟨entered, fault, henter, hplay, -⟩ := h
  obtain ⟨shown, broken, hshown, hdebug, -⟩ := hother
  obtain ⟨-, rfl⟩ := Prod.mk.inj (henter.symm.trans hshown)
  exact (Prod.mk.inj (hdebug.symm.trans hplay)).2

/-- With a pause the traces and the clocks are apart from there on. -/
theorem echoes_of_breaks {left : RunState τ} (hbreaks : Breaks settings input state left)
    (hunclosed : ∀ event ∈ left.stage.trace, event ≠ .call .close ∧ event ≠ .call .stop)
    (h : EndAlike (Twin (Apart left.stage.clock (resume left.stage.clock)) left.stage.trace
        (left.stage.trace.map Event.shown ++ [pauseLine τ]))
      (run settings input) (run settings.debugging input) state other) :
    Echoes settings input state (upshot (run settings input) state)
      (upshot (run settings.debugging input) other) := by
  obtain ⟨hresult, hended⟩ := h
  refine ⟨.of_twin hresult hended ?_, fun hnone => absurd hbreaks (hnone left), fun after hafter => ?_⟩
  · have hpause : (pauseLine τ).out? = none := rfl
    simp [hpause, out?_shown]
  · obtain rfl := hbreaks.unique hafter
    obtain ⟨_, ⟨clock, events, hclock, hevents, rfl⟩, hother⟩ := hended
    rw [hother]
    exact ⟨events, hevents, by simp [Stage.showing], hunclosed, hclock⟩

/-- A run that hides its browser is echoed by the one that shows it. -/
theorem echoes_run (hplain : settings.debug = false) (htwin : Twin Eq [] [] state other)
    {browser : Browser} (hfresh : state.stage.Holds browser []) (hstarted : browser.started = false)
    (hlaunched : browser.launched = false) :
    Echoes settings input state (upshot (run settings input) state)
      (upshot (run settings.debugging input) other) := by
  obtain ⟨hresult, hentered⟩ := Running.alike_onStage
    (Stage.Twin.enter (Stage.Twin.pass none)) state other htwin
  cases henter : upshot (onStage Play.enter) state with
  | mk result entered =>
  cases hshown : upshot (onStage Play.enter) other with
  | mk ended shown =>
  rw [henter, hshown] at hresult hentered
  obtain rfl : ended = result := hresult
  cases ended with
  | error fault =>
      refine echoes_of_unbroken ?_ (endAlike_run ?_)
      · rintro left ⟨opened, _, hopened, -⟩
        cases henter.symm.trans hopened
      · rw [EndAlike, playOnPage, playOnPage, upshot_bind_of_error henter, upshot_bind_of_error hshown]
        exact ⟨rfl, hentered⟩
  | ok =>
      by_cases hbroken : ∃ left, Breaks settings input state left
      · obtain ⟨left, hbreaks⟩ := hbroken
        refine echoes_of_breaks hbreaks (hbreaks.unclosed hplain hfresh hstarted hlaunched) ?_
        obtain ⟨opened, fault, hopened, hplay, hfamily⟩ := hbreaks
        obtain ⟨-, rfl⟩ := Prod.mk.inj (henter.symm.trans hopened)
        exact endAlike_run_of_playWatched (fun delay _ _ h => h.delay delay) henter hshown
          (endAlike_playWatched_of_pause hplain hentered (pausesOn_iff.mpr hfamily) hplay)
      · have hnone := not_exists.mp hbroken
        refine echoes_of_unbroken hnone (endAlike_run_of_playWatched (fun _ _ _ h => h ▸ rfl)
          henter hshown (endAlike_playWatched hentered fun fault left hplay => ?_))
        exact Bool.eq_false_iff.mpr fun hpauses =>
          hnone left ⟨entered, fault, henter, hplay, pausesOn_iff.mp hpauses⟩

/-- The flag for debugging changes only what can be seen of the browser and how long it stays open after
a failure. Let no other word and no variable of the environment say to debug, and put the flag wherever
a flag can stand. The line is refused just if it is refused without the flag, and for the same reason.
Otherwise, with any playbook and on any page and disk, the run ends as it does without the flag, leaves
the same outcomes, files and output, and makes the same calls and prints the same texts, but that the
browser is launched to be shown. If the playbook cannot be opened or does not play to its end, for a
fault of the playbook or of the system, one line more tells of the pause, and the clock is moved on by
the pause before the browser is closed. -/
theorem debug_shows_and_pauses {dashes : CommandLine.DashRule} {before words : List Text}
    {environment : Environment}
    (hbefore : CommandLine.Settled before)
    (henvironment : Settings.switch environment "WEBPLAY_DEBUG" Settings.default.debug = false)
    (hwords : ∀ flags, CommandLine.parse dashes (before ++ words) = .ok flags → flags.debug = false) :
    (∀ stop, Program.settings dashes (before ++ words) environment = .error stop →
      Program.settings dashes (before ++ ("--debug" : Text) :: words) environment = .error stop) ∧
    ∀ settings, Program.settings dashes (before ++ words) environment = .ok settings →
      Program.settings dashes (before ++ ("--debug" : Text) :: words) environment =
        .ok settings.debugging ∧
      settings.headless = true ∧
      ∀ (input : StandardInput) (rules : List (Rule τ)) (texts : List (Text × Option Text))
        (text : Option Text) (disk : Disk) (console : Text.ErrorHandler),
        Echoes settings input (start settings rules texts text disk console)
          (upshot (run settings input) (start settings rules texts text disk console))
          (upshot (run settings.debugging input)
            (start settings.debugging rules texts text disk console)) := by
  rw [settings_append_debug hbefore]
  constructor
  · intro stop hstop
    rw [hstop]
    rfl
  · intro settings hsettings
    have hplain := debug_of_settings henvironment hwords hsettings
    refine ⟨by rw [hsettings]; rfl, by simp [Settings.headless, hplain], ?_⟩
    intro input rules texts text disk console
    have htwin : Twin Eq [] [] (start settings rules texts text disk console)
        (start settings.debugging rules texts text disk console) :=
      ⟨_, ⟨_, [], rfl, rfl, rfl⟩, rfl⟩
    exact echoes_run hplain htwin ⟨rfl, rfl⟩ rfl rfl

/-- A command line that names a missing playbook. -/
def missingWords : List Text := ["--in", "missing.txt"]

/-- The settings of its run. -/
def missingSettings : Settings := settingsOf "missing.txt" "report.xml"

/-- The start of such a run, on a page without rules and a disk without files. -/
def missingStart (settings : Settings) : RunState Float := start settings [] [] none .empty .strict

/-- Such a run when its page has been opened. -/
def missingEntered : RunState Float :=
  let state := missingStart missingSettings
  { state with stage :=
    { state.stage with
      browser := ⟨true, "", 1280, 720, true, true, true⟩
      trace := ((Browser.new true "").life.take 5).map Event.call } }

/-- A missing playbook is such a failure: with the flag the browser is shown, and it is closed after the
line that tells of the pause. -/
theorem debug_pauses_without_playbook :
    CommandLine.Settled [] ∧
      Settings.switch [] "WEBPLAY_DEBUG" Settings.default.debug = false ∧
      (∀ flags, CommandLine.parse .keep missingWords = .ok flags → flags.debug = false) ∧
      Program.settings .keep (("--debug" : Text) :: missingWords) [] = .ok missingSettings.debugging ∧
      ∃ rest,
        (upshot (run missingSettings noInput) (missingStart missingSettings)).2.stage.trace =
          ((Browser.new true "").life.take 5).map Event.call ++ rest ∧
        (upshot (run missingSettings.debugging noInput)
          (missingStart missingSettings.debugging)).2.stage.trace =
            ((Browser.new false "").life.take 5).map Event.call ++
              pauseLine Float :: rest.map Event.shown := by
  have hbefore : CommandLine.Settled [] := ⟨by simp, by simp⟩
  have hwords : ∀ flags, CommandLine.parse .keep ([] ++ missingWords) = .ok flags →
      flags.debug = false := by
    intro flags hflags
    obtain rfl := Except.ok.inj hflags
    rfl
  have henter : upshot (onStage Play.enter) (missingStart missingSettings) =
      (.ok (), missingEntered) := rfl
  have hplay : upshot (playOpen missingSettings noInput) missingEntered =
      (.error (.disk ⟨.missing, "missing.txt"⟩), missingEntered) := rfl
  have hbreaks : Breaks missingSettings noInput (missingStart missingSettings) missingEntered :=
    ⟨_, _, henter, hplay, .inr rfl⟩
  have hquiet : Settings.switch [] "WEBPLAY_DEBUG" Settings.default.debug = false := rfl
  have hmade : Program.settings .keep ([] ++ missingWords) [] = .ok missingSettings := by
    decide +kernel
  obtain ⟨-, hruns⟩ := debug_shows_and_pauses (τ := Float) hbefore hquiet hwords
  obtain ⟨hsettings, -, hechoes⟩ := hruns missingSettings hmade
  have hruns : Echoes missingSettings noInput (missingStart missingSettings)
      (upshot (run missingSettings noInput) (missingStart missingSettings))
      (upshot (run missingSettings.debugging noInput) (missingStart missingSettings.debugging)) :=
    hechoes noInput [] [] none .empty .strict
  obtain ⟨rest, hplain, hdebug, -, -⟩ := hruns.broken missingEntered hbreaks
  exact ⟨hbefore, hquiet, hwords, hsettings, rest, hplain, hdebug⟩

end Program

end Playbook
