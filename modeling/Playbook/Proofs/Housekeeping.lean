import Playbook.Proofs.ExitStatus

/-! # Opening and closing the browser

The calls that open and close the browser come in a fixed order: the engine is started, a browser is
launched, a page is opened in it and dialogs are listened for; then the playbook is played, which makes
no such call; at the end the browser is closed and the engine stopped. A fault cuts this short. What
was made before a page could be opened is then never closed, and an engine whose browser could not be
closed is never stopped. In all other cases all that was made is released. -/

namespace Playbook

variable {τ : Type}

/-- The call for opening or closing the browser that an event is, if it is one. -/
def Event.housekeeping? : Event τ → Option (Call τ)
  | .call request => if request.isHousekeeping then some request else none
  | .out _ | .err _ => none

namespace Stage

/-- The calls for opening and closing the browser that were made, in order. -/
def housekeeping (stage : Stage τ) : List (Call τ) := stage.trace.filterMap Event.housekeeping?

/-- All that was made is released: a close follows the launch of a browser that was launched, and a stop
the start of an engine that was started. -/
structure Released (stage : Stage τ) : Prop where
  closed : stage.browser.launched = true →
    ∃ headless proxy, List.Sublist [.launch headless proxy, .close] stage.housekeeping
  stopped : stage.browser.started = true → List.Sublist [.start, .stop] stage.housekeeping

/-- What has been made of the browser, and the calls that were made for it. -/
structure Holds (browser : Browser) (calls : List (Call τ)) (stage : Stage τ) : Prop where
  browser : stage.browser = browser
  calls : stage.housekeeping = calls

theorem Holds.withBrowser {browser : Browser} {calls : List (Call τ)} {stage : Stage τ}
    (h : stage.Holds browser calls) (change : Browser → Browser) :
    { stage with browser := change stage.browser }.Holds (change browser) calls :=
  ⟨congrArg change h.browser, h.calls⟩

theorem housekeeping_noting (stage : Stage τ) (event : Event τ) :
    (stage.noting event).housekeeping = stage.housekeeping ++ event.housekeeping?.toList := by
  cases h : event.housekeeping? <;> simp [housekeeping, noting, List.filterMap_append, h]

/-- Whoever uses the page leaves the browser as it is. -/
theorem holds_steady (browser : Browser) (calls : List (Call τ)) :
    Steady (Holds browser calls) fun _ => True where
  event stage event hevent h := by
    refine ⟨h.browser, ?_⟩
    rw [housekeeping_noting, h.calls]
    cases event with
    | call request =>
        cases request <;>
          simp_all [Event.pageCall?, Event.housekeeping?, Call.isHousekeeping]
    | out | err => simp [Event.housekeeping?]
  clock _ _ h := ⟨h.browser, h.calls⟩
  cancelled _ h := ⟨h.browser, h.calls⟩
  rules _ _ _ _ _ _ h _ := ⟨h.browser, h.calls⟩
  told _ _ _ _ _ _ _ _ := trivial
  timedOut := trivial
  request stage request hrequest h := by
    refine ⟨h.browser, ?_⟩
    rw [housekeeping_noting, h.calls]
    simp [Event.housekeeping?, hrequest]
  closed _ _ _ := trivial
  disk _ _ h := ⟨h.browser, h.calls⟩
  refused _ := trivial
  mismatch _ _ _ := trivial
  encoding _ := trivial
  duration _ := trivial

end Stage

namespace Play

variable [TimeScale τ]

/-- A call for opening or closing the browser is noted as such, whatever comes of it. -/
theorem holds_call {browser : Browser} {calls : List (Call τ)} {stage : Stage τ}
    (h : stage.Holds browser calls) {request : Call τ} (hrequest : request.isHousekeeping = true) :
    (upshot (call none request) stage).2.Holds browser (calls ++ [request]) := by
  have hnoted : (stage.noting (.call request)).Holds browser (calls ++ [request]) := by
    refine ⟨h.browser, ?_⟩
    rw [Stage.housekeeping_noting, h.calls]
    simp [Event.housekeeping?, hrequest]
  rw [call_eq, upshot_bind_of_ok (upshot_note ..)]
  exact ((Stage.holds_steady browser _).answer none request _ hnoted).1

/-- A call for opening or closing the browser fails or lets the play go on. -/
theorem holds_call_cases {browser : Browser} {calls : List (Call τ)} {stage : Stage τ}
    (h : stage.Holds browser calls) (request : Call τ) (hrequest : request.isHousekeeping = true) :
    (∃ fault after, upshot (call none request) stage = (.error fault, after) ∧
        after.Holds browser (calls ++ [request])) ∨
      ∃ rule after, upshot (call none request) stage = (.ok rule, after) ∧
        after.Holds browser (calls ++ [request]) := by
  have hafter := holds_call h hrequest
  cases hupshot : upshot (call none request) stage with
  | mk result after =>
      rw [hupshot] at hafter
      cases result with
      | ok rule => exact .inr ⟨rule, after, rfl, hafter⟩
      | error fault => exact .inl ⟨fault, after, rfl, hafter⟩

end Play

/-- The calls in the life of a browser. -/
def Browser.life (browser : Browser) : List (Call τ) :=
  [.start, .launch browser.headless browser.proxy, .newContext browser.width browser.height,
    .newPage, .listen, .close, .stop]

/-- The first `n` calls in the life of a browser have been made. Its engine counts as started, and it
counts as launched, as soon as the next call is due. -/
structure Stage.Reached (browser : Browser) (n : Nat) (stage : Stage τ) : Prop where
  calls : stage.housekeeping = browser.life.take n
  started : stage.browser.started = decide (1 < n)
  launched : stage.browser.launched = decide (2 < n)

namespace Stage.Reached

variable {browser : Browser} {n : Nat} {stage : Stage τ}

theorem of_holds {after : Stage τ} (h : stage.Reached browser n)
    (hheld : after.Holds stage.browser stage.housekeeping) : after.Reached browser n :=
  ⟨hheld.calls.trans h.calls, hheld.browser ▸ h.started, hheld.browser ▸ h.launched⟩

/-- All that was made is released if nothing but the start was tried or if all calls were made. -/
theorem released_iff (h : stage.Reached browser n) (hn : n ≤ 7) :
    stage.Released ↔ n ≤ 1 ∨ n = 7 := by
  constructor
  · intro hreleased
    refine Decidable.byContradiction fun hbetween => ?_
    have hstarted : stage.browser.started = true := by
      rw [h.started]
      simp
      omega
    have hstop : Call.stop ∈ browser.life.take n :=
      h.calls ▸ (hreleased.stopped hstarted).subset (by simp)
    have hsix : Call.stop ∈ (browser.life : List (Call τ)).take 6 :=
      (List.take_sublist_take_left (by omega)).subset hstop
    simp [Browser.life] at hsix
  · rintro (hfew | rfl)
    · constructor
      case closed =>
        rw [h.launched]
        simp
        omega
      case stopped =>
        rw [h.started]
        simp
        omega
    · constructor
      case closed =>
        refine fun _ => ⟨browser.headless, browser.proxy, ?_⟩
        rw [h.calls]
        simp [Browser.life]
      case stopped =>
        rw [h.calls]
        simp [Browser.life]

end Stage.Reached

namespace Play

variable [TimeScale τ]

/-- Opening the page makes the first calls one by one, until one fails or all five are made. -/
theorem enter_cases {browser : Browser} {stage : Stage τ} (h : stage.Holds browser [])
    (hstarted : browser.started = false) (hlaunched : browser.launched = false) :
    (∃ fault after n, upshot enter stage = (.error fault, after) ∧ after.Reached browser n ∧
        1 ≤ n ∧ n ≤ 4 ∧ (n = 1 ↔ ∃ fault, (upshot (call none .start) stage).1 = .error fault)) ∨
      ∃ after, upshot enter stage = (.ok (), after) ∧ after.Reached browser 5 ∧
        ∀ fault, (upshot (call none .start) stage).1 ≠ .error fault := by
  rw [enter, upshot_bind_of_ok (upshot_get stage), h.browser]
  have hreached {n : Nat} {held : Browser} {after : Stage τ}
      (hheld : after.Holds held (browser.life.take n)) (hs : held.started = decide (1 < n))
      (hl : held.launched = decide (2 < n)) : after.Reached browser n :=
    ⟨hheld.calls, hheld.browser ▸ hs, hheld.browser ▸ hl⟩
  rcases holds_call_cases h .start rfl with
    ⟨fault, one, hone, hheld⟩ | ⟨rule, one, hone, hheld⟩
  · exact .inl ⟨fault, one, 1, upshot_bind_of_error hone, hreached hheld hstarted hlaunched,
      by simp [hone]⟩
  replace hheld := hheld.withBrowser fun browser => { browser with started := true }
  rw [upshot_bind_of_ok hone, upshot_bind_of_ok (upshot_modify ..)]
  rcases holds_call_cases hheld (.launch browser.headless browser.proxy) rfl with
    ⟨fault, two, htwo, hheld⟩ | ⟨_, two, htwo, hheld⟩
  · exact .inl ⟨fault, two, 2, upshot_bind_of_error htwo, hreached hheld rfl hlaunched,
      by simp [hone]⟩
  replace hheld := hheld.withBrowser fun browser => { browser with launched := true }
  rw [upshot_bind_of_ok htwo, upshot_bind_of_ok (upshot_modify ..)]
  rcases holds_call_cases hheld (.newContext browser.width browser.height) rfl with
    ⟨fault, three, hthree, hheld⟩ | ⟨_, three, hthree, hheld⟩
  · exact .inl ⟨fault, three, 3, upshot_bind_of_error hthree, hreached hheld rfl rfl, by simp [hone]⟩
  rw [upshot_bind_of_ok hthree]
  rcases holds_call_cases hheld .newPage rfl with
    ⟨fault, four, hfour, hheld⟩ | ⟨_, four, hfour, hheld⟩
  · exact .inl ⟨fault, four, 4, upshot_bind_of_error hfour, hreached hheld rfl rfl, by simp [hone]⟩
  replace hheld := hheld.withBrowser fun browser => { browser with opened := true }
  rw [upshot_bind_of_ok hfour, upshot_bind_of_ok (upshot_modify ..)]
  refine .inr ⟨_, upshot_note .., hreached ⟨hheld.browser, ?_⟩ rfl rfl, by simp [hone]⟩
  rw [Stage.housekeeping_noting, hheld.calls]
  rfl

/-- Closing the page closes the browser and, if that succeeds, stops the engine. -/
theorem leave_cases {browser : Browser} {stage : Stage τ} (h : stage.Reached browser 5) :
    (∃ fault, (upshot (call none .close) stage).1 = .error fault ∧
        (upshot leave stage).2.Reached browser 6) ∨
      ∃ rule, (upshot (call none .close) stage).1 = .ok rule ∧
        (upshot leave stage).2.Reached browser 7 := by
  have hheld : stage.Holds stage.browser (browser.life.take 5) := ⟨rfl, h.calls⟩
  have hlaunched : stage.browser.launched = true := h.launched
  rw [leave, upshot_bind_of_ok (upshot_get stage)]
  simp only [if_pos hlaunched]
  rcases holds_call_cases hheld .close rfl with
    ⟨fault, closed, hclosed, hheld⟩ | ⟨rule, closed, hclosed, hheld⟩
  · refine .inl ⟨fault, by rw [hclosed], ?_⟩
    rw [upshot_bind_of_error hclosed]
    exact ⟨hheld.calls, hheld.browser ▸ h.started, hheld.browser ▸ h.launched⟩
  · refine .inr ⟨rule, by rw [hclosed], ?_⟩
    have hstarted : closed.browser.started = true := hheld.browser ▸ h.started
    have hstopped := holds_call hheld (show Call.stop.isHousekeeping = true from rfl)
    rw [upshot_bind_of_ok hclosed, upshot_bind_of_ok (upshot_get closed), if_pos hstarted,
      upshot_bind]
    cases hstop : upshot (call none .stop) closed with
    | mk result stopped =>
        rw [hstop] at hstopped
        cases result <;>
          exact ⟨hstopped.calls, hstopped.browser ▸ h.started, hstopped.browser ▸ h.launched⟩

end Play

namespace Program

open Running (onStage endingWith)

variable [TimeScale τ]

/-- What has been made of the browser and the calls that were made for it stay as they are while a
playbook is played. -/
theorem invariant_holds (production : Production) (browser : Browser) (calls : List (Call τ)) :
    production.Invariant (fun state : RunState τ => state.stage.Holds browser calls) (fun _ => True)
      fun _ => True where
  steady _ _ := Stage.holds_steady browser calls
  cause _ h := h
  playbook _ _ := trivial
  malformed _ := trivial
  outcome _ _ _ _ _ h := h
  reported _ h := h
  noPath := trivial

variable {settings : Settings} {input : StandardInput} {state : RunState τ}

/-- Once the page has been closed no more such calls are made. -/
theorem reached_of_playOnPage {browser : Browser} {n : Nat}
    (h : (upshot (playOnPage settings input) state).2.stage.Reached browser n) :
    (upshot (run settings input) state).2.stage.Reached browser n :=
  h.of_holds (invariant_of_playOnPage (invariant_holds (production settings) _ _) ⟨rfl, rfl⟩)

/-- Playing the playbook leaves the browser as it is. -/
theorem reached_of_playWatched (settings : Settings) (input : StandardInput) {browser : Browser} {n : Nat}
    (h : state.stage.Reached browser n) :
    (upshot (playWatched settings input) state).2.stage.Reached browser n :=
  h.of_holds ((keeps_playWatched (invariant_holds (production settings) _ _) input) state ⟨rfl, rfl⟩).1

/-- When the page has been opened, it is closed after the playbook was played. -/
theorem stage_playOnPage (settings : Settings) (input : StandardInput) {entered : RunState τ}
    (h : upshot (onStage Play.enter) state = (.ok (), entered)) :
    (upshot (playOnPage settings input) state).2.stage =
      (upshot Play.leave (upshot (playWatched settings input) entered).2.stage).2 := by
  rw [playOnPage, upshot_bind_of_ok h, Running.endingWith_state, Running.upshot_onStage]

/-- The calls in the life of the browser that a run makes: those for opening the page up to one that
fails, or else also the close and, if that succeeds, the stop. -/
theorem run_reaches (settings : Settings) (input : StandardInput) {browser : Browser}
    (h : state.stage.Holds browser []) (hstarted : browser.started = false)
    (hlaunched : browser.launched = false) :
    (∃ fault after n, upshot (onStage Play.enter) state = (.error fault, after) ∧
        (upshot (run settings input) state).2.stage.Reached browser n ∧ 1 ≤ n ∧ n ≤ 4 ∧
        (n = 1 ↔ ∃ fault, (upshot (Play.call none .start) state.stage).1 = .error fault)) ∨
      ∃ opened n, upshot (onStage Play.enter) state = (.ok (), opened) ∧
        (upshot (run settings input) state).2.stage.Reached browser n ∧ 6 ≤ n ∧ n ≤ 7 ∧
        (∀ fault, (upshot (Play.call none .start) state.stage).1 ≠ .error fault) ∧
        (n = 7 ↔ ∃ rule, (upshot (onStage (Play.call none .close))
          (upshot (playWatched settings input) opened).2).1 = .ok rule) := by
  rcases Play.enter_cases h hstarted hlaunched with
    ⟨fault, after, n, henter, hreached, hfirst, hlast, hstart⟩ | ⟨after, henter, hreached, hstart⟩
  · have hentered : upshot (onStage Play.enter) state =
        (.error fault, { state with stage := after }) := by
      rw [Running.upshot_onStage, henter]
    refine .inl ⟨fault, _, n, hentered, reached_of_playOnPage ?_, hfirst, hlast, hstart⟩
    rw [playOnPage, upshot_bind_of_error hentered]
    exact hreached
  · have hentered : upshot (onStage Play.enter) state = (.ok (), { state with stage := after }) := by
      rw [Running.upshot_onStage, henter]
    have hplayed : (upshot (playWatched settings input)
        { state with stage := after }).2.stage.Reached browser 5 :=
      reached_of_playWatched settings input hreached
    have hleft := stage_playOnPage settings input hentered
    right
    rcases Play.leave_cases hplayed with ⟨fault, hclose, hends⟩ | ⟨rule, hclose, hends⟩
    · refine ⟨_, 6, hentered, reached_of_playOnPage (hleft ▸ hends), by omega, by omega, hstart, ?_⟩
      simp [Running.upshot_onStage, hclose]
    · refine ⟨_, 7, hentered, reached_of_playOnPage (hleft ▸ hends), by omega, by omega, hstart, ?_⟩
      simp [Running.upshot_onStage, hclose]

/-- A run makes the calls in the life of its browser in order and each at most once. All that was made
is released if and only if the engine could not be started, or the page could be opened and then the
browser closed. -/
theorem run_releases_iff (settings : Settings) (input : StandardInput) (rules : List (Rule τ))
    (texts : List (Text × Option Text)) (text : Option Text) (disk : Disk)
    (console : Text.ErrorHandler) :
    let before := start settings rules texts text disk console
    (upshot (run settings input) before).2.stage.housekeeping <+: before.stage.browser.life ∧
    ((upshot (run settings input) before).2.stage.Released ↔
      (∃ fault, (upshot (Play.call none .start) before.stage).1 = .error fault) ∨
      ∃ opened rule, upshot (onStage Play.enter) before = (.ok (), opened) ∧
        (upshot (onStage (Play.call none .close))
          (upshot (playWatched settings input) opened).2).1 = .ok rule) := by
  intro before
  have hbefore : before.stage.Holds before.stage.browser [] := ⟨rfl, rfl⟩
  rcases run_reaches settings input hbefore rfl rfl with
    ⟨fault, after, n, henter, hreached, hfirst, hlast, hstart⟩ |
    ⟨opened, n, henter, hreached, hfirst, hlast, hstart, hclose⟩
  · refine ⟨hreached.calls ▸ List.take_prefix n _, ?_⟩
    rw [hreached.released_iff (by omega), ← hstart]
    constructor
    · omega
    · rintro (hone | ⟨opened, rule, hopened, -⟩)
      · omega
      · cases henter.symm.trans hopened
  · refine ⟨hreached.calls ▸ List.take_prefix n _, ?_⟩
    rw [hreached.released_iff hlast]
    constructor
    · intro hall
      obtain ⟨rule, hclosed⟩ := hclose.mp (by omega)
      exact .inr ⟨opened, rule, henter, hclosed⟩
    · rintro (⟨fault, hfault⟩ | ⟨other, rule, hopened, hclosed⟩)
      · exact absurd hfault (hstart fault)
      · obtain ⟨-, rfl⟩ := Prod.mk.inj (henter.symm.trans hopened)
        exact .inr (hclose.mpr ⟨rule, hclosed⟩)

/-- The start of a run with a browser in which no page can be opened. -/
def pagelessStart : RunState Float :=
  start (settingsOf "p.txt" "report.xml") [refusing .newPage "no page"] [] none .empty .strict

/-- When no page can be opened in the browser, the browser is not closed and its engine not stopped. -/
theorem unreleased_without_page :
    Program.settings .keep ["--in", "p.txt"] [] = .ok (settingsOf "p.txt" "report.xml") ∧
      (upshot (run (settingsOf "p.txt" "report.xml") noInput) pagelessStart).2.stage.housekeeping =
        [.start, .launch true "", .newContext 1280 720, .newPage] ∧
      (upshot (run (settingsOf "p.txt" "report.xml") noInput) pagelessStart).2.stage.browser.launched =
        true ∧
      ¬ (upshot (run (settingsOf "p.txt" "report.xml") noInput) pagelessStart).2.stage.Released := by
  have hplayed : (upshot (playOnPage (settingsOf "p.txt" "report.xml") noInput)
      pagelessStart).2.stage.Reached
      pagelessStart.stage.browser 4 := ⟨by decide +kernel, rfl, rfl⟩
  have hreached := reached_of_playOnPage hplayed
  refine ⟨rfl, hreached.calls, hreached.launched, ?_⟩
  rw [hreached.released_iff (by omega)]
  omega

end Program

end Playbook
