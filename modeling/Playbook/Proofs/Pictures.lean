import Playbook.Proofs.ExitStatus
import Playbook.Proofs.PlannedCalls
import Playbook.Proofs.ReadThrough
import Playbook.Proofs.ReportOnce

/-! # Pictures of the page

A picture is saved by one call to the browser, the file of the picture being written once the call has
been answered. So the disk changes only if the saving succeeds, and then the file holds the picture that
the page gives. A debug action makes nothing worse: whatever the page does and wherever the file may stand
in the way, its step is a success, and either the picture is saved or a line tells why not. -/

namespace Playbook

variable {τ : Type}

/-- The events of a call: the call itself, and those of a dialog that it opens. -/
def Stage.callEvents (stage : Stage τ) (request : Call τ) : List (Event τ) :=
  .call request :: ((Rule.pick request stage.rules).map (·.1.dialogEvents)).getD []

/-- A file that was written is read under its path. -/
theorem Disk.read?_of_write {disk after : Disk} {path : Text} {content : List UInt8}
    (h : disk.write path content = .ok after) : after.read? path = some content := by
  obtain ⟨location, hlocation, rfl⟩ := canWrite_of_write h
  exact read?_eq_some.mpr ⟨location, locate_put hlocation.way hlocation.free _,
    hlocation.content?_put content⟩

variable [TimeScale τ]

/-- The octets of the picture that the page gives when it is asked for one: the picture that the rule
tells that answers, or else a plain one. -/
def Stage.pictureOctets (stage : Stage τ) : List UInt8 :=
  let told := (Rule.pick (.screenshot TimeScale.none) stage.rules).bind (·.1.picture)
  told.getD Play.plainPicture

namespace Play

/-- Of the events of a rule that is obeyed only those of its dialog are left. -/
theorem trace_obey (limit : Option τ) (rule : Rule τ) (stage : Stage τ) :
    (upshot (obey limit rule) stage).2.trace = stage.trace ++ rule.dialogEvents := by
  obtain ⟨told, -, -, htrace, hobey⟩ := upshot_obey_of_dialog limit rule stage
  have hrest : Keeps (fun after : Stage τ => after.trace = told.trace) (fun _ => True)
      (obey limit { rule with dialog := none }) := by
    rw [obey_eq, pure_bind]
    refine Keeps.bind ?delay fun _ => Keeps.bind ?cancel fun _ => ?fault
    case delay =>
      split
      · exact keeps_pass (fun _ _ h => h) trivial limit _
      · exact keeps_pure ()
    case cancel =>
      split
      · exact keeps_modify fun _ h => h
      · exact keeps_pure ()
    case fault =>
      split
      · exact keeps_throw trivial
      · exact keeps_pure ()
  rw [hobey, ← htrace]
  exact (hrest told rfl).1

/-- A call leaves its events, whatever comes of it. -/
theorem trace_call (limit : Option τ) (request : Call τ) (stage : Stage τ) :
    (upshot (call limit request) stage).2.trace = stage.trace ++ stage.callEvents request := by
  rw [upshot_call, Stage.callEvents]
  cases Rule.pick request stage.rules with
  | none => rfl
  | some found =>
      obtain ⟨rule, rules⟩ := found
      have hobey := trace_obey limit rule { stage.noting (.call request) with rules := rules }
      dsimp only
      rw [upshot_bind]
      cases hupshot : upshot (obey limit rule) { stage.noting (.call request) with rules := rules } with
      | mk result after =>
          rw [hupshot] at hobey
          cases result <;> simpa [Stage.noting] using hobey

/-- Once the page has answered, its picture is written. -/
theorem upshot_savePicture (limit : Option τ) (name : Text) (timeout : τ) (stage : Stage τ) :
    upshot (savePicture limit name timeout) stage =
      match upshot (onPage limit (.screenshot timeout)) stage with
      | (.ok _, shown) => upshot (writeFile (Path.ofText name).text stage.pictureOctets) shown
      | (.error fault, shown) => (.error fault, shown) := by
  rw [savePicture, picture, bind_assoc, upshot_bind]
  cases hanswer : upshot (onPage limit (.screenshot timeout)) stage with
  | mk result shown =>
      cases result with
      | error fault => rfl
      | ok answer =>
          have hcall : upshot (call limit (.screenshot timeout)) stage = (.ok answer, shown) := by
            rw [upshot_onPage] at hanswer
            split at hanswer
            · exact hanswer
            · cases (Prod.mk.inj hanswer).1
          have hpick : Rule.pick (.screenshot timeout) stage.rules =
              Rule.pick (.screenshot TimeScale.none) stage.rules := by
            apply Rule.pick_congr <;> rfl
          dsimp only
          rw [pure_bind, answer_of_call hcall, hpick, Option.bind_map]
          rfl

end Play

/-- How the saving of a picture ends under a limit: the page is not open, the call ends in a fault, the
file is refused, or the file is written. The disk changes in the last case only. -/
inductive Stage.Saves (limit timeout : τ) (path : Text) (before : Stage τ) :
    Except Fault Unit → Stage τ → Prop
  | closed (hclosed : before.browser.opened = false) :
      Saves limit timeout path before (.error .notStarted) before
  | stopped {fault after} (hstops : before.Stops limit (.screenshot timeout) fault)
      (hdisk : after.disk = before.disk)
      (htrace : after.trace = before.trace ++ before.callEvents (.screenshot timeout)) :
      Saves limit timeout path before (.error fault) after
  | refused {fault after} (hwrite : before.disk.write path before.pictureOctets = .error fault)
      (hdisk : after.disk = before.disk)
      (htrace : after.trace = before.trace ++ before.callEvents (.screenshot timeout)) :
      Saves limit timeout path before (.error (.disk fault)) after
  | written {after} (hwrite : before.disk.write path before.pictureOctets = .ok after.disk)
      (htrace : after.trace = before.trace ++ before.callEvents (.screenshot timeout)) :
      Saves limit timeout path before (.ok ()) after

theorem Play.saves_savePicture (limit : τ) (name : Text) (timeout : τ) (before : Stage τ) :
    before.Saves limit timeout (Path.ofText name).text
      (upshot (savePicture (some limit) name timeout) before).1
      (upshot (savePicture (some limit) name timeout) before).2 := by
  have htrace := trace_call (some limit) (.screenshot timeout) before
  have hdisk := disk_call (some limit) (.screenshot timeout) before
  rw [upshot_savePicture, upshot_onPage]
  by_cases hopened : before.browser.opened = true
  case neg =>
    rw [if_neg hopened]
    exact .closed (by simpa using hopened)
  case pos =>
    rw [if_pos hopened]
    cases hcall : upshot (call (some limit) (.screenshot timeout)) before with
    | mk result shown =>
        rw [hcall] at htrace hdisk
        cases result with
        | error fault => exact .stopped (stops_of_call hcall) hdisk htrace
        | ok answer =>
            dsimp only at hdisk htrace ⊢
            rw [upshot_writeFile, hdisk]
            cases hwrite : before.disk.write (Path.ofText name).text before.pictureOctets with
            | ok disk => exact .written hwrite htrace
            | error fault => exact .refused hwrite hdisk htrace

namespace Action

variable {action : Action} {seconds : τ} {before : Stage τ}

/-- How an action ends that saves a picture within a bound: the bound is not positive, or the saving ends
in some way. -/
inductive Pictures (seconds : τ) (path : Text) (before : Stage τ) :
    Except Fault Unit → Stage τ → Prop
  | hasty (hhasty : TimeScale.before TimeScale.none seconds = false) :
      Pictures seconds path before (.error .timedOut) before
  | saves {result after} (hpositive : TimeScale.before TimeScale.none seconds = true)
      (h : before.Saves (before.clock + seconds) (TimeScale.milliseconds seconds) path result after) :
      Pictures seconds path before result after

theorem pictures_playBounded {name : Text} (hdeed : action.deed.picture? = some name)
    (hbound : action.bound = .ok seconds) (before : Stage τ) :
    Pictures seconds (Path.ofText name).text before (upshot action.playBounded before).1
      (upshot action.playBounded before).2 := by
  have hact (limit timeout : τ) :
      action.deed.act limit timeout = Play.savePicture (some limit) name timeout := by
    cases haction : action.deed with
    | screenshot given | debug =>
        rw [haction] at hdeed
        obtain rfl := Option.some.inj hdeed
        rfl
    | _ =>
        rw [haction] at hdeed
        cases hdeed
  rw [upshot_playBounded hbound, hact]
  split
  case isTrue hpositive => exact .saves hpositive (Play.saves_savePicture ..)
  case isFalse hhasty => exact .hasty (by simpa using hhasty)

/-- The events of an action that saves a picture within a bound: there are none if that is not positive.
-/
def shootingEvents (seconds : τ) (stage : Stage τ) : List (Event τ) :=
  if TimeScale.before TimeScale.none seconds then
    stage.callEvents (.screenshot (TimeScale.milliseconds seconds))
  else []

theorem Pictures.trace {path : Text} {result : Except Fault Unit} {after : Stage τ}
    (h : Pictures seconds path before result after) (hopened : before.browser.opened = true) :
    after.trace = before.trace ++ shootingEvents seconds before := by
  rw [shootingEvents]
  cases h with
  | hasty hhasty => rw [if_neg (by simp [hhasty]), List.append_nil]
  | saves hpositive h =>
      rw [if_pos hpositive]
      cases h with
      | closed hclosed => cases hclosed.symm.trans hopened
      | stopped _ _ htrace | refused _ _ htrace | written _ htrace => exact htrace

/-- Only a picture that is saved changes the disk. -/
theorem Pictures.disk {path : Text} {fault : Fault} {after : Stage τ}
    (h : Pictures seconds path before (.error fault) after) : after.disk = before.disk := by
  cases h with
  | hasty => rfl
  | saves _ h =>
      cases h with
      | closed => rfl
      | stopped _ hdisk | refused _ hdisk => exact hdisk

theorem Pictures.write {path : Text} {after : Stage τ}
    (h : Pictures seconds path before (.ok ()) after) :
    before.disk.write path before.pictureOctets = .ok after.disk := by
  cases h with
  | saves _ h =>
      cases h with
      | written hwrite => exact hwrite

/-- Where the page behaves when its picture is taken, and the name of the picture may be that of a file,
all that may come up is what a debug action tolerates. -/
theorem Pictures.tolerated {path : Text} {fault : Fault} {after : Stage τ}
    (h : Pictures seconds path before (.error fault) after) (hopened : before.browser.opened = true)
    (hpolite : ∀ rule ∈ before.rules, rule.call = .screenshot → rule.Polite)
    (hpath : Disk.Names path) : debugTolerates fault = true := by
  cases h with
  | hasty => rfl
  | saves _ h =>
      cases h with
      | closed hclosed => cases hclosed.symm.trans hopened
      | stopped hstops =>
          cases hstops with
          | cutOff => rfl
          | @reported rule _ _ hpick hfault =>
              obtain ⟨hrule, hfits⟩ := Rule.mem_of_pick hpick
              have hcall : rule.call = .screenshot := by
                simp only [Rule.fits, Call.kind?, Bool.and_eq_true, decide_eq_true_eq] at hfits
                exact (Option.some.inj (of_decide_eq_true hfits.1.1)).symm
              rcases hpolite rule hrule hcall fault hfault with hfamily | hfamily <;>
                simp [debugTolerates, hfamily]
      | refused hwrite =>
          have hexpected := Disk.expected_of_write hpath hwrite
          rename_i refusal _ _
          obtain ⟨cause, path⟩ := refusal
          cases cause with
          | nulCharacter | unencodable => cases hexpected
          | missing | notDirectory | isDirectory | nameTooLong => rfl

/-- A picture for debugging is saved without more ado, or a line tells why not and the disk is as it
was. -/
inductive SavesOrTells (before after : Stage τ) : List (Event τ) → Prop
  | saved
      (hwrite : before.disk.write Deed.debugPicture before.pictureOctets = .ok after.disk)
      (hread : after.disk.read? Deed.debugPicture = some before.pictureOctets) :
      SavesOrTells before after []
  | tells {fault : Fault} (hdisk : after.disk = before.disk) :
      SavesOrTells before after [.err ("[debug] Screenshot failed: " ++ fault.message ++ "\n")]

/-- Where the page behaves when its picture is taken, a debug action with a bound ends well. -/
theorem play_of_debug (hdeed : action.deed = .debug) (hbound : action.bound = .ok seconds)
    (hopened : before.browser.opened = true)
    (hpolite : ∀ rule ∈ before.rules, rule.call = .screenshot → rule.Polite) :
    ∃ ended told, upshot action.play before = (.ok (), ended) ∧ SavesOrTells before ended told ∧
      ended.trace = before.trace ++ (shootingEvents seconds before ++ told) := by
  have hname : (Path.ofText Deed.debugPicture).text = Deed.debugPicture := by decide +kernel
  have hplay := upshot_play_of_planned (by rw [hdeed]; rfl) (by rw [hdeed]; simp) before
  have hpictures := pictures_playBounded (by rw [hdeed]; rfl) hbound before
  rw [hname] at hpictures
  cases hbounded : upshot action.playBounded before with
  | mk result ended =>
      rw [hbounded] at hplay hpictures
      have htrace := hpictures.trace hopened
      cases result with
      | ok =>
          have hwrite := hpictures.write
          exact ⟨ended, [], hplay, .saved hwrite (Disk.read?_of_write hwrite), by
            rw [List.append_nil, htrace]⟩
      | error fault =>
          have hnames : Disk.Names Deed.debugPicture :=
            ⟨by decide, _, Text.encode_eq_octets (by decide)⟩
          have htolerated := hpictures.tolerated hopened hpolite hnames
          dsimp only at hplay
          rw [if_pos ⟨hdeed, htolerated⟩] at hplay
          exact ⟨_, _, hplay, .tells hpictures.disk, by
            rw [Stage.noting, htrace, List.append_assoc]⟩

end Action

namespace Production

variable {production : Production} {record : Record} {step : Step} {seconds : τ} {before : RunState τ}

/-- A debug step with a proper bound never fails. On an open page whose screenshots are delayed in any way
or refused with faults of the browser or the system, and whatever is on the disk, it is a success. All
that it leaves are this success and its line, the events of one attempt at a picture at the most, and the
picture or a line that tells of the fault. -/
theorem debug_never_fails (hrecord : Step.ofRecord production.vocabulary record = .ok step)
    (hkind : step.action.kind = .debug) (hbound : step.action.bound = .ok seconds)
    (hopened : before.stage.browser.opened = true)
    (hpolite : ∀ rule ∈ before.stage.rules, rule.call = .screenshot → rule.Polite) :
    ∃ outcome after told, upshot (production.perform step) before = (.ok outcome, after) ∧
      outcome = ⟨record.kind, "debug", after.stage.clock - before.stage.clock, true, "", ""⟩ ∧
      after.suite = before.suite.add outcome ∧ after.reported = before.reported ∧
      Action.SavesOrTells before.stage after.stage told ∧
      after.stage.trace = before.stage.trace ++ (Action.shootingEvents seconds before.stage ++ told) ++
        [.err ("[runner] " ++ timed step outcome.time ++ "\n")] := by
  have hdeed : step.action.deed = .debug := by
    cases hdeed : step.action.deed <;> simp_all [Action.kind, Deed.kind]
  obtain ⟨ended, told, hplay, hends, htrace⟩ := Action.play_of_debug hdeed hbound hopened hpolite
  have hdescribe : step.action.describe = "debug" := by rw [Action.describe, hdeed]
  have htold : success step (ended.clock - before.stage.clock) =
      ⟨record.kind, "debug", ended.clock - before.stage.clock, true, "", ""⟩ := by
    rw [success, Step.name_of_ofRecord hrecord, hdescribe]
  refine ⟨_, succeeded step (ended.clock - before.stage.clock) { before with stage := ended }, told, ?_,
    htold, rfl, rfl, ?_, ?_⟩
  · rw [upshot_perform, hbound, hplay]
    exact upshot_succeed ..
  · cases hends with
    | saved hwrite hread => exact .saved hwrite hread
    | tells hdisk => exact .tells hdisk
  · rw [succeeded, Stage.noting, htrace]
    rfl

/-- A debug action. -/
def longDebug : Action := ⟨.debug, "10s"⟩

/-- An open page that shows a dialog when its picture is taken, on a disk where a directory has the name
of the picture. -/
def blockedStart : RunState Float where
  stage :=
    { browser := { Browser.new true "" with opened := true }
      rules := [⟨.screenshot, none, none, some ("alert", "hello"), some 2, false, none, none, none⟩]
      texts := []
      text := none
      clock := 0
      cancelled := none
      disk := Disk.empty.addDirectory (.ofPath "debug.png")
      console := .strict
      trace := [] }
  suite := .new "p.txt"
  reported := false

/-- The picture cannot be written there, and the step is a success all the same. -/
theorem debug_succeeds_without_picture :
    Step.ofRecord (Program.production Settings.default).vocabulary ⟨"Debug", [("timeout", "10s")]⟩ =
        .ok ⟨"Debug", longDebug⟩ ∧
      longDebug.bound = .ok (Duration.tenSeconds : Float) ∧
      (∀ rule ∈ blockedStart.stage.rules, rule.call = .screenshot → rule.Polite) ∧
      ∃ outcome after told,
        upshot ((Program.production Settings.default).perform ⟨"Debug", longDebug⟩) blockedStart =
          (.ok outcome, after) ∧
        outcome = ⟨"Debug", "debug", 2, true, "", ""⟩ ∧
        Action.SavesOrTells blockedStart.stage after.stage told ∧
        after.stage.trace =
          [.call (.screenshot 10000), .err "[session] Dismissing alert dialog: hello\n", .call .dismiss,
            .err "[debug] Screenshot failed: [Errno 21] Is a directory: 'debug.png'\n",
            .err "[runner] debug 2.000s\n"] := by
  have hrecord : Step.ofRecord (Program.production Settings.default).vocabulary
      ⟨"Debug", [("timeout", "10s")]⟩ = .ok ⟨"Debug", longDebug⟩ := by decide +kernel
  have hbound : longDebug.bound = .ok (Duration.tenSeconds : Float) := by
    rw [Action.bound, longDebug, Duration.parse_tenSeconds]
  have hpolite : ∀ rule ∈ blockedStart.stage.rules, rule.call = .screenshot → rule.Polite := by
    intro rule hrule _ fault hfault
    obtain rfl := List.mem_singleton.mp hrule
    cases hfault
  obtain ⟨outcome, after, told, hperform, houtcome, -, -, hends, -⟩ :=
    debug_never_fails hrecord rfl hbound rfl hpolite
  have hclock : (upshot ((Program.production Settings.default).perform ⟨"Debug", longDebug⟩)
      blockedStart).2.stage.clock - blockedStart.stage.clock = 2 := by decide +kernel
  have htrace : (upshot ((Program.production Settings.default).perform ⟨"Debug", longDebug⟩)
      blockedStart).2.stage.trace =
        [.call (.screenshot 10000), .err "[session] Dismissing alert dialog: hello\n", .call .dismiss,
          .err "[debug] Screenshot failed: [Errno 21] Is a directory: 'debug.png'\n",
          .err "[runner] debug 2.000s\n"] := by decide +kernel
  rw [hperform] at hclock htrace
  exact ⟨hrecord, hbound, hpolite, outcome, after, told, hperform, by rw [houtcome, hclock], hends, htrace⟩

end Production

end Playbook
