import Playbook.Proofs.Plays

/-! # What plays are made of

Plays are put together of values and faults, of lookups and changes of the stage and of events that are
noted. A cancellation is noted on the stage as well, but no play looks there. So what passes from these
parts to the whole holds of all plays, by induction on how they are made. -/

namespace Playbook

variable {τ : Type}

/-- A play that is made of such parts. All that it may put on the standard output are certain texts. -/
inductive Writes (out : Text → Prop) : {α : Type} → Play τ α → Prop
  | pure {α} (a : α) : Writes out (pure a)
  | throw {α} (fault : Fault) : Writes out (throw fault : Play τ α)
  | bind {α β} {play : Play τ α} {next : α → Play τ β} (h : Writes out play)
      (hnext : ∀ a, Writes out (next a)) : Writes out (play >>= next)
  | tryCatch {α} {play : Play τ α} {handle : Fault → Play τ α} (h : Writes out play)
      (hhandle : ∀ fault, Writes out (handle fault)) : Writes out (tryCatch play handle)
  /-- Something is looked up, which is not whether the run is cancelled. -/
  | look {α} {next : Stage τ → Play τ α}
      (hsame : ∀ stage cancelled, next { stage with cancelled := cancelled } = next stage)
      (hnext : ∀ stage, Writes out (next stage)) : Writes out (get >>= next)
  /-- Something is changed, which is neither that nor the trace. -/
  | change {g : Stage τ → Stage τ} (htrace : ∀ stage, (g stage).trace = stage.trace)
      (hsame : ∀ stage cancelled, g { stage with cancelled := cancelled } =
        { g stage with cancelled := cancelled }) : Writes out (modify g)
  | cancel : Writes out Play.cancel
  | call (request : Call τ) : Writes out (Play.note (.call request))
  | err (text : Text) : Writes out (Play.note (.err text))
  | out {text : Text} (h : out text) : Writes out (Play.note (.out text))

namespace Writes

variable {α : Type} {out : Text → Prop}

theorem printOut {line : Text} (h : out (line ++ "\n")) :
    Writes out (Play.printOut line : Play τ Unit) := by
  refine .look (fun _ _ => rfl) fun stage => ?_
  split
  · exact .out h
  · exact .throw _

theorem printErr (line : Text) : Writes out (Play.printErr line : Play τ Unit) := .err _

theorem printAll (lines : List Text) : Writes out (lines.forM Play.printErr : Play τ Unit) := by
  induction lines with
  | nil => exact .pure ()
  | cons line lines ih => exact (printErr line).bind fun _ => ih

theorem ofExcept (result : Except Fault α) : Writes out (Play.ofExcept result : Play τ α) := by
  cases result with
  | ok a => exact .pure a
  | error fault => exact .throw fault

theorem writeFile (path : Text) (content : List UInt8) :
    Writes out (Play.writeFile path content : Play τ Unit) := by
  refine .look (fun _ _ => rfl) fun stage => ?_
  split
  · exact .change (fun _ => rfl) fun _ _ => rfl
  · exact .throw _

theorem writeText (path text : Text) : Writes out (Play.writeText path text : Play τ Unit) := by
  rw [Play.writeText]
  split
  · exact writeFile path _
  · exact (writeFile path []).bind fun _ => .throw _

variable [TimeScale τ]

theorem pass (limit : Option τ) (delay : τ) : Writes out (Play.pass limit delay) := by
  rw [Play.pass]
  split
  · refine .look (fun _ _ => rfl) fun stage => ?_
    cases limit with
    | none => exact .change (fun _ => rfl) fun _ _ => rfl
    | some limit =>
        dsimp only
        split
        · exact .change (fun _ => rfl) fun _ _ => rfl
        · exact .bind (.change (fun _ => rfl) fun _ _ => rfl) fun _ => .throw _
  · exact .pure ()

/-- Whatever a rule makes happen, nothing comes on the standard output. -/
theorem obey (limit : Option τ) (rule : Rule τ) : Writes out (Play.obey limit rule) := by
  rw [Play.obey_eq]
  refine .bind ?dialog fun _ => .bind ?delay fun _ => .bind ?cancel fun _ => ?fault
  case dialog =>
    split
    · exact (printErr _).bind fun _ => .call .dismiss
    · exact .pure ()
  case delay =>
    split
    · exact pass limit _
    · exact .pure ()
  case cancel =>
    split
    · exact .cancel
    · exact .pure ()
  case fault =>
    split
    · exact .throw _
    · exact .pure ()

theorem browserCall (limit : Option τ) (request : Call τ) : Writes out (Play.call limit request) := by
  refine .bind (.call request) fun _ => .look (fun _ _ => rfl) fun stage => ?_
  split
  · exact .pure _
  · refine .bind (.change (fun _ => rfl) fun _ _ => rfl) fun _ => ?_
    exact (obey limit _).bind fun _ => .pure _

theorem onPage (limit : Option τ) (request : Call τ) : Writes out (Play.onPage limit request) := by
  refine .look (fun _ _ => rfl) fun stage => ?_
  split
  · exact browserCall limit request
  · exact .throw _

theorem textOf (limit : Option τ) (selector : Text) (timeout : τ) :
    Writes out (Play.textOf limit selector timeout) :=
  (onPage limit _).bind fun _ => .look (fun _ _ => rfl) fun _ => .pure _

theorem savePicture (limit : Option τ) (name : Text) (timeout : τ) :
    Writes out (Play.savePicture limit name timeout) :=
  ((onPage limit _).bind fun _ => .pure _).bind fun _ => writeFile _ _

theorem enter : Writes out (Play.enter : Play τ Unit) := by
  refine .look (fun _ _ => rfl) fun stage => (browserCall none _).bind fun _ => ?_
  refine .bind (.change (fun _ => rfl) fun _ _ => rfl) fun _ => (browserCall none _).bind fun _ => ?_
  refine .bind (.change (fun _ => rfl) fun _ _ => rfl) fun _ => ?_
  refine (browserCall none _).bind fun _ => (browserCall none _).bind fun _ => ?_
  exact .bind (.change (fun _ => rfl) fun _ _ => rfl) fun _ => .call .listen

theorem leave : Writes out (Play.leave : Play τ Unit) := by
  have hstop : Writes out (do
      if (← get).browser.started then
        let _ ← Play.call none .stop : Play τ Unit) := by
    refine .look (fun _ _ => rfl) fun stage => ?_
    split
    · exact (browserCall none _).bind fun _ => .pure _
    · exact .pure ()
  refine .look (fun _ _ => rfl) fun stage => ?_
  split
  · exact (browserCall none _).bind fun _ => hstop
  · exact hstop

/-- Only a record puts something on the standard output itself. -/
theorem act {deed : Deed} (h : ∀ selector, deed = .record selector → ∀ line, out (line ++ "\n"))
    (limit timeout : τ) : Writes out (deed.act limit timeout) := by
  cases deed with
  | idle | noop | sleep => exact .pure ()
  | load | click | type | submit | value | scroll => exact (onPage _ _).bind fun _ => .pure _
  | wait => exact (onPage _ _).bind fun _ => (onPage _ _).bind fun _ => .pure _
  | compare selector v =>
      refine (textOf _ selector timeout).bind fun text => ?_
      split
      · exact .throw _
      · exact .pure ()
  | record selector => exact (textOf _ selector timeout).bind fun text => printOut (h selector rfl text)
  | screenshot | debug => exact savePicture _ _ _

theorem play {action : Action}
    (h : ∀ selector, action.deed = .record selector → ∀ line, out (line ++ "\n")) :
    Writes out (action.play : Play τ Unit) := by
  have hbounded : Writes out (action.playBounded : Play τ Unit) := by
    refine (ofExcept _).bind fun seconds => ?_
    rw [Play.within]
    split
    · exact .look (fun _ _ => rfl) fun stage => act h _ _
    · exact .throw _
  rw [Action.play]
  split
  · exact .pure ()
  · refine hbounded.tryCatch fun fault => ?_
    split
    · exact printErr _
    · exact .throw _
  · split
    · exact (ofExcept _).bind fun _ => pass none _
    · exact hbounded

end Writes

end Playbook
