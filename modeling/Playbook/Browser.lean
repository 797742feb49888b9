import Playbook.Stage

/-! # Opening and closing the browser

To open the page the engine is started, a browser is launched, a page is opened in it, and dialogs
are listened for. To close it the browser is closed and the engine stopped, each if it was made. The
page can be used once it has been opened. -/

namespace Playbook.Play

variable {τ : Type} [TimeScale τ]

/-- Open the page. What was made before a fault stays made. -/
def enter : Play τ Unit := do
  let browser := (← get).browser
  let _ ← call none .start
  modify fun stage => { stage with browser.started := true }
  let _ ← call none (.launch browser.headless browser.proxy)
  modify fun stage => { stage with browser.launched := true }
  let _ ← call none (.newContext browser.width browser.height)
  let _ ← call none .newPage
  modify fun stage => { stage with browser.opened := true }
  note (.call .listen)

/-- Close the browser and stop the engine. -/
def leave : Play τ Unit := do
  if (← get).browser.launched then
    let _ ← call none .close
  if (← get).browser.started then
    let _ ← call none .stop

/-- Call the browser on the open page. -/
def onPage (limit : Option τ) (request : Call τ) : Play τ (Option (Rule τ)) := do
  if (← get).browser.opened then call limit request else throw .notStarted

/-- The text of an element, empty if it has none. -/
def textOf (limit : Option τ) (selector : Text) (timeout : τ) : Play τ Text := do
  let rule ← onPage limit (.textContent selector timeout)
  let stage ← get
  let told := rule.bind (·.text)
  let found := told.getD ((stage.texts.lookup selector).getD stage.text)
  return found.getD ""

/-- The picture of a page whose script tells none. -/
def plainPicture : List UInt8 := [0x50, 0x4E, 0x47]

/-- A picture of the page. -/
def picture (limit : Option τ) (timeout : τ) : Play τ (List UInt8) := do
  let rule ← onPage limit (.screenshot timeout)
  return (rule.bind (·.picture)).getD plainPicture

end Playbook.Play
