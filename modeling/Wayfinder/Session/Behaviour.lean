/-
What a scripted application does.

The deeds of the middlewares and lists of a session, carried out in its workspace. A deed that would
have to wait, at a gate, answers nothing; its task goes on when the gate is opened.

* `behaviour`: lists and controllers.
* `reactions`: these with the rendering of pages and with the middlewares.
-/
import Wayfinder.Session.Script

namespace Wayfinder.Session

/-- Change what a session remembers. -/
def onState (w : Desk) (f : State → State) : Desk := { w with state := f w.state }

/-- Write a note into the journal. -/
def note (w : Desk) (n : Note) : Desk := onState w fun s => { s with journal := s.journal.push n }

/-! ### Lists and controllers -/

/-- Ask for a page of a list. A list that answers at once has its answer ready; others wait. -/
def requestPage (index : Nat) (list : Listing) (page : Nat) (w : Desk) : Desk × Nat :=
  let w := note w (.fetch page index)
  let fetch := w.nextFetch
  let w := { w with nextFetch := fetch + 1 }
  match list.script.auto with
  | some total =>
    let result : PageResult :=
      { items := ["item " ++ toString page], totalPages := total, claimedPage := page }
    ({ w with answers := w.answers ++ [(fetch, .ok result)] }, fetch)
  | none =>
    (onState w fun s => { s with pending := s.pending ++ [(fetch, index, page)] }, fetch)

/-- Make the view for a failure, if the list has one; it counts as a view of page zero. -/
def renderError (index : Nat) (list : Listing) (message : String) (w : Desk) :
    Desk × Option Nat :=
  if list.script.onError then (note w (.errorView message index), some 0) else (w, none)

/-- Tell the listeners of a page controller about an event. -/
def listen (index : Nat) (event : PageEvent) (w : Desk) : Desk :=
  match w.state.listeners[index]? with
  | some subject => subject.audience.foldl (fun w label => note w (.event event index label)) w
  | none => w

/-- What the lists and controllers of a session do. -/
def behaviour : Behaviour application where
  urlForPage := Listing.urlForPage
  request := requestPage
  renderError := renderError
  releaseView index page w := note w (.viewDisposed page index)
  listen := listen
  disposeFeature c w := note w (.controllerDisposed c.name)
  showError c message w := note w (.controllerError c.name message)

/-- Make the view of a page. The first thing that is written down for the page and has not been done
yet is done on the way. -/
def render (index : Nat) (list : Listing) (context : PageContext) (w : Desk) : Desk × Nat :=
  let links := [list.urlForPage 0, list.urlForPage context.totalPages]
  let w := note w (.render context index links)
  let w := if list.script.describe then
      note w (.renderDescriptions context.describe "PageChangeHandle")
    else w
  let w := onState w fun s => { s with pagers := s.pagers ++ [index] }
  let todo : List (Nat × RenderAction) := (w.state.onRender.lookup list.run).getD []
  let w := match todo.findIdx? (·.1 == context.currentPage) with
    | none => w
    | some i =>
      let w := onState w fun s => { s with
        onRender := (list.run, todo.eraseIdx i) :: s.onRender.filter (·.1 ≠ list.run) }
      match todo[i]? with
      | some (_, .changePage page) => w.changePage behaviour index page
      | some (_, .dispose) => w.closeList behaviour index
      | _ => w
  (w, context.currentPage)

/-! ### Inquiries -/

/-- Ask a navigator everything that can be asked. -/
def inquire (n : Navigator Middleware (Controller Recorder) Past) : Inquiry :=
  { phase := n.phase, url := n.currentUrl?, parameters := n.currentParameters,
    controller := n.controllerName?, back := n.canGoBack, forward := n.canGoForward,
    history := n.historySize, queued := n.queued }

/-- The name of the controller that can be borrowed from the navigator, which is given back. -/
def borrowedName? (w : Desk) : Option String :=
  w.navigator.takeController.map fun taken => Named.name taken.1

/-! ### Running lists -/

/-- Make a page controller with a listener. -/
def newList (w : Desk) (label : String) : Desk × Nat :=
  let (w, index) := w.addList
  (onState w fun s => { s with
    listeners := s.listeners ++ [((({} : Subject String).subscribe label).1)] }, index)

/-- Show a list in a page controller. -/
def startList (w : Desk) (index : Nat) (script : ListScript) (parameters : Parameters) : Desk :=
  let run := w.state.nextRun
  let w := onState w fun s => { s with
    nextRun := run + 1, onRender := (run, script.onRender) :: s.onRender }
  let w := if script.describe then
      note w (.request (Text.openRecord "PageRequestConfig" [("parameters", parameters.describe)])
        parameters)
    else w
  w.runList behaviour index { script, parameters, run } parameters

/-! ### Middlewares -/

/-- Make a call within a navigation. -/
def callWithin (w : Desk) : ScriptedCall → Desk × Option Outcome
  | .inPlace push url =>
    let (navigator, outcome) := w.navigator.inPlace push url
    ({ w with navigator }.takeReports, some outcome)
  | .call c =>
    match w.navigator.target? c with
    | none => (w, none)
    | some (kind, url) =>
      let (navigator, outcome) := w.navigator.request kind url
      ({ w with navigator }.flush behaviour, outcome)

/-- Ask whether unsaved changes may be lost, if there are any. -/
def confirmExit (message : String) (w : Desk) : Desk × Action :=
  if w.state.dirty then
    let (reply, rest) := match w.state.replies with
      | [] => (false, [])
      | reply :: rest => (reply, rest)
    let w := note (onState w fun s => { s with replies := rest }) (.asked message reply)
    let url := (w.context?.map (·.url)).getD ""
    let (action, dirty) := ConfirmExit.decide reply
    ((onState w fun s => { s with dirty }).report (ConfirmExit.decideLog url reply), action)
  else (w, .proceed)

/-- Carry a deed out. Without an answer the middleware waits. -/
def carryOut (deed : Deed) (w : Desk) : Desk × Option Action :=
  let inside := w.detached.isNone
  let done (w : Desk) : Desk × Option Action := (w, some .proceed)
  match deed with
  | .idle => done w
  | .record label => done (note w (.label label))
  | .snapshot label =>
    match w.context? with
    | some c => done (note w (.snapshot label c (if inside then some (inquire w.navigator) else none)))
    | none => done w
  | .describe =>
    match w.context? with
    | some c =>
      done (note w (.descriptions c.describe (if inside then some w.navigator.describe else none)))
    | none => done w
  | .attach name => done (w.attach behaviour (.feature ⟨name⟩))
  | .set key value =>
    done (w.editContext fun c => { c with parameters := c.parameters.insert key value })
  | .extra key value =>
    done (w.editContext fun c =>
      { c with state := { c.state with extra := c.state.extra.insert key value } })
  | .dropExtra key =>
    let old := w.context?.bind fun c => c.state.extra.get? key
    let w := w.editContext fun c =>
      { c with state := { c.state with extra := c.state.extra.erase key } }
    done (note w (.dropped old))
  | .setUrl url => done (w.editContext fun c => { c with url })
  | .defer => done (if inside then w.onNavigator (·.deferScroll) else w)
  | .rendered => done (if inside then w.onNavigator (·.contentRendered) else w)
  | .controller =>
    done (note w (.activeController (if inside then borrowedName? w else none)))
  | .deny reason => (w, some (.deny reason))
  | .redirect target reason => (w, some (.redirect target reason))
  | .parse key =>
    let captures := (w.context?.map (·.captures)).getD .empty
    let w := w.editContext fun c => { c with parameters := Segment.decodeCaptures c.captures key }
    done (w.report (Segment.decodeCapturesLog captures key))
  | .privilege guard =>
    (w.report (guard.decideLog w.state.privileges), some (guard.decide w.state.privileges))
  | .confirmExit message =>
    let (w, action) := confirmExit message w
    (w, some action)
  | .gate id => (onState w fun s => { s with waiting := s.waiting ++ [(id, w.current)] }, none)
  | .navigate call =>
    if inside then
      let (w, outcome) := callWithin w call
      done (note w (.fromMiddleware (.made outcome)))
    else done (note w (.fromMiddleware .noNavigator))
  | .list label script =>
    let (w, index) := newList w label
    let parameters := (w.context?.map (·.parameters)).getD .empty
    let w := startList w index script parameters
    done (w.attach behaviour (.pages index))

/-- Run a middleware: outside of the runs in which it does its deed it proceeds. -/
def runMiddleware (m : Middleware) (w : Desk) : Desk × Option Action :=
  let run := (w.state.runs.lookup m.number).getD 0
  let w := onState w fun s => { s with
    runs := (m.number, run + 1) :: s.runs.filter (·.1 ≠ m.number) }
  if m.acts run then carryOut m.deed w else (w, some .proceed)

/-- What a session does while navigations and loads run. A middleware that has waited proceeds. -/
def reactions : Reactions application :=
  { behaviour with
    render := render
    run := runMiddleware
    resume := fun _ w => (w, some .proceed) }

end Wayfinder.Session
