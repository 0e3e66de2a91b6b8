/-
Running sessions.

The steps of a session, carried out in its workspace one after the other. After each step all tasks
run until none can go on, unless the step holds them back.

* `perform`: a step without the tasks.
* `advance`: a step with the tasks and the report.
* `run`: all steps.
* `runDetached`: a chain of middlewares that is run without a navigator.
-/
import Wayfinder.Navigator.Setup
import Wayfinder.Session.Step

namespace Wayfinder.Session

/-- How many turns tasks and middlewares may take within a step. -/
def patience : Nat := 100000

/-! ### Calls -/

/-- Make a call in a task of its own, with the next number. Without a navigator that is held, or without
tasks, there is no call. -/
def makeCall (w : Desk) (call : Call) : Desk :=
  if w.held then
    match w.spawn (.call w.state.nextCall call) with
    | .ok w => onState w fun s => { s with nextCall := s.nextCall + 1 }
    | .error _ => w
  else w

/-- Change the address in place, if the navigator is held. -/
def changeAddress (w : Desk) (push : Bool) (url : String) : Desk × Option Outcome :=
  if w.held then
    let (navigator, outcome) := w.navigator.inPlace push url
    ({ w with navigator }.takeReports, some outcome)
  else (w, none)

/-- Make a call that cannot wait. -/
def callAtOnce (w : Desk) : ScriptedCall → Desk × Option Outcome
  | .call c => w.callNow reactions patience c
  | .inPlace push url => changeAddress w push url

/-- Open a gate. The result is how many were waiting. -/
def openGate (w : Desk) (id : String) : Desk × Nat :=
  let waiting := w.state.waiting.filter (·.1 == id)
  let w := onState w fun s => { s with waiting := s.waiting.filter (·.1 != id) }
  let pool := (waiting.filterMap (·.2)).foldl TaskPool.wake w.pool
  ({ w with pool }, waiting.length)

/-! ### Borrowing the controller -/

/-- Use the borrowed controller. -/
def useBorrowed (w : Desk) (c : Controller Recorder) : Borrowing → Desk × StepResult
  | .showError message => (w.perform behaviour (.showError c message), .nothing)
  | .showSuccess message =>
    match c with
    | .feature f => (note w (.controllerSuccess f.name message), .nothing)
    | .pages _ => (w, .nothing)
  | .borrowAgain => (w, .text (borrowedName? w))
  | .navigate call =>
    let (w, outcome) := callAtOnce w call
    (w, .outcome outcome)
  | .readName => (w, .text (some (Named.name c)))

/-- Borrow the controller of the page, use it and give it back. -/
def borrow (w : Desk) (use : Borrowing) : Desk × StepResult :=
  if w.held then
    match w.navigator.takeController with
    | none => (w, .nothing)
    | some (c, navigator) =>
      let (w, value) := useBorrowed { w with navigator } c use
      (w.onNavigator (·.returnController c) |>.flush behaviour, .borrowed value)
  else (w, .nothing)

/-! ### Page controllers -/

/-- Whether a page controller is held. -/
def isHeld (w : Desk) (index : Nat) : Bool := w.lists[index]?.any (·.held)

/-- Hold a page controller no longer. The result is whether it was held. -/
def forgetList (w : Desk) (index : Nat) : Desk × Bool :=
  ({ w with lists := w.lists.modify index fun d => { d with held := false } }, isHeld w index)

/-- Change the page from within a render, if its page controller is there. -/
def changePageFrom (w : Desk) (render : Option Nat) (page : Nat) : Desk × StepResult :=
  let source := match render with
    | some i => w.state.pagers[i]?
    | none => w.state.pagers.getLast?
  match source with
  | none => (w, .noRender)
  | some index =>
    (if w.listAlive index then w.changePage behaviour index page else w, .nothing)

/-- Answer the oldest request for a page. -/
def reply (w : Desk) (page : Nat) (answer : Except FetchError PageResult) : Desk × StepResult :=
  match w.state.pending.find? (·.2.2 == page) with
  | none => (w, .noRequest)
  | some (fetch, _, _) =>
    let w := onState w fun s => { s with pending := s.pending.filter (·.1 != fetch) }
    (w.deliver fetch answer, .nothing)

/-! ### Steps -/

/-- The descriptions of everything that is held. -/
def descriptions (w : Desk) : StepResult :=
  let navigator := if w.held then some w.navigator.describe else none
  .descriptions navigator w.describeLink w.navigatorAlive
    (w.lists.map fun d => if d.held then some d.controller.describe else none)

/-- Carry a step out. -/
def perform (w : Desk) (step : Step) : Desk × StepResult :=
  let done (w : Desk) : Desk × StepResult := (w, .nothing)
  let onList (index : Nat) (f : Desk → Desk) : Desk × StepResult :=
    done (if isHeld w index then f w else w)
  match step with
  | .call calls => done (calls.foldl makeCall w)
  | .inPlace push url =>
    let (w, outcome) := changeAddress w push url
    (w, .outcome outcome)
  | .openGate id =>
    let (w, waiting) := openGate w id
    (w, .number waiting)
  | .scrollTo p =>
    done { w with navigator := { w.navigator with viewport := w.navigator.viewport.scrollTo p } }
  | .rendered => done (if w.held then w.onNavigator (·.contentRendered) else w)
  | .defer => done (if w.held then w.onNavigator (·.deferScroll) else w)
  | .setDirty dirty => done (onState w fun s => { s with dirty })
  | .grant privilege => done (onState w fun s => { s with privileges := privilege :: s.privileges })
  | .revoke privilege =>
    done (onState w fun s => { s with privileges := s.privileges.filter (· ≠ privilege) })
  | .prepareReply reply => done (onState w fun s => { s with replies := s.replies ++ [reply] })
  | .config => (w, if w.held then .config w.navigator.config else .nothing)
  | .urlFor name params => (w, .text (if w.held then w.navigator.urlFor name params else none))
  | .borrow use => borrow w use
  | .describe => (w, descriptions w)
  | .dropNavigator =>
    let w := { w with held := false }
    (w, .truth w.navigatorAlive)
  | .closePool => done w.closePool
  | .newList label =>
    let (w, index) := newList w label
    (w, .number index)
  | .runList index script parameters => onList index (startList · index script parameters)
  | .changePage index page => onList index (·.changePage behaviour index page)
  | .closeList index => onList index (·.closeList behaviour index)
  | .showError index message => onList index (·.showFailure behaviour index 0 message)
  | .countListeners index =>
    (w, match w.state.listeners[index]? with
      | some subject => if isHeld w index then .number subject.size else .nothing
      | none => .nothing)
  | .forgetList index =>
    let (w, held) := forgetList w index
    (w, .truth held)
  | .changePageFrom render page => changePageFrom w render page
  | .reply page answer => reply w page answer
  | .unknown => (w, .unknown)

/-- What can be seen after a step; `before` is the number of calls that were made earlier. -/
def report (w : Desk) (before : Nat) (result : StepResult) : Report :=
  { result
    tasks := List.range' before (w.state.nextCall - before)
    finished := w.finished
    journal := w.state.journal.toList
    navigator := if w.held then some (inquire w.navigator) else none
    history := w.navigator.history.seen
    viewport := w.navigator.viewport
    dirty := w.state.dirty
    pages := w.lists.map fun d =>
      if d.held then some (d.controller.status, d.controller.currentPage?) else none
    pending := w.state.pending.map (·.2.2) }

/-- Carry a step out, let the tasks run unless they are held back, and report. -/
def advance (w : Desk) (step : Step) (hold : Bool) : Desk × Report :=
  let before := w.state.nextCall
  let (w, result) := perform w step
  let w := if hold then w else w.runTasks reactions patience
  let seen := report w before result
  ({ onState w (fun s => { s with journal := #[] }) with finished := [] }, seen)

/-- Carry steps out, each with a mark whether it holds the tasks back. -/
def run (w : Desk) : List (Step × Bool) → Desk × List Report
  | [] => (w, [])
  | (step, hold) :: rest =>
    let (w, seen) := advance w step hold
    let (w, others) := run w rest
    (w, seen :: others)

/-! ### Beginnings -/

/-- The controllers for pages that cannot be shown, each with what cannot be shown in its name. -/
def recordingHandlers (notFound error : Bool) : Handlers (Controller Recorder) where
  notFound := if notFound then some fun url => .feature ⟨"404 " ++ url⟩ else none
  error := if error then some fun e => .feature ⟨"error " ++ e.message⟩ else none

/-- A session at its beginning, with a navigator that is held. -/
def desk (navigator : Navigator Middleware (Controller Recorder) Past) (state : State) : Desk :=
  { state, navigator }

/-- A session without a navigator. -/
def deskWithout (history : Past) (state : State) : Desk :=
  { state, hasNavigator := false, held := false
    navigator := { config := {}, table := {}, history, scroll := .empty 1 } }

/-- Run a chain several times on one context and without a navigator. A run in which a middleware waits
is given up and has no answer. -/
def runDetached (w : Desk) (stage : String) (chain : List Middleware) : (times : Nat) →
    Desk × List (Option Action)
  | 0 => (w, [])
  | times + 1 =>
    let (w, answer) := w.runChain reactions stage chain
    let (w, others) := runDetached w stage chain times
    (w, answer :: others)

end Wayfinder.Session
