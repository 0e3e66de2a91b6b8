/-
Workspaces.

A workspace holds all that acts together while an application runs: the navigator, the page
controllers, and the tasks in which calls and loads run one step at a time. The application itself is
described by its types (`Application`) and by what it does when it is called (`Behaviour`): any function
of the workspace, so it may call the navigator and the controllers in its turn.

Tasks run in the order in which they became ready: those that were woken before those that were
spawned since the tasks ran last.
-/
import Wayfinder.Navigator.InPlace
import Wayfinder.Navigator.Navigate
import Wayfinder.Pages.PageController

namespace Wayfinder

/-- The types that an application is made of. -/
structure Application where
  /-- What the application remembers. -/
  State : Type
  /-- Its middlewares. -/
  Middleware : Type
  /-- Its controllers, page controllers apart. -/
  Feature : Type
  /-- Its history. -/
  Past : Type
  /-- Its lists. -/
  Listing : Type
  /-- The views of its lists. -/
  View : Type
  [middlewareNamed : Named Middleware]
  [featureNamed : Named Feature]
  [pastHistory : History Past]

attribute [instance] Application.middlewareNamed
attribute [instance] Application.featureNamed
attribute [instance] Application.pastHistory

/-- A controller that a page can have. -/
inductive Controller (φ : Type) where
  /-- One that the application makes. -/
  | feature (c : φ)
  /-- The page controller with an index. -/
  | pages (index : Nat)
  deriving DecidableEq, Repr

instance {φ : Type} [Named φ] : Named (Controller φ) where
  name
    | .feature c => Named.name c
    | .pages _ => "PageController"

/-- What a task does with the outcome of the navigation it runs. -/
inductive Sequel where
  /-- It is the result of a numbered call. -/
  | report (number : Nat)
  /-- A page controller has been sent elsewhere; it loads the page itself if that fails. -/
  | reload (index page : Nat)
  /-- Nothing. -/
  | ignore
  deriving DecidableEq, Repr

/-- What a task is at. -/
inductive Work where
  /-- A numbered call is to be made. -/
  | call (number : Nat) (call : Call)
  /-- A URL is to be gone to. -/
  | push (url : String)
  /-- A page controller waits for the answer to a request. -/
  | load (index sequence page fetch : Nat)
  /-- The navigation in progress is run. -/
  | navigate (sequel : Sequel)
  deriving DecidableEq, Repr

/-- Whether a task keeps the navigator alive. -/
def Work.holdsNavigator : Work → Bool
  | load .. => false
  | _ => true

/-- The tasks. -/
structure TaskPool where
  /-- Whether tasks are run at all. -/
  isOpen : Bool := true
  /-- The number of the next task. -/
  next : Nat := 0
  /-- What each task is at. -/
  tasks : List (Nat × Work) := []
  /-- The tasks that can go on, in order. -/
  ready : List Nat := []
  /-- The tasks that were spawned since tasks ran last, in order. -/
  incoming : List Nat := []

namespace TaskPool

/-- Add a task, if tasks are run at all. -/
def spawn? (p : TaskPool) (work : Work) : Option TaskPool :=
  if p.isOpen then
    some { p with
      next := p.next + 1, tasks := p.tasks ++ [(p.next, work)], incoming := p.incoming ++ [p.next] }
  else none

/-- Let a task go on, if it is there and does not do so already. -/
def wake (p : TaskPool) (task : Nat) : TaskPool :=
  if (p.tasks.lookup task).isSome && !p.ready.contains task && !p.incoming.contains task then
    { p with ready := p.ready ++ [task] }
  else p

/-- The next task that goes on. -/
def next? (p : TaskPool) : Option (Nat × TaskPool) :=
  match p.ready ++ p.incoming with
  | [] => none
  | task :: rest => some (task, { p with ready := rest, incoming := [] })

/-- Change what a task is at. -/
def set (p : TaskPool) (task : Nat) (work : Work) : TaskPool :=
  { p with tasks := p.tasks.map fun e => if e.1 = task then (task, work) else e }

/-- End a task. -/
def remove (p : TaskPool) (task : Nat) : TaskPool :=
  { p with tasks := p.tasks.filter (·.1 ≠ task) }

/-- Give all tasks up and run none any more. -/
def close (p : TaskPool) : TaskPool :=
  { isOpen := false, next := p.next }

end TaskPool

/-- A page controller with what connects it to the workspace. -/
structure ListDesk (A : Application) where
  /-- The controller. -/
  controller : PageController A.Listing A.View
  /-- Whether it was made for the navigator; otherwise it has none. -/
  linked : Bool
  /-- Whether it is held from outside. -/
  held : Bool := true

/-- The state of everything that acts together. -/
structure Workspace (A : Application) where
  /-- What the application remembers. -/
  state : A.State
  /-- The navigator. -/
  navigator : Navigator A.Middleware (Controller A.Feature) A.Past
  /-- Whether there is a navigator at all. -/
  hasNavigator : Bool := true
  /-- Whether the navigator is held from outside. -/
  held : Bool := true
  /-- The context of a chain that runs without a navigator. -/
  detached : Option (Context (Controller A.Feature)) := none
  /-- The page controllers. -/
  lists : List (ListDesk A) := []
  /-- The number of the next request for a page. -/
  nextFetch : Nat := 0
  /-- Answers to requests that no task has taken yet. -/
  answers : List (Nat × Except FetchError PageResult) := []
  /-- The tasks. -/
  pool : TaskPool := {}
  /-- The task that runs. -/
  current : Option Nat := none
  /-- The outcomes of numbered calls; there is none for a traversal that had nowhere to go. -/
  finished : List (Nat × Option Outcome) := []
  /-- The log, oldest record first. -/
  log : Array LogRecord := #[]

namespace Workspace

variable {A : Application}

/-- Write log records. -/
def report (w : Workspace A) (records : List LogRecord) : Workspace A :=
  { w with log := w.log ++ records }

/-- Whether the navigator is there: somebody outside or a task has to hold it. -/
def navigatorAlive (w : Workspace A) : Bool :=
  w.hasNavigator && (w.held || w.pool.tasks.any (·.2.holdsNavigator))

/-- The text of a link to the navigator, which does not hold it. -/
def describeLink (w : Workspace A) : String :=
  Text.record "WeakNavigator" [("alive", Text.boolean w.navigatorAlive)]

/-- The contexts that the navigator holds. -/
def contexts (w : Workspace A) : List (Context (Controller A.Feature)) :=
  let shown := (w.navigator.active.map (·.context)).toList
  match w.navigator.activity with
  | .exiting _ page _ _ => page.context :: shown
  | .entering _ _ context _ => context :: shown
  | .refused _ _ context _ => context :: shown
  | _ => shown

/-- Whether a page controller is there: somebody outside or a context has to hold it. -/
def listAlive (w : Workspace A) (index : Nat) : Bool :=
  let attached (c : Context (Controller A.Feature)) : Bool :=
    match c.controller with
    | some (.pages i) => i == index
    | _ => false
  w.lists[index]?.any (·.held) || (w.navigatorAlive && w.contexts.any attached) ||
    w.detached.any attached

/-- The page controller with an index. -/
def list? (w : Workspace A) (index : Nat) : Option (PageController A.Listing A.View) :=
  w.lists[index]?.map (·.controller)

/-- Put a page controller in the place of the one with an index. -/
def setList (w : Workspace A) (index : Nat) (c : PageController A.Listing A.View) : Workspace A :=
  { w with lists := w.lists.modify index fun d => { d with controller := c } }

/-- Whether a page controller can reach the navigator. -/
def reachesNavigator (w : Workspace A) (index : Nat) : Bool :=
  w.lists[index]?.any (·.linked) && w.navigatorAlive

/-- Write what the navigator reports into the log. -/
def takeReports (w : Workspace A) : Workspace A :=
  let reports := w.navigator.outbox.filterMap fun e => match e with
    | .log r => some r
    | _ => none
  let others := w.navigator.outbox.filter fun e => match e with
    | .log _ => false
    | _ => true
  { w with navigator := { w.navigator with outbox := others } }.report reports

/-- Change the navigator and write what it reports into the log. -/
def onNavigator (w : Workspace A)
    (f : Navigator A.Middleware (Controller A.Feature) A.Past →
      Navigator A.Middleware (Controller A.Feature) A.Past) : Workspace A :=
  { w with navigator := f w.navigator }.takeReports

/-- Add a task; an error is the reason why there are none. -/
def spawn (w : Workspace A) (work : Work) : Except String (Workspace A) :=
  match w.pool.spawn? work with
  | some pool => .ok { w with pool }
  | none => .error "Executor is shutdown"

/-! ### The context of a running chain -/

/-- The context that the running middleware works on. -/
def context? (w : Workspace A) : Option (Context (Controller A.Feature)) :=
  match w.detached with
  | some c => some c
  | none => w.navigator.runningContext?

/-- Change the context that the running middleware works on. -/
def editContext (w : Workspace A)
    (f : Context (Controller A.Feature) → Context (Controller A.Feature)) : Workspace A :=
  match w.detached with
  | some c => { w with detached := some (f c) }
  | none => { w with navigator := w.navigator.editContext f }

end Workspace

/-- What an application does when its lists and controllers are called. -/
structure Behaviour (A : Application) where
  /-- The URL of a page of a list. -/
  urlForPage : A.Listing → Nat → String
  /-- Ask for a page of the list of the page controller with an index. The result has the number of
  the request. -/
  request : Nat → A.Listing → Nat → Workspace A → Workspace A × Nat
  /-- Make the view for a failure, if the list has one. -/
  renderError : Nat → A.Listing → String → Workspace A → Workspace A × Option A.View
  /-- Release a view of the page controller with an index. -/
  releaseView : Nat → A.View → Workspace A → Workspace A
  /-- Hear what happens to the page controller with an index. -/
  listen : Nat → PageEvent → Workspace A → Workspace A
  /-- Dispose a controller. -/
  disposeFeature : A.Feature → Workspace A → Workspace A
  /-- Have a controller show an error. -/
  showError : A.Feature → String → Workspace A → Workspace A

/-- What an application does while navigations and loads run. -/
structure Reactions (A : Application) extends Behaviour A where
  /-- Make the view of a page for the page controller with an index. -/
  render : Nat → A.Listing → PageContext → Workspace A → Workspace A × A.View
  /-- Run a middleware. It answers, or it waits for something. -/
  run : A.Middleware → Workspace A → Workspace A × Option Action
  /-- Go on with a middleware that has waited. -/
  resume : A.Middleware → Workspace A → Workspace A × Option Action

end Wayfinder
