/-
The state of a navigator.

A navigator owns the route table, the history, the scroll store and the context of the active route,
and it runs one navigation at a time. A navigation that waits for a middleware is a value, the
`Activity`: which request it serves, how far it has come, and which middlewares have not answered yet.
So a navigator stands still between any two answers, and anything may happen to it there.

What a navigator wants done outside of itself it puts into its outbox: log records, controllers to be
disposed and controllers to show an error.

The type parameters are the middlewares `μ`, the controllers `κ` and the history `η`.
-/
import Wayfinder.Config
import Wayfinder.Context
import Wayfinder.Parameters.Segment
import Wayfinder.RouteTable

namespace Wayfinder

/-- A navigation that was asked for. -/
structure Request where
  /-- The URL to go to. -/
  url : String
  /-- How it was asked for. -/
  kind : Kind
  /-- How many redirects have led to it. -/
  redirects : Nat := 0
  deriving DecidableEq, Repr

/-- The request that a redirect leads to. -/
def Request.redirected (r : Request) (url : String) (kind : Kind) : Request :=
  { url, kind, redirects := r.redirects + 1 }

/-- The route that is shown. -/
structure ActivePage (κ : Type) where
  /-- The index of the route; a page for a URL without a route has none. -/
  route : Option Nat
  /-- The context of the page. -/
  context : Context κ

/-- What can still be read about a page while its exit chain holds its context. -/
structure Leaving where
  /-- The URL of the page. -/
  url : String
  /-- The parameters of the page. -/
  parameters : Parameters
  /-- The name of the controller of the page. -/
  controllerName : Option String

/-- What can be read about a page. -/
def Leaving.of {κ : Type} [Named κ] (c : Context κ) : Leaving :=
  { url := c.url, parameters := c.parameters, controllerName := c.controllerName? }

/-- A request that is being served. -/
structure Flight where
  /-- The request. -/
  request : Request
  /-- The URL that was current when it was taken up. -/
  cameFrom : Option String := none
  /-- The outcome that the caller will get once the queue is empty. There is none yet while the
  request of the caller itself is served. -/
  owed : Option Outcome := none

/-- What a navigator is in the middle of. -/
inductive Activity (μ κ : Type) where
  /-- Nothing. -/
  | idle
  /-- The exit chain of a page runs; the first of the middlewares is to answer next. -/
  | exiting (flight : Flight) (page : ActivePage κ) (leaving : Leaving) (middlewares : List μ)
  /-- The entry chain of a route runs; the first of the middlewares is to answer next. -/
  | entering (flight : Flight) (route : Nat) (context : Context κ) (middlewares : List μ)
  /-- Entry was refused, and the controller is to show the reason. -/
  | refused (flight : Flight) (route : Nat) (context : Context κ) (reason : String)
  /-- The call that ran the navigation was given up in a phase, and nothing will end it. -/
  | abandoned (phase : Phase) (leaving : Option Leaving)

/-- The phase of an activity. -/
def Activity.phase {μ κ : Type} : Activity μ κ → Phase
  | idle => .idle
  | exiting .. => .exiting
  | entering .. => .entering
  | refused .. => .entering
  | abandoned phase _ => phase

/-- What can be read about the page that is being left. -/
def Activity.leaving? {μ κ : Type} : Activity μ κ → Option Leaving
  | exiting _ _ leaving _ => some leaving
  | abandoned _ leaving => leaving
  | _ => none

/-- Change the context that a running chain works on. -/
def Activity.edit {μ κ : Type} (f : Context κ → Context κ) : Activity μ κ → Activity μ κ
  | exiting flight page leaving middlewares =>
    exiting flight { page with context := f page.context } leaving middlewares
  | entering flight route context middlewares => entering flight route (f context) middlewares
  | other => other

/-- What a navigator wants done outside of itself. -/
inductive Effect (κ : Type) where
  /-- Write a log record. -/
  | log (record : LogRecord)
  /-- Dispose a controller, which is not used any more. -/
  | dispose (controller : κ)
  /-- Have a controller show an error. -/
  | showError (controller : κ) (message : String)
  deriving DecidableEq, Repr

/-- The controllers for pages that cannot be shown. -/
structure Handlers (κ : Type) where
  /-- For a URL without a route. -/
  notFound : Option (String → κ) := none
  /-- For a route that may not be entered. -/
  error : Option (NavigationError → κ) := none

namespace Handlers

variable {κ : Type}

/-- The controller for a URL without a route. -/
def renderNotFound (h : Handlers κ) (url : String) : Option κ := h.notFound.map (· url)

/-- The controller for an error. -/
def renderError (h : Handlers κ) (e : NavigationError) : Option κ := h.error.map (· e)

/-- The text of handlers. -/
def describe (h : Handlers κ) : String :=
  Text.record "ErrorHandlers"
    [("not_found", Text.boolean h.notFound.isSome), ("error", Text.boolean h.error.isSome)]

end Handlers

/-- A navigator. -/
structure Navigator (μ κ η : Type) where
  /-- The settings. -/
  config : Config
  /-- The routes. -/
  table : RouteTable μ
  /-- The history. -/
  history : η
  /-- The surface that pages are shown on. -/
  viewport : Viewport := {}
  /-- The scroll positions of pages that were left. -/
  scroll : ScrollStore
  /-- The controllers for pages that cannot be shown. -/
  handlers : Handlers κ := {}
  /-- The requests that wait, the next one first. -/
  queue : List Request := []
  /-- The page that is shown. -/
  active : Option (ActivePage κ) := none
  /-- Where to scroll for the last navigation, if that has not been done. -/
  pendingScroll : Option ScrollPosition := none
  /-- Whether the page being entered wants to render before the navigator scrolls. -/
  scrollDeferred : Bool := false
  /-- Whether that page has rendered before its entry chain ended. -/
  contentReady : Bool := false
  /-- What is going on. -/
  activity : Activity μ κ := .idle
  /-- What is to be done outside, in order. -/
  outbox : List (Effect κ) := []

namespace Navigator

variable {μ κ η : Type}

/-! ### The outbox -/

/-- Put something into the outbox. -/
def tell (n : Navigator μ κ η) (e : Effect κ) : Navigator μ κ η :=
  { n with outbox := n.outbox ++ [e] }

/-- Put log records into the outbox. -/
def report (n : Navigator μ κ η) (records : List LogRecord) : Navigator μ κ η :=
  { n with outbox := n.outbox ++ records.map .log }

/-- Report the phase that begins. -/
def reportPhase (n : Navigator μ κ η) (phase : Phase) : Navigator μ κ η :=
  n.report [.trace ("Navigation phase: " ++ phase.describe)]

/-- Have a controller disposed, if there is one. -/
def discard (n : Navigator μ κ η) : Option κ → Navigator μ κ η
  | some c => n.tell (.dispose c)
  | none => n

/-- Empty the outbox. -/
def collect (n : Navigator μ κ η) : Navigator μ κ η × List (Effect κ) :=
  ({ n with outbox := [] }, n.outbox)

/-! ### Queries -/

/-- What the navigator is doing. -/
def phase (n : Navigator μ κ η) : Phase := n.activity.phase

/-- The URL of the current history entry. -/
def currentUrl? [History η] (n : Navigator μ κ η) : Option String :=
  (History.current? n.history).map (·.url)

/-- The parameters of the page that is shown or being left. -/
def currentParameters (n : Navigator μ κ η) : Parameters :=
  match n.active, n.activity.leaving? with
  | some page, _ => page.context.parameters
  | none, some leaving => leaving.parameters
  | none, none => .empty

/-- The name of the controller of the page that is shown or being left. -/
def controllerName? [Named κ] (n : Navigator μ κ η) : Option String :=
  match n.active, n.activity.leaving? with
  | some page, _ => page.context.controllerName?
  | none, some leaving => leaving.controllerName
  | none, none => none

/-- Whether there is an entry to go back to. -/
def canGoBack [History η] (n : Navigator μ κ η) : Bool := History.canGoBack n.history

/-- Whether there is an entry to go forward to. -/
def canGoForward [History η] (n : Navigator μ κ η) : Bool := History.canGoForward n.history

/-- The number of history entries. -/
def historySize [History η] (n : Navigator μ κ η) : Nat := History.size n.history

/-- The number of requests that wait. -/
def queued (n : Navigator μ κ η) : Nat := n.queue.length

/-- The URL of a route with a name. -/
def urlFor (n : Navigator μ κ η) (name : String) (params : Parameters) : Option String :=
  n.table.urlFor name params

/-- The context that a running chain works on. -/
def runningContext? (n : Navigator μ κ η) : Option (Context κ) :=
  match n.activity with
  | .exiting _ page _ _ => some page.context
  | .entering _ _ context _ => some context
  | _ => none

/-- The middleware that has to answer next. -/
def runningMiddleware? (n : Navigator μ κ η) : Option μ :=
  match n.activity with
  | .exiting _ _ _ (m :: _) => some m
  | .entering _ _ _ (m :: _) => some m
  | _ => none

/-- The text of a navigator. -/
def describe [History η] (n : Navigator μ κ η) : String :=
  Text.record "Navigator"
    [("phase", n.phase.describe), ("current", Text.optionalQuote n.currentUrl?),
     ("queued", toString n.queued), ("routes", toString n.table.routes.length)]

/-! ### What a middleware may do to its context -/

/-- Change the context that a running chain works on. -/
def editContext (n : Navigator μ κ η) (f : Context κ → Context κ) : Navigator μ κ η :=
  { n with activity := n.activity.edit f }

/-- Attach a controller to the context that a running chain works on. The one attached before is
disposed. -/
def attach (n : Navigator μ κ η) (controller : κ) : Navigator μ κ η :=
  let previous := n.runningContext?.bind (·.controller)
  (n.editContext fun c => (c.attach controller).1).discard previous

/-! ### Borrowing the controller -/

/-- Take the controller of the active page, if there is one. -/
def takeController (n : Navigator μ κ η) : Option (κ × Navigator μ κ η) :=
  match n.active with
  | none => none
  | some page =>
    match page.context.controller with
    | none => none
    | some c => some (c, { n with active := some { page with context := page.context.detach.1 } })

/-- Give a controller back: to the active page if it has none, and otherwise the controller is
disposed. -/
def returnController (n : Navigator μ κ η) (controller : κ) : Navigator μ κ η :=
  match n.active with
  | some page =>
    match page.context.controller with
    | none => { n with
        active := some { page with context := (page.context.attach controller).1 } }
    | some _ => n.tell (.dispose controller)
  | none => n.tell (.dispose controller)

/-! ### Scrolling -/

/-- Scroll to where the last navigation wants to, if that is still to be done; `verb` says why. -/
def scrollNow (n : Navigator μ κ η) (message : ScrollPosition → String) : Navigator μ κ η :=
  let n := { n with scrollDeferred := false }
  match n.pendingScroll with
  | none => n
  | some p =>
    { n with pendingScroll := none, viewport := n.viewport.scrollTo p }.report [.trace (message p)]

/-- Scroll at the end of a navigation. -/
def applyScroll (n : Navigator μ κ η) : Navigator μ κ η :=
  n.scrollNow fun p => "Scrolling to " ++ p.describe

/-- Hold the scrolling for the navigation being entered back until its page has rendered. At any other
time this does nothing. -/
def deferScroll (n : Navigator μ κ η) : Navigator μ κ η :=
  if n.phase = .entering then
    { n with scrollDeferred := true, contentReady := false }.report
      [.trace "Scroll restoration deferred until content renders"]
  else n

/-- Say that the page has rendered. -/
def contentRendered (n : Navigator μ κ η) : Navigator μ κ η :=
  if n.phase = .entering then { n with contentReady := true }
  else n.scrollNow fun p => "Restoring scroll to " ++ p.describe ++ " after render"

end Navigator

end Wayfinder
