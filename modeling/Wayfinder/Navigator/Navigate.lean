/-
Navigations.

A request goes through three parts: the exit chain of the page that is shown, the match of its URL,
and the entry chain of the route found. `request` takes a request up or queues it, `answer` hands the
answer of the running middleware to the navigator, `resumeRefused` goes on after a controller has shown
why entry was refused. Each of them runs until the next middleware has to answer or the call is done:
the result is then the outcome that the caller of the first request gets, after the queue has been
emptied.

* `takeOff`, `react`, `resumeRefused`: serving one request.
* `drain`, `proceed`: the requests that wait.
* `request`, `target?`: asking for a navigation.
* `answer`, `resume`: going on with one.
* `abandon`: giving a call up.
-/
import Wayfinder.Navigator.State

namespace Wayfinder

/-- A call of the navigator. -/
inductive Call where
  /-- Enter the first URL. -/
  | start (url : String)
  /-- Go to a URL. -/
  | push (url : String)
  /-- Go to a URL in place of the current one. -/
  | replace (url : String)
  /-- Go back. -/
  | back
  /-- Go forward. -/
  | forward
  deriving DecidableEq, Repr

namespace Navigator

variable {μ κ η : Type} [Named μ] [Named κ] [History η]

/-- The state of a navigator with the outcome of a call, if the call is done. -/
abbrev Progress (μ κ η : Type) := Navigator μ κ η × Option Outcome

/-- End a request: no navigation is in progress. -/
def finish (n : Navigator μ κ η) (outcome : Outcome) : Navigator μ κ η × Outcome :=
  ({ n with activity := .idle }.reportPhase .idle, outcome)

/-- Report that the next middleware of a chain runs. -/
def announce (n : Navigator μ κ η) (stage : String) (url : String) (m : μ) : Navigator μ κ η :=
  let name := Named.name m
  n.report [.trace s!"Running {stage} middleware '{name}' for '{url}'"]

/-! ### Entering -/

/-- Show a page whose entry chain has ended, and scroll unless its content is still to come. -/
def settle (n : Navigator μ κ η) (route : Nat) (context : Context κ) (outcome : Outcome) :
    Navigator μ κ η × Outcome :=
  let n := { n with active := some { route := some route, context } }
  let n := if !n.scrollDeferred || n.contentReady then n.applyScroll else n
  n.finish outcome

/-- The entry chain has ended and let the navigation happen. -/
def enter (n : Navigator μ κ η) (flight : Flight) (route : Nat) (context : Context κ) :
    Navigator μ κ η × Outcome :=
  let url := flight.request.url
  let source := n.table.sourceAt route
  let n := n.report [.debug s!"Entered '{url}' via '{source}'"]
  n.settle route context (.success url)

/-- Run what is left of an entry chain. -/
def runEntry (n : Navigator μ κ η) (flight : Flight) (route : Nat) (context : Context κ)
    (middlewares : List μ) : Progress μ κ η :=
  let n := { n with activity := .entering flight route context middlewares }
  match middlewares with
  | m :: _ => (n.announce "entry" context.url m, none)
  | [] =>
    let (n, outcome) := n.enter flight route context
    (n, some outcome)

/-! ### Matching -/

/-- Put a request into the history. The result is what its entry keeps. A traversal moves; if the
entry arrived at is not the one that was asked for, the URL is added instead. -/
def commit (history : η) (r : Request) : η × HistoryState :=
  match r.kind with
  | .push => (History.push history { url := r.url }, {})
  | .replace => (History.replace history { url := r.url }, {})
  | .back | .forward =>
    let (moved, entry) := History.go history (r.kind.offset?.getD 0)
    match entry.filter (·.url == r.url) with
    | some entry => (moved, entry.state)
    | none => (History.push moved { url := r.url }, {})

/-- Where to scroll for a request, and the scroll store after it was asked: to the top, or for a
traversal to where the page was left. -/
def scrollTarget (n : Navigator μ κ η) (r : Request) (state : HistoryState) :
    ScrollStore × Option ScrollPosition :=
  if !n.config.restoreScroll then (n.scroll, none)
  else if r.kind.isTraversal then
    let (scroll, stored) := n.scroll.take r.url
    (scroll, some ((state.scroll.orElse fun _ => stored).getD .top))
  else (n.scroll, some .top)

/-- The context with what is known of a URL once its route has been found. -/
def fillIn (t : RouteTable μ) (context : Context κ) (m : RouteMatch) : Context κ :=
  { context with
    captures := m.captures
    routeName := t.routes[m.index]?.bind (·.name)
    pattern := t.routes[m.index]?.map (·.source) }

/-- Show a page for a URL without a route. -/
def showNotFound (n : Navigator μ κ η) (url : String) (context : Context κ)
    (target : Option ScrollPosition) : Navigator μ κ η × Outcome :=
  let n := n.report [.error s!"No route matches '{url}'"]
  let context := { context with controller := n.handlers.renderNotFound url }
  let n := { n with active := some { route := none, context }, pendingScroll := target }
  n.applyScroll.finish (.notFound url)

/-- Go to the URL of a request: put it into the history, look its route up and start the entry
chain. -/
def arrive (n : Navigator μ κ η) (flight : Flight) : Progress μ κ η :=
  let r := flight.request
  let n := n.reportPhase .matching
  let (history, state) := commit n.history r
  let (scroll, target) := n.scrollTarget r state
  let resolveLog := n.table.resolveLog r.url
  let (table, found) := n.table.resolve r.url
  let n := { n with history, scroll, table }.report resolveLog
  let context : Context κ := { url := r.url, kind := r.kind, cameFrom := flight.cameFrom, state }
  match found with
  | none =>
    let (n, outcome) := n.showNotFound r.url context target
    (n, some outcome)
  | some m =>
    let n := { n with pendingScroll := target, scrollDeferred := false, contentReady := false }
    let n := n.reportPhase .entering
    n.runEntry flight m.index (fillIn table context m) (table.entryChain m.index)

/-! ### Leaving -/

/-- The exit chain has ended and let the page be left: its controller is disposed, and the request
goes on. -/
def leave (n : Navigator μ κ η) (flight : Flight) (page : ActivePage κ) : Progress μ κ η :=
  let url := page.context.url
  let n := n.report [.trace s!"Leaving '{url}'"]
  (n.discard page.context.controller).arrive flight

/-- The exit chain has ended with an answer that keeps the page. A redirect goes to the front of the
queue. -/
def stay (n : Navigator μ κ η) (flight : Flight) (page : ActivePage κ) (target : Option String)
    (reason : String) : Navigator μ κ η × Outcome :=
  let queue := match target with
    | some url => flight.request.redirected url .push :: n.queue
    | none => n.queue
  { n with active := some page, queue }.finish (.blocked reason target)

/-- Report that an exit chain has ended. -/
def reportSettled (n : Navigator μ κ η) (leaving : Leaving) : Navigator μ κ η :=
  let url := leaving.url
  n.report [.trace s!"Exit chain of '{url}' settled"]

/-- Run what is left of an exit chain. -/
def runExit (n : Navigator μ κ η) (flight : Flight) (page : ActivePage κ) (leaving : Leaving)
    (middlewares : List μ) : Progress μ κ η :=
  let n := { n with activity := .exiting flight page leaving middlewares }
  match middlewares with
  | m :: _ => (n.announce "exit" page.context.url m, none)
  | [] => (n.reportSettled leaving).leave flight page

/-- What a page that is about to be left keeps: its values, and where it is scrolled to. -/
def leftState (n : Navigator μ κ η) (context : Context κ) : HistoryState :=
  { context.state with scroll := some n.viewport.position }

/-- The history once a page is about to be left: if the current entry is that of the page, it keeps
what the page keeps. -/
def leftHistory (n : Navigator μ κ η) (context : Context κ) : η :=
  if n.currentUrl? = some context.url then
    History.replace n.history { url := context.url, state := n.leftState context }
  else n.history

/-- Record where the page that is about to be left is scrolled to: in the scroll store, in its context
and, if its entry is the current one, in the history. -/
def captureScroll (n : Navigator μ κ η) (context : Context κ) : Navigator μ κ η × Context κ :=
  let position := n.viewport.position
  ({ n with
      scroll := n.scroll.record context.url position
      history := n.leftHistory context }.report (ScrollStore.recordLog context.url position),
    { context with state := n.leftState context })

/-- Start to serve a request whose target is known: leave the page that is shown, if there is one. -/
def depart (n : Navigator μ κ η) (flight : Flight) : Progress μ κ η :=
  let flight := { flight with cameFrom := n.currentUrl? }
  let kind := flight.request.kind.describe
  let previous := Text.optionalQuote n.currentUrl?
  let url := flight.request.url
  let n := (n.reportPhase .exiting).report [.info s!"Navigation {kind}: {previous} → '{url}'"]
  match n.active with
  | none => n.arrive flight
  | some page =>
    let leaving := Leaving.of page.context
    let (n, context) := { n with active := none }.captureScroll page.context
    n.runExit flight { page with context } leaving (n.table.exitChain page.route)

/-- Start to serve a request unless too many redirects have led to it. -/
def checkRedirects (n : Navigator μ κ η) (flight : Flight) : Progress μ κ η :=
  let limit := n.config.maxRedirects
  if limit < flight.request.redirects then
    let url := flight.request.url
    let shown := toString limit
    let n := n.report [.error s!"Redirect loop: gave up after {shown} redirects at '{url}'"]
    let (n, outcome) := n.finish (.failed (.redirectLoop limit url))
    (n, some outcome)
  else n.depart flight

/-- Start to serve a request. The target of a traversal is looked up only now; without one the request
is dropped. -/
def takeOff (n : Navigator μ κ η) (flight : Flight) : Progress μ κ η :=
  match flight.request.kind.offset? with
  | none => n.checkRedirects flight
  | some offset =>
    match History.peek? n.history offset with
    | some entry => n.checkRedirects
        { flight with request := { flight.request with url := entry.url } }
    | none =>
      let kind := flight.request.kind.describe
      let n := n.report [.debug s!"Nothing to traverse to ({kind}), request dropped"]
      let (n, outcome) := n.finish (.blocked "No history entry to go to" none)
      (n, some outcome)

/-! ### The queue -/

/-- Report how a request ended that had waited in the queue. -/
def reportServed (n : Navigator μ κ η) (flight : Flight) (outcome : Outcome) : Navigator μ κ η :=
  match flight.owed with
  | none => n
  | some _ =>
    let shown := outcome.describe
    n.report [.trace s!"Queued navigation finished: {shown}"]

/-- Take the next request out of the queue; the others go on waiting. -/
def dequeue (n : Navigator μ κ η) (next : Request) (rest : List Request) : Navigator μ κ η :=
  let url := next.url
  { n with queue := rest }.report [.trace s!"Running queued navigation to '{url}'"]

/-- Serve waiting requests until one has to wait for a middleware or none is left. `owed` is the
outcome for the caller. -/
def drain (n : Navigator μ κ η) (owed : Outcome) : List Request → Progress μ κ η
  | [] => ({ n with queue := [] }, some owed)
  | r :: rest =>
    let flight : Flight := { request := r, owed := some owed }
    match (n.dequeue r rest).takeOff flight with
    | (n, none) => (n, none)
    | (n, some outcome) => (n.reportServed flight outcome).drain owed rest

/-- Go on after a request has been served: the first one of a call determines the outcome of the call,
and then the queue is served. -/
def proceed (flight : Flight) : Progress μ κ η → Progress μ κ η
  | (n, none) => (n, none)
  | (n, some outcome) =>
    (n.reportServed flight outcome).drain (flight.owed.getD outcome) n.queue

/-! ### Asking for navigations -/

/-- The URL that a traversal would go to now. Without one nothing is asked for. -/
def traversalUrl? (n : Navigator μ κ η) (kind : Kind) : Option String :=
  kind.offset?.bind fun offset => (History.peek? n.history offset).map (·.url)

/-- The kind and the URL of a call; a traversal without an entry to go to has none. -/
def target? (n : Navigator μ κ η) : Call → Option (Kind × String)
  | .start url => some (.replace, url)
  | .push url => some (.push, url)
  | .replace url => some (.replace, url)
  | .back => (n.traversalUrl? .back).map (.back, ·)
  | .forward => (n.traversalUrl? .forward).map (.forward, ·)

/-- Go to a URL, or wait until the navigation in progress has ended. -/
def request (n : Navigator μ κ η) (kind : Kind) (url : String) : Progress μ κ η :=
  if n.phase = .idle then
    let flight : Flight := { request := { url, kind } }
    proceed flight (n.takeOff flight)
  else
    let waiting := toString n.queued
    let n := n.report
      [.debug s!"Navigation to '{url}' queued behind the current one ({waiting} waiting)"]
    ({ n with queue := n.queue ++ [{ url, kind }] }, some (.queued url))

/-! ### Going on -/

/-- Report the answer that ends a chain early. -/
def reportStop (n : Navigator μ κ η) (stage : String) (m : μ) (action : Action) :
    Navigator μ κ η :=
  if action.isProceed then n
  else
    let name := Named.name m
    let shown := action.describe
    n.report [.trace s!"{stage} middleware '{name}' stopped the chain: {shown}"]

/-- Refuse entry: a controller shows the reason in place of the page, if there is one. -/
def refuse (n : Navigator μ κ η) (flight : Flight) (route : Nat) (context : Context κ)
    (reason : String) : Progress μ κ η :=
  let url := flight.request.url
  let n := n.report [.warn s!"Entering '{url}' refused: {reason}"]
  let controller := context.controller.orElse fun _ => n.handlers.renderError (.refused reason)
  let context := { context with controller }
  match controller with
  | some c =>
    ({ n with activity := .refused flight route context reason }.tell (.showError c reason), none)
  | none =>
    let (n, outcome) := n.settle route context (.blocked reason none)
    (n, some outcome)

/-- Follow the redirect of an entry chain: the page that was being entered is given up. -/
def follow (n : Navigator μ κ η) (flight : Flight) (context : Context κ) (target : String)
    (reason : Option String) : Progress μ κ η :=
  let url := flight.request.url
  let shown := Text.optionalQuote reason
  let n := n.report [.debug s!"Entry chain of '{url}' redirected to '{target}' ({shown})"]
  let n := { n.discard context.controller with pendingScroll := none }
  n.takeOff { flight with request := flight.request.redirected target .replace }

/-- What a request that is being left does with the answer of the running exit middleware. -/
def reactExit (n : Navigator μ κ η) (flight : Flight) (page : ActivePage κ) (leaving : Leaving)
    (rest : List μ) : Action → Progress μ κ η
  | .proceed => n.runExit flight page leaving rest
  | .deny reason =>
    let url := page.context.url
    let n := (n.reportSettled leaving).report [.warn s!"Leaving '{url}' refused: {reason}"]
    let (n, outcome) := n.stay flight page none reason
    (n, some outcome)
  | .redirect target reason =>
    let url := page.context.url
    let n := (n.reportSettled leaving).report
      [.debug s!"Exit chain of '{url}' redirected to '{target}'"]
    let (n, outcome) := n.stay flight page (some target) (reason.getD "Redirected")
    (n, some outcome)

/-- What a request does with the answer of the running entry middleware. -/
def reactEntry (n : Navigator μ κ η) (flight : Flight) (route : Nat) (context : Context κ)
    (rest : List μ) : Action → Progress μ κ η
  | .proceed => n.runEntry flight route context rest
  | .deny reason => n.refuse flight route context reason
  | .redirect target reason => n.follow flight context target reason

/-- What the answer of the running middleware does to the request that is being served: it comes to
its next middleware or to its end. Without a middleware running there is nothing to react to. -/
def react (n : Navigator μ κ η) (action : Action) : Option (Flight × Progress μ κ η) :=
  match n.activity with
  | .exiting flight page leaving (m :: rest) =>
    some (flight, (n.reportStop "exit" m action).reactExit flight page leaving rest action)
  | .entering flight route context (m :: rest) =>
    some (flight, (n.reportStop "entry" m action).reactEntry flight route context rest action)
  | _ => none

/-- End a request whose entry was refused, after the controller has shown why. -/
def resumeRefused (n : Navigator μ κ η) : Option (Flight × Progress μ κ η) :=
  match n.activity with
  | .refused flight route context reason =>
    let (n, outcome) := n.settle route context (.blocked reason none)
    some (flight, (n, some outcome))
  | _ => none

/-- The answer of the running middleware. Without one running nothing happens. -/
def answer (n : Navigator μ κ η) (action : Action) : Progress μ κ η :=
  match n.react action with
  | some (flight, p) => proceed flight p
  | none => (n, none)

/-- Go on after the controller has shown why entry was refused. -/
def resume (n : Navigator μ κ η) : Progress μ κ η :=
  match n.resumeRefused with
  | some (flight, p) => proceed flight p
  | none => (n, none)

/-- Give the call up that runs the navigation in progress. Its context is lost, and later requests
wait for ever. -/
def abandon (n : Navigator μ κ η) : Navigator μ κ η :=
  match n.activity with
  | .idle => n
  | activity => { n with activity := .abandoned activity.phase activity.leaving? }

end Navigator

end Wayfinder
