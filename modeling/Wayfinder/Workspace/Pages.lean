/-
Page controllers at work.

The operations of a page controller within its workspace, put together from the steps of
`PageController`, the calls of the application between them, and the calls of the navigator: a page
that begins to load holds the scrolling back, and a page or a failure that is shown lets it happen.

* `load`, `showFailure`, `changePage`, `runList`, `closeList`: what can be asked of a page controller.
* `complete`: the answer to a request for a page.
-/
import Wayfinder.Workspace.State

namespace Wayfinder.Workspace

variable {A : Application} (b : Behaviour A)

/-- Release a view, if there is one. -/
def releaseView (w : Workspace A) (index : Nat) : Option A.View → Workspace A
  | some view => b.releaseView index view w
  | none => w

/-- Let the navigator scroll, for a page controller that reaches it. -/
def contentRendered (w : Workspace A) (index : Nat) : Workspace A :=
  if w.reachesNavigator index then w.onNavigator (·.contentRendered) else w

/-- Show that a page could not be loaded. -/
def showFailure (w : Workspace A) (index page : Nat) (message : String) : Workspace A :=
  let w := w.report [.warn ("Loading page " ++ toString page ++ " failed: " ++ message)]
  match (w.list? index).bind (·.beginFailure message) with
  | none => w
  | some (c, list, previous) =>
    let w := (w.setList index c).releaseView b index previous
    let (w, view) := match list with
      | some list => b.renderError index list message w
      | none => (w, none)
    let w := match w.list? index with
      | some c => w.setList index (c.installFailure view)
      | none => w
    (b.listen index (.failed page message) w).contentRendered index

/-- Load a page: whatever was shown is released, and the page is asked for. -/
def load (w : Workspace A) (index page : Nat) : Workspace A :=
  match (w.list? index).bind (·.beginLoad page) with
  | none => w
  | some (c, job) =>
    let w := (w.setList index c).releaseView b index job.previous
    let w := if w.reachesNavigator index then w.onNavigator (·.deferScroll) else w
    let number := toString job.sequence
    let shown := toString page
    let w := w.report [.debug s!"Requesting page {shown} (request #{number})"]
    let w := b.listen index (.loading page) w
    let (w, fetch) := b.request index job.list page w
    match w.spawn (.load index job.sequence page fetch) with
    | .ok w => w
    | .error reason =>
      (w.report [.error s!"Could not spawn the request for page {shown}: {reason}"]).showFailure b
        index page "Could not start loading the page."

/-- Go to a page of the list: the address changes in place where that is possible, and otherwise the
navigator is asked to go there. -/
def changePage (w : Workspace A) (index page : Nat) : Workspace A :=
  let page := max 1 page
  match (w.list? index).bind fun c => c.changeable?.map fun list => (c, list) with
  | none => w
  | some (c, list) =>
    let url := b.urlForPage list page
    let switch (w : Workspace A) : Workspace A :=
      let c := (w.list? index).getD c
      (w.setList index (c.setPage page)).load b index page
    if w.reachesNavigator index then
      let (n, outcome) := w.navigator.inPlace true url
      let w := { w with navigator := n }.takeReports
      match outcome with
      | .success _ => switch w
      | .queued _ => w.report [.trace s!"Page change to '{url}' queued behind a navigation"]
      | other =>
        let shown := other.describe
        let w := w.report
          [.debug s!"In-place page change refused ({shown}), navigating to '{url}'"]
        match w.spawn (.push url) with
        | .ok w => w
        | .error reason =>
          let number := toString page
          w.report [.error s!"Could not spawn navigation for page {number}: {reason}"]
    else switch w

/-- Show a list from the page that its parameters ask for. -/
def runList (w : Workspace A) (index : Nat) (list : A.Listing) (parameters : Parameters) :
    Workspace A :=
  match w.list? index with
  | none => w
  | some c =>
    match c.start list parameters with
    | none => w.report [.warn "run() called on a disposed page controller"]
    | some (c, page) => (w.setList index c).load b index page

/-- End a page controller. -/
def closeList (w : Workspace A) (index : Nat) : Workspace A :=
  match (w.list? index).bind (·.close) with
  | none => w
  | some (c, view) =>
    ((w.setList index c).report [.trace "Page controller disposed"]).releaseView b index view

/-- Add a page controller, which is held from outside. -/
def addList (w : Workspace A) : Workspace A × Nat :=
  let linked := w.navigatorAlive
  let pageKey := if linked then w.navigator.config.pageKey else ({} : Config).pageKey
  ({ w with lists := w.lists ++ [{ controller := { pageKey }, linked }] }, w.lists.length)

/-! ### The outbox of the navigator -/

/-- Do what the navigator wants done. -/
def perform (w : Workspace A) : Effect (Controller A.Feature) → Workspace A
  | .log r => w.report [r]
  | .dispose (.feature c) => b.disposeFeature c w
  | .dispose (.pages index) => w.closeList b index
  | .showError (.feature c) message => b.showError c message w
  | .showError (.pages index) message => w.showFailure b index 0 message

/-- Do everything that is in the outbox of the navigator. -/
def flush (w : Workspace A) : Workspace A :=
  let (n, effects) := w.navigator.collect
  effects.foldl (perform b) { w with navigator := n }

/-- Attach a controller to the context that the running middleware works on. -/
def attach (w : Workspace A) (c : Controller A.Feature) : Workspace A :=
  match w.detached with
  | some context =>
    let (context, previous) := context.attach c
    let w := { w with detached := some context }
    match previous with
    | some c => w.perform b (.dispose c)
    | none => w
  | none => { w with navigator := w.navigator.attach c }.flush b

/-! ### Answers to requests -/

/-- Show a page that was loaded. -/
def showPage (render : Nat → A.Listing → PageContext → Workspace A → Workspace A × A.View)
    (w : Workspace A) (index sequence : Nat) (list : A.Listing) (context : PageContext) :
    Workspace A :=
  match w.list? index with
  | none => w
  | some c =>
    let (c, previous) := c.beginRender
    let w := (w.setList index c).releaseView b index previous
    let (w, view) := render index list context w
    let page := context.currentPage
    let total := context.totalPages
    match (w.list? index).bind fun c => c.install sequence page total view with
    | none => b.releaseView index view w
    | some c =>
      let w := w.setList index c
      let shown := toString page
      let last := toString total
      let w := w.report [.debug s!"Rendered page {shown} of {last}"]
      (b.listen index (.rendered page total) w).contentRendered index

/-- Take the answer to a request. The result is the URL to be gone to in place of a page past the last
one, with the number of that last page. -/
def complete (render : Nat → A.Listing → PageContext → Workspace A → Workspace A × A.View)
    (w : Workspace A) (index sequence page : Nat) (answer : Except FetchError PageResult) :
    Workspace A × Option (String × Nat) :=
  match w.list? index with
  | none => (w, none)
  | some c =>
    let shown := toString page
    if c.isStale sequence then
      let number := toString sequence
      let latest := toString c.sequence
      (w.report
        [.trace s!"Discarding stale result for page {shown} (request #{number}, latest #{latest})"],
        none)
    else
      match answer with
      | .error e => (w.showFailure b index page e.message, none)
      | .ok result =>
        match c.receive sequence page result with
        | (_, .stale) => (w, none)
        | (_, .show list context) => (w.showPage b render index sequence list context, none)
        | (c, .outOfRange list last) =>
          let url := b.urlForPage list last
          let total := toString last
          let w := (w.setList index c).report
            [.info s!"Page {shown} is past the last page {total}, redirecting to '{url}'"]
          let w := b.listen index (.redirected page url) w
          if w.reachesNavigator index then (w, some (url, last)) else (w.load b index last, none)

end Wayfinder.Workspace
