/-
Page controllers.

A page controller shows one page of a list at a time. Loading a page takes a request to somewhere
else, which may be answered late or never; every request has a number, and an answer counts only if
its request is the latest one. Views are made and released by the owner of the list, who may do
anything to the controller meanwhile. So each operation here is one step between two such moments, and
says what the owner has to do next.

The type parameters are the lists `ρ` and the views `ν`.

* `start`, `beginLoad`: asking for a page.
* `receive`: what an answer leads to.
* `beginRender`, `install`: before and after the view of a page is made.
* `beginFailure`, `installFailure`: before and after the view of a failure is made.
* `close`: the end.
-/
import Wayfinder.Parameters.Reading
import Wayfinder.Text.Layout

namespace Wayfinder

/-- One page of a list as it was answered. -/
structure PageResult where
  /-- What is on the page. -/
  items : List String
  /-- How many pages the list has; an empty list has none. -/
  totalPages : Nat
  /-- Which page the answer claims to be. Nothing depends on it. -/
  claimedPage : Nat
  deriving DecidableEq, Repr

/-- What happens to a page controller. -/
inductive PageEvent where
  /-- A page was asked for. -/
  | loading (page : Nat)
  /-- A page is shown. -/
  | rendered (page totalPages : Nat)
  /-- A page could not be loaded. -/
  | failed (page : Nat) (message : String)
  /-- A page was past the last one, and the controller goes to a URL instead. -/
  | redirected (page : Nat) (url : String)
  deriving DecidableEq, Repr

/-- Where a page controller is. -/
inductive PageStatus where
  /-- It shows no list yet. -/
  | idle
  /-- It waits for a page. -/
  | loading (page : Nat)
  /-- It shows a page. -/
  | ready (page totalPages : Nat)
  /-- It shows a failure. -/
  | failed (message : String)
  /-- It will never do anything again. -/
  | disposed
  deriving DecidableEq, Repr, Inhabited

/-- The text of a status. -/
def PageStatus.describe : PageStatus → String
  | idle => "Idle"
  | loading page => Text.record "Loading" [("page", toString page)]
  | ready page totalPages =>
    Text.record "Ready" [("page", toString page), ("total_pages", toString totalPages)]
  | failed message => Text.record "Failed" [("message", Text.quote message)]
  | disposed => "Disposed"

/-- What is given to the owner to make the view of a page. -/
structure PageContext where
  /-- What is on the page. -/
  items : List String
  /-- The page, within the bounds of the list. -/
  currentPage : Nat
  /-- How many pages the list has. -/
  totalPages : Nat
  /-- The parameters, with the number of the page. -/
  parameters : Parameters
  deriving DecidableEq

namespace PageContext

/-- Whether there is a page before this one. -/
def hasPrevious (c : PageContext) : Bool := 1 < c.currentPage

/-- Whether there is a page behind this one. -/
def hasNext (c : PageContext) : Bool := c.currentPage < c.totalPages

/-- The text of a page context. -/
def describe (c : PageContext) : String :=
  Text.openRecord "PageContext"
    [("items", Text.bracketed (c.items.map Text.quote)), ("current_page", toString c.currentPage),
     ("total_pages", toString c.totalPages), ("parameters", c.parameters.describe)]

end PageContext

/-- A page controller. -/
structure PageController (ρ ν : Type) where
  /-- The list that is shown. -/
  list : Option ρ := none
  /-- The parameters of the list. -/
  parameters : Parameters := .empty
  /-- The parameter that holds the number of the page. -/
  pageKey : String
  /-- The number of the latest request; disposing counts as one. -/
  sequence : Nat := 0
  /-- The view that is shown. -/
  view : Option ν := none
  /-- Where the controller is. -/
  status : PageStatus := .idle
  /-- Whether it has gone to the last page instead of a later one before. -/
  redirected : Bool := false

namespace PageController

variable {ρ ν : Type}

/-- The page that is shown. -/
def currentPage? (c : PageController ρ ν) : Option Nat :=
  match c.status with
  | .ready page _ => some page
  | _ => none

/-- The text of a page controller. -/
def describe (c : PageController ρ ν) : String :=
  Text.openRecord "PageController"
    [("status", c.status.describe), ("sequence", toString c.sequence),
     ("redirected", Text.boolean c.redirected)]

/-- Put the number of a page into the parameters. -/
def setPage (c : PageController ρ ν) (page : Nat) : PageController ρ ν :=
  { c with parameters := c.parameters.insert c.pageKey (toString page) }

/-- Take up a list. The result is the page that its parameters ask for. A disposed controller takes
nothing up. -/
def start (c : PageController ρ ν) (list : ρ) (parameters : Parameters) :
    Option (PageController ρ ν × Nat) :=
  if c.status = .disposed then none
  else some ({ c with list := some list, parameters }, parameters.page c.pageKey)

/-- What has to be done to load a page. -/
structure Load (ρ ν : Type) where
  /-- The number of the request. -/
  sequence : Nat
  /-- The list. -/
  list : ρ
  /-- The view to be released first. -/
  previous : Option ν

/-- Begin to load a page. Without a list, or after its end, the controller does nothing. -/
def beginLoad (c : PageController ρ ν) (page : Nat) : Option (PageController ρ ν × Load ρ ν) :=
  if c.status = .disposed then none
  else c.list.map fun list =>
    let sequence := c.sequence + 1
    ({ c with sequence, status := .loading page, view := none },
      { sequence, list, previous := c.view })

/-- Whether an answer to a request counts no more. -/
def isStale (c : PageController ρ ν) (sequence : Nat) : Bool :=
  c.status == .disposed || c.sequence != sequence

/-- What the answer to a request leads to. -/
inductive Verdict (ρ : Type) where
  /-- Nothing: it came too late. -/
  | stale
  /-- The page is past the last one, which is to be gone to instead. -/
  | outOfRange (list : ρ) (lastPage : Nat)
  /-- The page is to be shown. -/
  | show (list : ρ) (context : PageContext)

/-- The page that is shown for a page that was asked for. -/
def clampPage (page totalPages : Nat) : Nat := max 1 (min page (max 1 totalPages))

/-- Take a page that was asked for. A page past the last one is led to the last one, but only once in
the life of a controller. -/
def receive (c : PageController ρ ν) (sequence page : Nat) (result : PageResult) :
    PageController ρ ν × Verdict ρ :=
  if c.isStale sequence then (c, .stale)
  else match c.list with
  | none => (c, .stale)
  | some list =>
    let total := result.totalPages
    if 0 < total ∧ total < page ∧ c.redirected = false then
      ({ c with redirected := true }, .outOfRange list total)
    else
      let current := clampPage page total
      let parameters := c.parameters.insert c.pageKey (toString current)
      (c, .show list
        { items := result.items, currentPage := current, totalPages := total, parameters })

/-- Begin to show a page: the view that was shown is to be released. -/
def beginRender (c : PageController ρ ν) : PageController ρ ν × Option ν :=
  ({ c with view := none }, c.view)

/-- Show the view that was made for the answer to a request, unless the controller has moved on while
it was made: then the view is to be released at once. -/
def install (c : PageController ρ ν) (sequence page totalPages : Nat) (view : ν) :
    Option (PageController ρ ν) :=
  if c.isStale sequence then none
  else some { c with view := some view, status := .ready page totalPages }

/-- Begin to show a failure: the view that was shown is to be released, and the list may have a view
for failures. A disposed controller shows nothing. -/
def beginFailure (c : PageController ρ ν) (message : String) :
    Option (PageController ρ ν × Option ρ × Option ν) :=
  if c.status = .disposed then none
  else some ({ c with status := .failed message, view := none }, c.list, c.view)

/-- Show the view that was made for a failure, or none. -/
def installFailure (c : PageController ρ ν) (view : Option ν) : PageController ρ ν :=
  { c with view }

/-- The list that a change of pages is about, unless there is none or the controller is disposed. -/
def changeable? (c : PageController ρ ν) : Option ρ :=
  if c.status = .disposed then none else c.list

/-- End. The view is to be released, and answers that are still to come count no more. -/
def close (c : PageController ρ ν) : Option (PageController ρ ν × Option ν) :=
  if c.status = .disposed then none
  else some
    ({ c with sequence := c.sequence + 1, status := .disposed, list := none, view := none }, c.view)

end PageController

end Wayfinder
