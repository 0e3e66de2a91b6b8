/-
Scripted sessions.

A session is an application that is described by data: what its middlewares and lists do is written
down beforehand, and what happens is noted in a journal. This module has the words of such
descriptions and of the journal.
-/
import Wayfinder.Guard
import Wayfinder.Subject
import Wayfinder.Workspace.Tasks

namespace Wayfinder.Session

/-! ### Histories -/

/-- How a history moves. -/
inductive Movement where
  /-- As it is told. -/
  | regular
  /-- Not at all. -/
  | stuck
  /-- Twice as far. -/
  | jumpy
  deriving DecidableEq, Repr

/-- A history in memory that may move oddly. -/
structure Past where
  /-- The entries. -/
  memory : MemoryHistory := {}
  /-- How it moves. -/
  movement : Movement := .regular
  /-- Whether its entries can be looked at from outside. -/
  isVisible : Bool := true

/-- The entries that can be looked at from outside. -/
def Past.seen (h : Past) : MemoryHistory := if h.isVisible then h.memory else {}

/-- Move by an offset, in the way of the history. -/
def Past.go (h : Past) (offset : Int) : Past × Option HistoryEntry :=
  let move (offset : Int) : Past × Option HistoryEntry :=
    let (memory, entry) := h.memory.go offset
    ({ h with memory }, entry)
  match h.movement with
  | .regular => move offset
  | .stuck => (h, none)
  | .jumpy => move (2 * offset)

instance : History Past where
  current? h := h.memory.current?
  push h e := { h with memory := h.memory.push e }
  replace h e := { h with memory := h.memory.replace e }
  peek? h offset := h.memory.peek? offset
  go := Past.go
  size h := h.memory.entries.length

/-! ### Lists -/

/-- What a list does while it is rendered. -/
inductive RenderAction where
  /-- Change to a page. -/
  | changePage (page : Nat)
  /-- Dispose the controller. -/
  | dispose
  /-- Nothing. -/
  | nothing
  deriving DecidableEq, Repr

/-- How a list behaves. -/
structure ListScript where
  /-- What the URLs of its pages start with. -/
  start : String := ""
  /-- The parameter that holds the number of the page in these URLs. -/
  key : String := "page"
  /-- Whether these URLs have the other parameters of the list too. -/
  merge : Bool := false
  /-- Whether there is a view for failures. -/
  onError : Bool := false
  /-- The number of pages with which requests are answered at once, if they are. -/
  auto : Option Nat := none
  /-- What is done when a page is rendered, each once. -/
  onRender : List (Nat × RenderAction) := []
  /-- Whether descriptions are noted. -/
  describe : Bool := false

/-- A list that is shown: the script with the parameters, and the number under which is known what it
has done already. -/
structure Listing where
  /-- How the list behaves. -/
  script : ListScript
  /-- Its parameters. -/
  parameters : Parameters
  /-- The number of the run. -/
  run : Nat

/-- The URL of a page. -/
def Listing.urlForPage (l : Listing) (page : Nat) : String :=
  let own := Parameters.ofList [(l.script.key, toString page)]
  Segment.url l.script.start (if l.script.merge then l.parameters.merge own else own)

/-! ### Middlewares -/

/-- A call that a middleware makes. -/
inductive ScriptedCall where
  /-- A call that may take a while. -/
  | call (c : Call)
  /-- A change of the address in place. -/
  | inPlace (push : Bool) (url : String)
  deriving DecidableEq, Repr

/-- What a middleware does. -/
inductive Deed where
  /-- Note a label. -/
  | record (label : String)
  /-- Note the context under a label, and what can be asked of the navigator. -/
  | snapshot (label : String)
  /-- Note the descriptions of the context and of the navigator. -/
  | describe
  /-- Attach a controller with a name. -/
  | attach (name : String)
  /-- Set a parameter. -/
  | set (key value : String)
  /-- Set a value that the state of the page keeps. -/
  | extra (key value : String)
  /-- Remove a value that the state of the page keeps, and note it. -/
  | dropExtra (key : String)
  /-- Change the URL of the context. -/
  | setUrl (url : String)
  /-- Hold the scrolling back. -/
  | defer
  /-- Say that the page has rendered. -/
  | rendered
  /-- Note the name of the controller of the page. -/
  | controller
  /-- Refuse. -/
  | deny (reason : String)
  /-- Lead elsewhere. -/
  | redirect (target : String) (reason : Option String)
  /-- Decode the parameters in the capture with a key. -/
  | parse (key : String)
  /-- Ask for a privilege. -/
  | privilege (guard : PrivilegeGuard)
  /-- Ask whether unsaved changes may be lost. -/
  | confirmExit (message : String)
  /-- Wait at a gate until it is opened. -/
  | gate (id : String)
  /-- Make a call of the navigator. -/
  | navigate (call : ScriptedCall)
  /-- Show a list in a page controller and attach it. -/
  | list (label : String) (script : ListScript)
  /-- Nothing. -/
  | idle

/-- A middleware: its deed, and in which of its runs it does it. -/
structure Middleware where
  /-- The number of the middleware. -/
  number : Nat
  /-- What it does. -/
  deed : Deed
  /-- How many runs pass before. -/
  skip : Nat := 0
  /-- In how many runs it does it, if not in all further ones. -/
  times : Option Nat := none

instance : Named Middleware where
  name m :=
    match m.deed with
    | .deny _ => "deny"
    | .parse _ => "ParseParameters"
    | .privilege _ => "PrivilegeGuard"
    | .confirmExit _ => "ConfirmExit"
    | .gate _ => "RouteMiddleware"
    | .navigate _ => "RouteMiddleware"
    | _ => "FnMiddleware"

/-- Whether a middleware does its deed in a run, the first one being number zero. -/
def Middleware.acts (m : Middleware) (run : Nat) : Bool :=
  m.skip ≤ run && m.times.all fun times => run < m.skip + times

/-- A controller that notes what is asked of it. -/
structure Recorder where
  /-- Its name. -/
  name : String := "RouteController"
  deriving DecidableEq, Repr

instance : Named Recorder where
  name r := r.name

/-! ### The journal -/

/-- What can be asked of a navigator. -/
structure Inquiry where
  /-- What the navigator is doing. -/
  phase : Phase
  /-- The URL of the page. -/
  url : Option String
  /-- The parameters of the page. -/
  parameters : Parameters
  /-- The name of the controller of the page. -/
  controller : Option String
  /-- Whether there is an entry to go back to. -/
  back : Bool
  /-- Whether there is an entry to go forward to. -/
  forward : Bool
  /-- The number of entries in the history. -/
  history : Nat
  /-- The number of requests that wait. -/
  queued : Nat

/-- The result of a call that a middleware made. -/
inductive CallResult where
  /-- There is no navigator to call. -/
  | noNavigator
  /-- The outcome; a traversal that had nowhere to go has none. -/
  | made (outcome : Option Outcome)

/-- An entry of the journal. -/
inductive Note where
  /-- A label of a middleware. -/
  | label (text : String)
  /-- What the context was, and the answers of the navigator if there was one. -/
  | snapshot (label : String) (context : Context (Controller Recorder)) (navigator : Option Inquiry)
  /-- The texts of the context and of the navigator. -/
  | descriptions (context : String) (navigator : Option String)
  /-- A controller showed an error. -/
  | controllerError (name message : String)
  /-- A controller showed a success. -/
  | controllerSuccess (name message : String)
  /-- A controller was disposed. -/
  | controllerDisposed (name : String)
  /-- The value that was removed from the state of the page. -/
  | dropped (value : Option String)
  /-- The name of the controller that could be borrowed. -/
  | activeController (name : Option String)
  /-- A question about unsaved changes and its answer. -/
  | asked (message : String) (reply : Bool)
  /-- The result of a call that a middleware made. -/
  | fromMiddleware (result : CallResult)
  /-- A listener of a page controller was told an event. -/
  | event (event : PageEvent) (index : Nat) (label : String)
  /-- A page controller asked for a page. -/
  | fetch (page index : Nat)
  /-- A page was rendered, with the URLs of page zero and of the last page. -/
  | render (context : PageContext) (index : Nat) (links : List String)
  /-- The texts of what a render is given. -/
  | renderDescriptions (context handle : String)
  /-- A view for a failure was made. -/
  | errorView (message : String) (index : Nat)
  /-- The view of a page was disposed; the view for a failure counts as page zero. -/
  | viewDisposed (page index : Nat)
  /-- The text and the parameters of a list that is about to be shown. -/
  | request (description : String) (parameters : Parameters)

/-- What a session remembers. -/
structure State where
  /-- The journal, oldest note first. -/
  journal : Array Note := #[]
  /-- How often each middleware has run. -/
  runs : List (Nat × Nat) := []
  /-- The privileges that are held. -/
  privileges : List String := []
  /-- Whether there are unsaved changes. -/
  dirty : Bool := false
  /-- The answers that will be given to questions. -/
  replies : List Bool := []
  /-- The gates at which somebody waits, with the task that does. -/
  waiting : List (String × Option Nat) := []
  /-- The requests that nobody has answered: number, page controller and page. -/
  pending : List (Nat × Nat × Nat) := []
  /-- The page controllers of all renders, in order. -/
  pagers : List Nat := []
  /-- Who listens to each page controller. -/
  listeners : List (Subject String) := []
  /-- What the runs of lists still have to do while they are rendered. -/
  onRender : List (Nat × List (Nat × RenderAction)) := []
  /-- The number of the next run of a list. -/
  nextRun : Nat := 0
  /-- The number of the next call. -/
  nextCall : Nat := 0

/-- The types of a session. -/
abbrev application : Application where
  State := State
  Middleware := Middleware
  Feature := Recorder
  Past := Past
  Listing := Listing
  View := Nat

/-- The workspace of a session. -/
abbrev Desk := Workspace application

end Wayfinder.Session
