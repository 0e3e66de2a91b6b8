/-
Steps of a session.

A session is driven from outside step by step: calls of the navigator, calls of page controllers, and
everything that happens to an application by itself. Each step has a result, and after it a report says
what can be seen of the session.
-/
import Wayfinder.Session.Behaviour

namespace Wayfinder.Session

/-- What is done with the controller of the page while it is borrowed. -/
inductive Borrowing where
  /-- Have it show an error. -/
  | showError (message : String)
  /-- Have it show a success. -/
  | showSuccess (message : String)
  /-- Borrow it once more. -/
  | borrowAgain
  /-- Make a call, which is given up where it would have to wait. -/
  | navigate (call : ScriptedCall)
  /-- Read its name. -/
  | readName
  deriving DecidableEq, Repr

/-- A step. -/
inductive Step where
  /-- Make calls of the navigator. -/
  | call (calls : List Call)
  /-- Change the address in place. -/
  | inPlace (push : Bool) (url : String)
  /-- Open a gate for all that wait at it. -/
  | openGate (id : String)
  /-- Scroll. -/
  | scrollTo (p : ScrollPosition)
  /-- Say that the page has rendered. -/
  | rendered
  /-- Hold the scrolling back. -/
  | defer
  /-- Say whether there are unsaved changes. -/
  | setDirty (dirty : Bool)
  /-- Give a privilege. -/
  | grant (privilege : String)
  /-- Take a privilege away. -/
  | revoke (privilege : String)
  /-- Add an answer to be given to a question. -/
  | prepareReply (reply : Bool)
  /-- Read the settings. -/
  | config
  /-- Build the URL of a route with a name. -/
  | urlFor (name : String) (params : Parameters)
  /-- Borrow the controller of the page. -/
  | borrow (use : Borrowing)
  /-- Read descriptions. -/
  | describe
  /-- Hold the navigator no longer. -/
  | dropNavigator
  /-- Give all tasks up. -/
  | closePool
  /-- Make a page controller. -/
  | newList (label : String)
  /-- Show a list in a page controller. -/
  | runList (index : Nat) (script : ListScript) (parameters : Parameters)
  /-- Change the page of a page controller. -/
  | changePage (index page : Nat)
  /-- Dispose a page controller. -/
  | closeList (index : Nat)
  /-- Have a page controller show an error. -/
  | showError (index : Nat) (message : String)
  /-- Count the listeners of a page controller. -/
  | countListeners (index : Nat)
  /-- Hold a page controller no longer. -/
  | forgetList (index : Nat)
  /-- Change the page from within a render, by default from the latest one. -/
  | changePageFrom (render : Option Nat) (page : Nat)
  /-- Answer the oldest request for a page. -/
  | reply (page : Nat) (answer : Except FetchError PageResult)
  /-- Nothing that is known. -/
  | unknown

/-- The result of a step. -/
inductive StepResult where
  /-- Nothing to tell. -/
  | nothing
  /-- A truth value. -/
  | truth (value : Bool)
  /-- A number. -/
  | number (value : Nat)
  /-- A text, if there is one. -/
  | text (value : Option String)
  /-- The outcome of a call that was made at once, if it came to an end. -/
  | outcome (value : Option Outcome)
  /-- The settings of the navigator. -/
  | config (value : Config)
  /-- What came of using the borrowed controller. -/
  | borrowed (value : StepResult)
  /-- The texts of the navigator, of the link that page controllers hold to it, and of the page
  controllers, and whether the navigator is still there. -/
  | descriptions (navigator : Option String) (link : String) (alive : Bool)
      (lists : List (Option String))
  /-- There is no render from which the page could be changed. -/
  | noRender
  /-- There is no request to be answered. -/
  | noRequest
  /-- The step is not known. -/
  | unknown

/-- What can be seen of a session after a step. -/
structure Report where
  /-- The result of the step. -/
  result : StepResult
  /-- The numbers of the calls that were made. -/
  tasks : List Nat
  /-- The calls that have ended, with their outcomes. -/
  finished : List (Nat × Option Outcome)
  /-- The notes since the step before. -/
  journal : List Note
  /-- What can be asked of the navigator, while it is held. -/
  navigator : Option Inquiry
  /-- The history. -/
  history : MemoryHistory
  /-- The surface that pages are shown on. -/
  viewport : Viewport
  /-- Whether there are unsaved changes. -/
  dirty : Bool
  /-- The status and the page of each page controller that is held. -/
  pages : List (Option (PageStatus × Option Nat))
  /-- The pages that have been asked for and not been answered. -/
  pending : List Nat

end Wayfinder.Session
