/-
Actions, phases and kinds.

The small vocabulary of navigation: what a middleware answers (`Action`), what a navigator is busy
with (`Phase`), and how a navigation was asked for (`Kind`), which decides what it does to the
history.
-/
import Wayfinder.Text.Layout

namespace Wayfinder

/-- The answer of a middleware. -/
inductive Action where
  /-- Hand over to the next middleware. -/
  | proceed
  /-- Refuse the navigation. -/
  | deny (reason : String)
  /-- Give this navigation up and go somewhere else. -/
  | redirect (target : String) (reason : Option String)
  deriving DecidableEq, Repr, Inhabited

namespace Action

/-- Whether the navigation goes on. -/
def isProceed : Action → Bool
  | proceed => true
  | _ => false

/-- Whether the navigation is refused. -/
def isDeny : Action → Bool
  | deny _ => true
  | _ => false

/-- Whether the navigation is led elsewhere. -/
def isRedirect : Action → Bool
  | redirect _ _ => true
  | _ => false

/-- Where a redirect leads. -/
def target? : Action → Option String
  | redirect target _ => some target
  | _ => none

/-- The text of an action. -/
def describe : Action → String
  | proceed => "Continue"
  | deny reason => Text.record "Deny" [("reason", Text.quote reason)]
  | redirect target reason =>
    Text.record "Redirect" [("to", Text.quote target), ("reason", Text.optionalQuote reason)]

end Action

/-- What a navigator is doing. Requests that arrive in any phase but the first are queued. -/
inductive Phase where
  /-- No navigation is in progress. -/
  | idle
  /-- The exit chain of the active route runs. -/
  | exiting
  /-- The target is looked up in the route table. -/
  | matching
  /-- The entry chain of the matched route runs. -/
  | entering
  deriving DecidableEq, Repr, Inhabited

/-- The name of a phase. -/
def Phase.describe : Phase → String
  | idle => "Idle"
  | exiting => "ExitingOld"
  | matching => "MatchingNew"
  | entering => "EnteringNew"

/-- How a navigation was asked for. -/
inductive Kind where
  /-- A new history entry. -/
  | push
  /-- The current history entry, rewritten. -/
  | replace
  /-- One entry back in the history. -/
  | back
  /-- One entry forward in the history. -/
  | forward
  deriving DecidableEq, Repr, Inhabited

namespace Kind

/-- How far a kind of navigation moves in the history, if it moves. -/
def offset? : Kind → Option Int
  | back => some (-1)
  | forward => some 1
  | push | replace => none

/-- Whether a kind of navigation goes to an entry that exists. -/
def isTraversal : Kind → Bool
  | back | forward => true
  | push | replace => false

/-- The traversals are the kinds that move. -/
theorem isTraversal_eq (k : Kind) : k.isTraversal = k.offset?.isSome := by cases k <;> rfl

/-- The name of a kind. -/
def describe : Kind → String
  | push => "Push"
  | replace => "Replace"
  | back => "Back"
  | forward => "Forward"

end Kind

end Wayfinder
