/-
Outcomes.

How a navigation ends (`Outcome`), and the errors of setting up and of navigating (`NavigationError`)
with their wording. `FetchError` is the failure of a page load, which is shown to people as it is.
-/
import Wayfinder.Text.Layout

namespace Wayfinder

/-- What is wrong with a setup or with a navigation. -/
inductive NavigationError where
  /-- A middleware did not let the navigation happen. -/
  | refused (reason : String)
  /-- A route pattern that cannot be read. -/
  | invalidPattern (pattern message : String)
  /-- A catch-all route is required and there is none. -/
  | missingCatchAll
  /-- Routes after a catch-all could never match. -/
  | catchAllNotLast (pattern : String)
  /-- Middlewares redirected more often in a row than allowed. -/
  | redirectLoop (depth : Nat) (url : String)
  /-- A setting is out of range. -/
  | invalidConfig (message : String)
  deriving DecidableEq, Repr, Inhabited

namespace NavigationError

/-- The wording of an error. -/
def message : NavigationError → String
  | refused reason => s!"Navigation refused: {reason}"
  | invalidPattern pattern text => s!"Invalid route pattern '{pattern}': {text}"
  | missingCatchAll => "No catch-all route registered"
  | catchAllNotLast pattern => s!"Catch-all route '{pattern}' must be registered last"
  | redirectLoop depth url => s!"Redirect loop detected (depth {depth}): target '{url}'"
  | invalidConfig text => s!"Invalid configuration: {text}"

/-- The text of an error with its parts. -/
def describe : NavigationError → String
  | refused reason => Text.record "Refused" [("reason", Text.quote reason)]
  | invalidPattern pattern text =>
    Text.record "InvalidPattern" [("pattern", Text.quote pattern), ("message", Text.quote text)]
  | missingCatchAll => "MissingCatchAll"
  | catchAllNotLast pattern => Text.record "CatchAllNotLast" [("pattern", Text.quote pattern)]
  | redirectLoop depth url =>
    Text.record "RedirectLoop" [("depth", toString depth), ("url", Text.quote url)]
  | invalidConfig text => Text.record "InvalidConfig" [("message", Text.quote text)]

end NavigationError

/-- How a navigation ended. -/
inductive Outcome where
  /-- The URL is now the current one. -/
  | success (url : String)
  /-- Another navigation is in progress; this one follows it. -/
  | queued (url : String)
  /-- No route matches the URL. -/
  | notFound (url : String)
  /-- A middleware refused, possibly leading elsewhere. -/
  | blocked (reason : String) (redirect : Option String)
  /-- The navigation failed. -/
  | failed (error : NavigationError)
  deriving DecidableEq, Repr, Inhabited

namespace Outcome

/-- Whether the navigation was made. -/
def isSuccess : Outcome → Bool
  | success _ => true
  | _ => false

/-- Whether the navigation waits for another one. -/
def isQueued : Outcome → Bool
  | queued _ => true
  | _ => false

/-- Whether no route matched. -/
def isNotFound : Outcome → Bool
  | notFound _ => true
  | _ => false

/-- Whether a middleware refused. -/
def isBlocked : Outcome → Bool
  | blocked _ _ => true
  | _ => false

/-- Whether the navigation failed. -/
def isFailed : Outcome → Bool
  | failed _ => true
  | _ => false

/-- Where a refused navigation is led. -/
def redirect? : Outcome → Option String
  | blocked _ redirect => redirect
  | _ => none

/-- The text of an outcome with its parts. -/
def describe : Outcome → String
  | success url => Text.record "Success" [("url", Text.quote url)]
  | queued url => Text.record "Queued" [("url", Text.quote url)]
  | notFound url => Text.record "NotFound" [("url", Text.quote url)]
  | blocked reason redirect =>
    Text.record "Blocked" [("reason", Text.quote reason), ("redirect", Text.optionalQuote redirect)]
  | failed error => Text.applied "Error" error.describe

end Outcome

/-- The failure of a page load: a message for people. -/
structure FetchError where
  /-- What is shown. -/
  message : String
  deriving DecidableEq, Repr, Inhabited

/-- The text of a failed load with its parts. -/
def FetchError.describe (e : FetchError) : String :=
  Text.record "FetchError" [("message", Text.quote e.message)]

end Wayfinder
