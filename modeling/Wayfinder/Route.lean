/-
Routes.

A route couples a pattern with two chains of middlewares: one runs when the route is entered, one
when it is left. Middlewares are of any type `μ` whose members have names.
-/
import Wayfinder.Pattern

namespace Wayfinder

/-- Things that have a name in logs and descriptions. -/
class Named (α : Type) where
  /-- The name. -/
  name : α → String

/-- A text is its own name. -/
instance : Named String := ⟨id⟩

/-- The text of a chain: the names of its middlewares. -/
def describeChain {μ : Type} [Named μ] (chain : List μ) : String :=
  Text.bracketed (chain.map fun m => Text.quote (Named.name m))

/-- A pattern with the middlewares of its route. -/
structure Route (μ : Type) where
  /-- The pattern as written. -/
  source : String
  /-- The pattern, or what is wrong with it; that is reported when a navigator is set up. -/
  pattern : Except NavigationError RoutePattern
  /-- The name under which URLs of the route can be built. -/
  name : Option String := none
  /-- What runs when the route is entered. -/
  entry : List μ := []
  /-- What runs when the route is left. -/
  exit : List μ := []

namespace Route

variable {μ : Type}

/-- The route of a pattern, without name and middlewares. -/
def new (source : String) : Route μ := { source, pattern := RoutePattern.parse source }

/-- The route that every URL matches. -/
def catchAll : Route μ := { source := "*", pattern := .ok RoutePattern.catchAll }

/-- Whether every URL matches. -/
def isCatchAll (r : Route μ) : Bool :=
  match r.pattern with
  | .ok p => p.isCatchAll
  | .error _ => false

/-- The captures of a URL that matches; with an invalid pattern there are none. -/
def captures? (r : Route μ) (url : String) : Option Parameters :=
  match r.pattern with
  | .ok p => p.captures? url
  | .error _ => none

/-- The URL for given captures. -/
def build? (r : Route μ) (params : Parameters) : Option String :=
  match r.pattern with
  | .ok p => p.build? params
  | .error _ => none

/-- The text of a route. -/
def describe [Named μ] (r : Route μ) : String :=
  Text.record "Route"
    [("pattern", Text.quote r.source), ("name", Text.optionalQuote r.name),
     ("entry", describeChain r.entry), ("exit", describeChain r.exit)]

end Route

end Wayfinder
