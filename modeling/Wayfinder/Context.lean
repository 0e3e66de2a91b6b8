/-
Contexts.

A context is made for a URL when it is matched and stays as long as its route is active. The entry
chain fills it in, the exit chain of the next navigation reads it. It may hold a controller, of any
type `κ` whose members have names; a controller that loses its place is to be disposed.
-/
import Wayfinder.Action
import Wayfinder.History
import Wayfinder.Route

namespace Wayfinder

/-- What is known about the route being entered, shown or left. -/
structure Context (κ : Type) where
  /-- The URL of the route. -/
  url : String
  /-- The URL that was current before. -/
  cameFrom : Option String := none
  /-- How the navigation was asked for. -/
  kind : Kind
  /-- The captures of the pattern, as they stand in the URL. -/
  captures : Parameters := .empty
  /-- The parameters, once a middleware has decoded them. -/
  parameters : Parameters := .empty
  /-- What the history entry keeps. -/
  state : HistoryState := {}
  /-- The name of the route. -/
  routeName : Option String := none
  /-- The pattern of the route as written. -/
  pattern : Option String := none
  /-- The controller of the page. -/
  controller : Option κ := none

namespace Context

variable {κ : Type}

/-- The context with a controller, and the one that was attached before. -/
def attach (c : Context κ) (controller : κ) : Context κ × Option κ :=
  ({ c with controller := some controller }, c.controller)

/-- The context without a controller, and the one that was attached. -/
def detach (c : Context κ) : Context κ × Option κ :=
  ({ c with controller := none }, c.controller)

/-- The name of the attached controller. -/
def controllerName? [Named κ] (c : Context κ) : Option String := c.controller.map Named.name

/-- The text of a context. -/
def describe [Named κ] (c : Context κ) : String :=
  Text.openRecord "NavigationContext"
    [("url", Text.quote c.url), ("from", Text.optionalQuote c.cameFrom),
     ("kind", c.kind.describe), ("captures", c.captures.describe),
     ("parameters", c.parameters.describe), ("route_name", Text.optionalQuote c.routeName),
     ("controller", Text.optionalQuote c.controllerName?)]

end Context

end Wayfinder
