/-
Guards.

Two decisions that middlewares often make. A privilege guard lets nobody enter who lacks a privilege;
an exit confirmation asks before a page with unsaved changes is left, and a yes counts as consent to
lose them.
-/
import Wayfinder.Action
import Wayfinder.Log
import Wayfinder.Route

namespace Wayfinder

/-- A guard that asks for a privilege. -/
structure PrivilegeGuard where
  /-- The privilege. -/
  privilege : String
  /-- The reason that is given. -/
  message : String := "You don't have privileges to access this page."
  /-- Where to go instead, if not to stay. -/
  redirect : Option String := none
  deriving DecidableEq, Repr

instance : Named PrivilegeGuard where
  name _ := "PrivilegeGuard"

namespace PrivilegeGuard

/-- The answer of a guard, given the privileges that are held. -/
def decide (g : PrivilegeGuard) (held : List String) : Action :=
  if held.contains g.privilege then .proceed
  else match g.redirect with
  | some target => .redirect target (some g.message)
  | none => .deny g.message

/-- What a guard reports about its answer. -/
def decideLog (g : PrivilegeGuard) (held : List String) : List LogRecord :=
  let privilege := g.privilege
  if held.contains privilege then []
  else match g.redirect with
  | some target => [.debug s!"Missing privilege '{privilege}', redirecting to '{target}'"]
  | none => [.debug s!"Missing privilege '{privilege}'"]

end PrivilegeGuard

namespace ConfirmExit

/-- The question if nothing else is said. -/
def defaultMessage : String :=
  "Are you sure you want to leave this page? Changes will be lost."

/-- The answer after the question, and whether there are unsaved changes afterwards. -/
def decide (agreed : Bool) : Action × Bool :=
  if agreed then (.proceed, false) else (.deny "Navigation cancelled", true)

/-- What is reported after the question about leaving a URL. -/
def decideLog (url : String) (agreed : Bool) : List LogRecord :=
  if agreed then [] else [.warn s!"Leaving '{url}' cancelled by the user"]

end ConfirmExit

end Wayfinder
