/-
Route tables.

Routes are tried in the order in which they were registered, and the first one that matches is taken.
So a catch-all has to be the last route. Besides the chains of the routes a table holds the
middlewares that run before them, on every entry and on every exit.

* `RouteTable.firstMatch`: which route a URL leads to.
* `RouteTable.resolve`: the same with the help of the cache.
* `RouteTable.validate`: whether a table can be used.
-/
import Wayfinder.ResolveCache
import Wayfinder.Route

namespace Wayfinder

/-- The route that a URL leads to, by its index, and the captures of the URL. -/
structure RouteMatch where
  /-- The index of the route. -/
  index : Nat
  /-- The captures. -/
  captures : Parameters
  deriving DecidableEq

/-- Routes in order of registration, with the middlewares of all of them. -/
structure RouteTable (μ : Type) where
  /-- The routes. -/
  routes : List (Route μ) := []
  /-- What runs before the entry chain of every route. -/
  enterAll : List μ := []
  /-- What runs before the exit chain of every route. -/
  exitAll : List μ := []
  /-- The URLs resolved last. -/
  cache : ResolveCache := .empty ResolveCache.defaultCapacity

namespace RouteTable

variable {μ : Type}

/-- A table without routes whose cache remembers a given number of URLs. -/
def withCacheCapacity (capacity : Nat) : RouteTable μ := { cache := .empty capacity }

/-- Add a route behind the others. -/
def register (t : RouteTable μ) (route : Route μ) : RouteTable μ :=
  { t with routes := t.routes ++ [route], cache := t.cache.clear }

/-- What is reported when a route is registered. -/
def registerLog (t : RouteTable μ) (route : Route μ) : List LogRecord :=
  let number := toString t.routes.length
  let source := route.source
  .info s!"Registering route #{number} '{source}'" :: t.cache.clearLog

/-- Whether the last route is a catch-all. -/
def endsInCatchAll (t : RouteTable μ) : Bool := t.routes.getLast?.any (·.isCatchAll)

/-- Check that the table can be used: all patterns are valid, no catch-all stands before another
route, and if one is required there is a catch-all. -/
def validate (t : RouteTable μ) (requireCatchAll : Bool) : Except NavigationError Unit :=
  match t.routes.findSome? fun r => match r.pattern with
      | .error e => some e
      | .ok _ => none with
  | some e => .error e
  | none =>
    match t.routes.dropLast.find? (·.isCatchAll) with
    | some r => .error (.catchAllNotLast r.source)
    | none =>
      if requireCatchAll && !t.endsInCatchAll then .error .missingCatchAll else .ok ()

/-- What is reported when a table is checked. -/
def validateLog (t : RouteTable μ) (requireCatchAll : Bool) : List LogRecord :=
  match t.validate requireCatchAll with
  | .error _ => []
  | .ok _ =>
    let number := toString t.routes.length
    let last := Text.boolean t.endsInCatchAll
    [.debug s!"Route table valid: {number} routes, catch-all: {last}"]

/-- The first of the routes, counted from `index`, that a URL matches. -/
def firstMatchFrom (url : String) (index : Nat) : List (Route μ) → Option RouteMatch
  | [] => none
  | r :: rest =>
    match r.captures? url with
    | some captures => some ⟨index, captures⟩
    | none => firstMatchFrom url (index + 1) rest

/-- The first route that a URL matches. -/
def firstMatch (t : RouteTable μ) (url : String) : Option RouteMatch :=
  firstMatchFrom url 0 t.routes

/-- A remembered match, if its route is there. -/
def remembered (t : RouteTable μ) (found : Option (Nat × Parameters)) : Option RouteMatch :=
  match found with
  | some (index, captures) => if index < t.routes.length then some ⟨index, captures⟩ else none
  | none => none

/-- The route that a URL leads to. It is taken from the cache if it is there, and put there
otherwise. -/
def resolve (t : RouteTable μ) (url : String) : RouteTable μ × Option RouteMatch :=
  let (cache, found) := t.cache.get url
  match t.remembered found with
  | some m => ({ t with cache }, some m)
  | none =>
    match t.firstMatch url with
    | some m => ({ t with cache := cache.insert url m.index m.captures }, some m)
    | none => ({ t with cache }, none)

/-- What runs when the route with an index is entered. -/
def entryChain (t : RouteTable μ) (index : Nat) : List μ :=
  t.enterAll ++ (t.routes[index]?.map (·.entry)).getD []

/-- What runs when a page is left. A page without a route has only what runs on every exit. -/
def exitChain (t : RouteTable μ) (index : Option Nat) : List μ :=
  t.exitAll ++ (index.bind fun i => t.routes[i]?.map (·.exit)).getD []

/-- The pattern of the route with an index. -/
def sourceAt (t : RouteTable μ) (index : Nat) : String :=
  (t.routes[index]?.map (·.source)).getD ""

/-- What is reported when a URL is resolved. -/
def resolveLog (t : RouteTable μ) (url : String) : List LogRecord :=
  let looked := t.cache.getLog url
  match t.remembered (t.cache.get url).2, t.firstMatch url with
  | none, some m =>
    let index := toString m.index
    let source := t.sourceAt m.index
    looked ++ [.trace s!"'{url}' resolved to route #{index} '{source}'"]
  | _, _ => looked

/-- The URL of the first route with a name. -/
def urlFor (t : RouteTable μ) (name : String) (params : Parameters) : Option String :=
  (t.routes.find? (·.name == some name)).bind (·.build? params)

/-- The text of a match. -/
def describeMatch (t : RouteTable μ) (m : RouteMatch) : String :=
  Text.record "RouteMatch"
    [("pattern", Text.quote (t.sourceAt m.index)), ("captures", m.captures.describe)]

/-- The text of a table. -/
def describe [Named μ] (t : RouteTable μ) : String :=
  Text.openRecord "RouteTable"
    [("routes", Text.bracketed (t.routes.map (·.describe))),
     ("enter_all", describeChain t.enterAll), ("exit_all", describeChain t.exitAll)]

end RouteTable

end Wayfinder
