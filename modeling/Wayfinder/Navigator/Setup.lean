/-
Setting a navigator up.

Everything that is wrong with the settings or the routes is found when a navigator is set up, not
while it is used.
-/
import Wayfinder.Navigator.State

namespace Wayfinder

/-- What a navigator is made of. -/
structure Setup (μ κ η : Type) where
  /-- The settings. -/
  config : Config := {}
  /-- The routes, in the order in which they are tried. -/
  routes : List (Route μ) := []
  /-- What runs before the entry chain of every route. -/
  enterAll : List μ := []
  /-- What runs before the exit chain of every route. -/
  exitAll : List μ := []
  /-- The history. -/
  history : η
  /-- The surface that pages are shown on. -/
  viewport : Viewport := {}
  /-- The controllers for pages that cannot be shown. -/
  handlers : Handlers κ := {}

namespace Setup

variable {μ κ η : Type}

/-- A table with the routes registered one after the other. -/
def registered (t : RouteTable μ) (routes : List (Route μ)) : RouteTable μ :=
  routes.foldl RouteTable.register t

/-- What is reported when the routes are registered. -/
def registeredLog (t : RouteTable μ) : List (Route μ) → List LogRecord
  | [] => []
  | r :: rest => t.registerLog r ++ registeredLog (t.register r) rest

/-- The route table. -/
def table (s : Setup μ κ η) : RouteTable μ :=
  { registered (.withCacheCapacity s.config.cacheCapacity) s.routes with
    enterAll := s.enterAll, exitAll := s.exitAll }

/-- The navigator, or the first thing that is wrong: first with the settings, then with the routes. -/
def build (s : Setup μ κ η) : Except NavigationError (Navigator μ κ η) := do
  s.config.validate
  s.table.validate s.config.requireCatchAll
  return { config := s.config, table := s.table, history := s.history, viewport := s.viewport,
           scroll := .empty s.config.scrollCapacity, handlers := s.handlers }

/-- What is reported when a navigator is set up. -/
def buildLog (s : Setup μ κ η) : List LogRecord :=
  match s.config.validate with
  | .error e => [.error ("Rejected navigator configuration: " ++ e.message)]
  | .ok _ =>
    let registering := registeredLog (.withCacheCapacity s.config.cacheCapacity) s.routes
    match s.table.validate s.config.requireCatchAll with
    | .error e => registering ++ [.error ("Rejected route table: " ++ e.message)]
    | .ok _ =>
      let number := toString s.table.routes.length
      registering ++ s.table.validateLog s.config.requireCatchAll ++
        [.info s!"Navigator ready with {number} routes"]

end Setup

end Wayfinder
