/-
Settings.

The settings of a navigator, each with a default, and the check that all of them are in range.
-/
import Wayfinder.Outcome
import Wayfinder.ResolveCache

namespace Wayfinder

/-- The settings of a navigator. -/
structure Config where
  /-- The parameter that holds the number of a page. -/
  pageKey : String := "page"
  /-- The capture that holds encoded parameters. -/
  parametersKey : String := "parameters"
  /-- How many URLs the scroll store remembers. -/
  scrollCapacity : Nat := 100
  /-- How many redirects in a row are followed. -/
  maxRedirects : Nat := 5
  /-- Whether the last route has to be a catch-all. -/
  requireCatchAll : Bool := false
  /-- Whether the navigator scrolls: back to where a page was left, or to the top. -/
  restoreScroll : Bool := true
  /-- How many URLs the resolve cache remembers. -/
  cacheCapacity : Nat := ResolveCache.defaultCapacity
  deriving DecidableEq, Repr, Inhabited

/-- The first setting that is out of range. -/
def Config.validate (c : Config) : Except NavigationError Unit :=
  if c.pageKey.isEmpty then .error (.invalidConfig "page_key must not be empty")
  else if c.parametersKey.isEmpty then .error (.invalidConfig "parameters_key must not be empty")
  else if c.scrollCapacity = 0 then
    .error (.invalidConfig "scroll_capacity must be at least 1")
  else if c.maxRedirects = 0 then
    .error (.invalidConfig "max_redirect_depth must be at least 1")
  else if c.cacheCapacity = 0 then
    .error (.invalidConfig "cache_capacity must be at least 1")
  else .ok ()

end Wayfinder
