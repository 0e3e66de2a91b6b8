/-
The resolve cache.

The table remembers which route the URLs looked up last have led to, with their captures, and counts
how often that helped. Every change of the routes clears the cache.
-/
import Wayfinder.Log
import Wayfinder.Parameters
import Wayfinder.RecentMap
import Wayfinder.Text.Fixed

namespace Wayfinder

/-- How often the cache was asked and cleared. -/
structure CacheStats where
  /-- Lookups that were answered. -/
  hits : Nat := 0
  /-- Lookups that were not. -/
  misses : Nat := 0
  /-- How often the cache was cleared. -/
  invalidations : Nat := 0
  deriving DecidableEq, Repr, Inhabited

/-- The part of the lookups that were answered; zero if there were none. -/
def CacheStats.hitRate (s : CacheStats) : Text.Binary :=
  Text.Binary.nearest s.hits (s.hits + s.misses)

/-- The routes that URLs have led to, with their captures. -/
structure ResolveCache where
  /-- The index of the route and the captures of each URL. -/
  found : RecentMap (Nat × Parameters)
  /-- The counters. -/
  stats : CacheStats := {}

namespace ResolveCache

/-- How many URLs are remembered if nothing else is said. -/
def defaultCapacity : Nat := 256

/-- A cache without entries. -/
def empty (capacity : Nat) : ResolveCache := { found := .empty capacity }

/-- The cache without entries; the counters go on. -/
def clear (c : ResolveCache) : ResolveCache :=
  { found := c.found.clear, stats := { c.stats with invalidations := c.stats.invalidations + 1 } }

/-- What is reported when the cache is cleared. -/
def clearLog (c : ResolveCache) : List LogRecord :=
  let size := toString c.found.size
  let times := toString (c.stats.invalidations + 1)
  let rate := (c.stats.hitRate.scale 100).fixed 1
  [.debug s!"Resolve cache cleared: {size} entries removed ({times} total invalidations, hit rate: {rate}%)"]

/-- Look a URL up. -/
def get (c : ResolveCache) (url : String) : ResolveCache × Option (Nat × Parameters) :=
  match c.found.peek? url with
  | some found =>
    ({ found := c.found.touch url, stats := { c.stats with hits := c.stats.hits + 1 } }, some found)
  | none => ({ c with stats := { c.stats with misses := c.stats.misses + 1 } }, none)

/-- What is reported when a URL is looked up. -/
def getLog (c : ResolveCache) (url : String) : List LogRecord :=
  match c.found.peek? url with
  | some _ => [.trace s!"Resolve cache hit for '{url}'"]
  | none => [.trace s!"Resolve cache miss for '{url}'"]

/-- Remember where a URL has led. -/
def insert (c : ResolveCache) (url : String) (index : Nat) (captures : Parameters) : ResolveCache :=
  { c with found := c.found.put url (index, captures) }

/-- Start counting from zero. -/
def resetStats (c : ResolveCache) : ResolveCache := { c with stats := {} }

end ResolveCache

end Wayfinder
