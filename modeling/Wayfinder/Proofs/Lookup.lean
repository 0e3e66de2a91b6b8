/-
Looking URLs up while routes are registered.

A route table is filled and asked in any order. `RouteTable.after` is the table after some uses, and
`IsFirst` says which of the registered routes a URL leads to, without a word about the cache: the
first one that matches. Whatever the cache has kept or forgotten on the way, the table gives that
route with its captures, and its counters tell how often it was used.

* `isFirst_iff`: the search finds the first route that matches.
* `Coherent.after`, `resolves_after`: what a run of uses keeps up, and what it counts.
-/
import Wayfinder.Proofs.Resolve

namespace Wayfinder

variable {μ : Type}

/-! ### The first route that matches -/

/-- A URL leads to a match among some routes: the route with its index has these captures for it, and
no route before has any. -/
def IsFirst (routes : List (Route μ)) (url : String) (m : RouteMatch) : Prop :=
  ∃ before route after, routes = before ++ route :: after ∧ before.length = m.index ∧
    (∀ r ∈ before, r.captures? url = none) ∧ route.captures? url = some m.captures

/-- A route that does not match is passed over. -/
lemma isFirst_cons {route : Route μ} {rest : List (Route μ)} {url : String} {captures : Parameters}
    {index : Nat} (other : route.captures? url = none) :
    IsFirst (route :: rest) url ⟨index, captures⟩ ↔
      ∃ k, index = k + 1 ∧ IsFirst rest url ⟨k, captures⟩ := by
  constructor
  · rintro ⟨_ | ⟨r, before⟩, found, after, split, rfl, none, matched⟩
    · obtain ⟨rfl, rfl⟩ := List.cons_eq_cons.mp split
      cases other.symm.trans matched
    · obtain ⟨rfl, rfl⟩ := List.cons_eq_cons.mp split
      exact ⟨before.length, rfl, before, found, after, rfl, rfl,
        fun r mem => none r (.tail _ mem), matched⟩
  · rintro ⟨k, rfl, before, found, after, rfl, rfl, none, matched⟩
    refine ⟨route :: before, found, after, rfl, rfl, fun r mem => ?_, matched⟩
    rcases List.mem_cons.mp mem with rfl | mem
    · exact other
    · exact none r mem

/-- A route that matches is taken. -/
lemma isFirst_cons_self {route : Route μ} {rest : List (Route μ)} {url : String} {m : RouteMatch}
    {captures : Parameters} (matched : route.captures? url = some captures) :
    IsFirst (route :: rest) url m ↔ m = ⟨0, captures⟩ := by
  constructor
  · rintro ⟨_ | ⟨r, before⟩, found, after, split, index, none, matched'⟩
    · obtain ⟨rfl, rfl⟩ := List.cons_eq_cons.mp split
      obtain ⟨_, _⟩ := m
      obtain rfl : 0 = _ := index
      obtain rfl := Option.some.inj (matched.symm.trans matched')
      rfl
    · obtain ⟨rfl, rfl⟩ := List.cons_eq_cons.mp split
      cases matched.symm.trans (none _ (List.mem_cons_self ..))
  · rintro rfl
    exact ⟨[], route, rest, rfl, rfl, by simp, matched⟩

namespace RouteTable

/-- The search that starts to count at an index finds the first route that matches. -/
lemma firstMatchFrom_eq_some {routes : List (Route μ)} {url : String} {index : Nat}
    {m : RouteMatch} :
    firstMatchFrom url index routes = some m ↔
      ∃ k, m.index = index + k ∧ IsFirst routes url ⟨k, m.captures⟩ := by
  induction routes generalizing index with
  | nil =>
    refine ⟨by rintro ⟨⟩, ?_⟩
    rintro ⟨k, -, before, route, after, split, -⟩
    cases before <;> cases split
  | cons route rest ih =>
    rcases matched : route.captures? url with _ | captures
    · simp only [firstMatchFrom, matched, ih, isFirst_cons matched]
      constructor
      · rintro ⟨k, h, first⟩
        exact ⟨k + 1, by omega, k, rfl, first⟩
      · rintro ⟨_, h, k, rfl, first⟩
        exact ⟨k, by omega, first⟩
    · simp only [firstMatchFrom, matched, isFirst_cons_self matched]
      constructor
      · rintro h
        obtain rfl := Option.some.inj h
        exact ⟨0, rfl, rfl⟩
      · rintro ⟨k, h, same⟩
        obtain ⟨rfl, rfl⟩ := RouteMatch.mk.inj same
        rw [show index = m.index from h.symm]

lemma isFirst_iff {t : RouteTable μ} {url : String} {m : RouteMatch} :
    t.firstMatch url = some m ↔ IsFirst t.routes url m := by
  rw [firstMatch, firstMatchFrom_eq_some]
  constructor
  · rintro ⟨k, h, first⟩
    rwa [← show m.index = k from h.trans (Nat.zero_add k)] at first
  · exact fun first => ⟨m.index, (Nat.zero_add _).symm, first⟩

/-- The search finds nothing exactly when no route matches. -/
lemma firstMatch_eq_none {t : RouteTable μ} {url : String} :
    t.firstMatch url = none ↔ ∀ r ∈ t.routes, r.captures? url = none := by
  rw [firstMatch]
  generalize 0 = index
  induction t.routes generalizing index with
  | nil => simp [firstMatchFrom]
  | cons route rest ih =>
    rcases matched : route.captures? url with _ | captures <;>
      simp [firstMatchFrom, matched, ih]

/-! ### Uses -/

/-- What is done with a route table. -/
inductive Use (μ : Type) where
  /-- A route is registered. -/
  | register (route : Route μ)
  /-- A URL is looked up. -/
  | resolve (url : String)

namespace Use

/-- The route that a use registers. -/
def route? : Use μ → Option (Route μ)
  | register route => some route
  | resolve _ => none

/-- The URL that a use looks up. -/
def url? : Use μ → Option String
  | register _ => none
  | resolve url => some url

end Use

/-- The table after a use. -/
def use (t : RouteTable μ) : Use μ → RouteTable μ
  | .register route => t.register route
  | .resolve url => (t.resolve url).1

/-- The table after some uses. -/
def after (t : RouteTable μ) (uses : List (Use μ)) : RouteTable μ := uses.foldl use t

/-- A table that is cleared remembers nothing wrong. -/
lemma coherent_register (t : RouteTable μ) (route : Route μ) : (t.register route).Coherent := by
  intro e mem
  cases mem

lemma Coherent.use {t : RouteTable μ} (coherent : t.Coherent) (u : Use μ) : (t.use u).Coherent := by
  cases u with
  | register route => exact coherent_register t route
  | resolve url => exact (resolve_eq coherent url).2.coherent

/-- However a table is used, it remembers nothing wrong. -/
lemma Coherent.after {t : RouteTable μ} (coherent : t.Coherent) (uses : List (Use μ)) :
    (t.after uses).Coherent := by
  induction uses generalizing t with
  | nil => exact coherent
  | cons u uses ih => exact ih (coherent.use u)

/-- Looking a URL up changes no route, and counts one lookup. -/
lemma resolve_counts (t : RouteTable μ) (url : String) :
    (t.resolve url).1.routes = t.routes ∧
      (t.resolve url).1.cache.stats.hits + (t.resolve url).1.cache.stats.misses =
        t.cache.stats.hits + t.cache.stats.misses + 1 ∧
      (t.resolve url).1.cache.stats.invalidations = t.cache.stats.invalidations := by
  have counts : (t.cache.get url).1.stats.hits + (t.cache.get url).1.stats.misses =
      t.cache.stats.hits + t.cache.stats.misses + 1 ∧
      (t.cache.get url).1.stats.invalidations = t.cache.stats.invalidations := by
    unfold ResolveCache.get
    split
    · exact ⟨by dsimp only; omega, rfl⟩
    · exact ⟨by dsimp only; omega, rfl⟩
  unfold resolve
  rcases looked : t.cache.get url with ⟨cache, found⟩
  rw [looked] at counts
  rcases h : t.remembered found with _ | m
  · rcases first : t.firstMatch url with _ | m
    · simp only [h]
      exact ⟨trivial, counts⟩
    · simp only [h]
      exact ⟨trivial, counts⟩
  · simp only [h]
    exact ⟨trivial, counts⟩

/-- What uses add to a table: the routes that were registered, in order, and to its counters every
lookup and every registration. -/
lemma counts_after (t : RouteTable μ) (uses : List (Use μ)) :
    (t.after uses).routes = t.routes ++ uses.filterMap Use.route? ∧
      (t.after uses).cache.stats.hits + (t.after uses).cache.stats.misses =
        t.cache.stats.hits + t.cache.stats.misses + (uses.filterMap Use.url?).length ∧
      (t.after uses).cache.stats.invalidations =
        t.cache.stats.invalidations + (uses.filterMap Use.route?).length := by
  induction uses generalizing t with
  | nil => simp [after]
  | cons u uses ih =>
    obtain ⟨routes, lookups, invalidations⟩ := ih (t.use u)
    rw [after, List.foldl_cons, ← after, routes, lookups, invalidations]
    cases u with
    | register route =>
      simp only [use, register, ResolveCache.clear, List.filterMap_cons, Use.route?, Use.url?,
        List.append_assoc, List.singleton_append, List.length_cons]
      exact ⟨trivial, trivial, by omega⟩
    | resolve url =>
      obtain ⟨same, lookup, kept⟩ := t.resolve_counts url
      simp only [use, same, lookup, kept, List.filterMap_cons, Use.route?, Use.url?,
        List.length_cons]
      exact ⟨trivial, by omega, trivial⟩

/-- The cache changes nothing. However many URLs a table remembers, and whatever was registered and
looked up before: a URL leads to the first of the routes registered so far that matches, with the
captures of that route, and nowhere exactly when none of them matches. Hits and misses are together
the lookups so far, and the cache was cleared at every registration. -/
theorem resolves_after (capacity : Nat) (uses : List (Use μ)) (url : String) :
    let t := (withCacheCapacity capacity : RouteTable μ).after uses
    let routes := uses.filterMap Use.route?
    (∀ m, (t.resolve url).2 = some m ↔ IsFirst routes url m) ∧
    ((t.resolve url).2 = none ↔ ∀ r ∈ routes, r.captures? url = none) ∧
    t.cache.stats.hits + t.cache.stats.misses = (uses.filterMap Use.url?).length ∧
    t.cache.stats.invalidations = routes.length := by
  intro t routes
  obtain ⟨registered, lookups, invalidations⟩ :=
    (withCacheCapacity capacity : RouteTable μ).counts_after uses
  have coherent : t.Coherent := Coherent.after (by rintro e ⟨⟩) uses
  have same : t.routes = routes := registered
  refine ⟨fun m => ?_, ?_, lookups.trans (Nat.zero_add _), invalidations.trans (Nat.zero_add _)⟩
  · rw [(resolve_eq coherent url).1, isFirst_iff, same]
  · rw [(resolve_eq coherent url).1, firstMatch_eq_none, same]

end RouteTable

end Wayfinder
