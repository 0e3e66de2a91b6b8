/-
What a cache remembers, by how long ago it was used.

All that can happen to a resolve cache is put down as events, oldest first: what was inserted, which
lookups were answered and which were not, and when the cache was cleared or its counters were. The log
alone says what the cache remembers. A URL that was inserted has its last value as long as fewer other
URLs than the cache has room for have been used since it was used itself (`ResolveCache.remembers`).

The proof follows the URLs in the order of their last use, the latest first (`recency`), as if nothing
were ever forgotten. The entries of the cache are the beginning of that list, as far as there is room,
and the URLs before one in the list are those used since.

* `mem_recency`, `used_since`: the order of the last use, read off the log.
* `Recalls`, `Recalls.use`, `Recalls.after`: what a cache keeps up.
-/
import Mathlib.Data.List.DropRight
import Mathlib.Data.List.Basic
import Mathlib.Data.Finset.Card
import Wayfinder.Proofs.RecentKeys
import Wayfinder.Proofs.Resolve

namespace Wayfinder

/-! ### The log -/

/-- What is done with a cache. -/
inductive CacheUse where
  /-- Where a URL has led is remembered. -/
  | insert (url : String) (index : Nat) (captures : Parameters)
  /-- A URL is looked up. -/
  | get (url : String)
  /-- The entries are dropped. -/
  | clear
  /-- The counters start again. -/
  | resetStats

/-- What has happened to a cache. -/
inductive CacheEvent where
  /-- A URL was inserted. -/
  | inserted (url : String) (found : Nat × Parameters)
  /-- A lookup was answered. -/
  | hit (url : String)
  /-- A lookup was not. -/
  | missed (url : String)
  /-- The entries were dropped. -/
  | cleared
  /-- The counters started again. -/
  | reset

namespace CacheEvent

/-- The URL that was used: inserted, or found by a lookup. -/
def used? : CacheEvent → Option String
  | inserted url _ => some url
  | hit url => some url
  | _ => none

end CacheEvent

/-- A value was inserted for a URL, and since then neither another one nor was the cache cleared. -/
def LastInserted (log : List CacheEvent) (url : String) (found : Nat × Parameters) : Prop :=
  ∃ before since, log = before ++ .inserted url found :: since ∧
    (∀ other, .inserted url other ∉ since) ∧ .cleared ∉ since

/-- The URLs that have been used since a URL was used itself. -/
def usedSince (log : List CacheEvent) (url : String) : Finset String :=
  ((log.rtakeWhile fun e => e.used? ≠ some url).filterMap CacheEvent.used?).toFinset

/-- What is counted in a log. -/
def tally (log : List CacheEvent) : CacheStats where
  hits := log.countP (· matches .hit _)
  misses := log.countP (· matches .missed _)
  invalidations := log.countP (· matches .cleared)

/-- What has happened since the counters started. -/
def sinceReset (log : List CacheEvent) : List CacheEvent :=
  log.rtakeWhile fun e => !(e matches .reset)

namespace ResolveCache

/-- The cache after a use. -/
def use (c : ResolveCache) : CacheUse → ResolveCache
  | .insert url index captures => c.insert url index captures
  | .get url => (c.get url).1
  | .clear => c.clear
  | .resetStats => c.resetStats

/-- What a use is in the log. -/
def event (c : ResolveCache) : CacheUse → CacheEvent
  | .insert url index captures => .inserted url (index, captures)
  | .get url => if (c.get url).2.isSome then .hit url else .missed url
  | .clear => .cleared
  | .resetStats => .reset

/-- The cache after some uses. -/
def after (c : ResolveCache) (uses : List CacheUse) : ResolveCache := uses.foldl use c

/-- The log of some uses. -/
def log (c : ResolveCache) : List CacheUse → List CacheEvent
  | [] => []
  | u :: uses => c.event u :: (c.use u).log uses

end ResolveCache

/-! ### The order of the last use -/

open RecentMap (used mem_used nodup_used)

/-- The URLs that have been used since the cache was cleared, the one used last first, after an event. -/
def CacheEvent.recent (urls : List String) : CacheEvent → List String
  | inserted url _ => used url urls
  | hit url => used url urls
  | cleared => []
  | _ => urls

/-- The URLs that have been used since the cache was cleared, the one used last first. -/
def recency (log : List CacheEvent) : List String := log.foldl CacheEvent.recent []

variable {log : List CacheEvent} {e : CacheEvent} {url : String} {found : Nat × Parameters}

lemma CacheEvent.recent_of_used {urls : List String} (uses : e.used? = some url) :
    e.recent urls = used url urls := by
  cases e <;> cases uses <;> rfl

lemma CacheEvent.recent_of_unused {urls : List String} (uses : e.used? = none) (stays : e ≠ .cleared) :
    e.recent urls = urls := by
  cases e with
  | inserted url found | hit url => cases uses
  | cleared => cases stays rfl
  | missed url | reset => rfl

lemma recency_concat (log : List CacheEvent) (e : CacheEvent) :
    recency (log ++ [e]) = e.recent (recency log) := by
  rw [recency, List.foldl_append]
  rfl

lemma nodup_recency (log : List CacheEvent) : (recency log).Nodup := by
  induction log using List.reverseRecOn with
  | nil => exact List.nodup_nil
  | append_singleton log e ih =>
    rw [recency_concat]
    cases e with
    | inserted url found | hit url => exact nodup_used ih
    | cleared => exact List.nodup_nil
    | missed url | reset => exact ih

/-- What is inserted last, read off the last event. -/
lemma lastInserted_concat :
    LastInserted (log ++ [e]) url found ↔
      e = .inserted url found ∨
        LastInserted log url found ∧ (∀ other, e ≠ .inserted url other) ∧ e ≠ .cleared := by
  constructor
  · rintro ⟨before, since, split, last, kept⟩
    rcases List.eq_nil_or_concat since with rfl | ⟨since, e', rfl⟩
    · obtain ⟨-, rfl⟩ := List.append_inj' split rfl |>.imp_right List.singleton_inj.mp
      exact .inl rfl
    · rw [List.concat_eq_append, ← List.cons_append, ← List.append_assoc] at split
      rw [List.concat_eq_append] at last kept
      obtain ⟨rfl, same⟩ := List.append_inj' split rfl
      obtain rfl := List.singleton_inj.mp same
      simp only [List.mem_append, List.mem_singleton, not_or] at last kept
      exact .inr ⟨⟨before, since, rfl, fun other => (last other).1, kept.1⟩,
        fun other same => (last other).2 same.symm, fun same => kept.2 same.symm⟩
  · rintro (rfl | ⟨⟨before, since, rfl, last, kept⟩, another, goes⟩)
    · exact ⟨log, [], rfl, by simp, by simp⟩
    · refine ⟨before, since ++ [e], by simp, fun other mem => ?_, fun mem => ?_⟩
      · rcases List.mem_append.mp mem with mem | mem
        · exact last other mem
        · exact another other (List.mem_singleton.mp mem).symm
      · rcases List.mem_append.mp mem with mem | mem
        · exact kept mem
        · exact goes (List.mem_singleton.mp mem).symm

lemma not_lastInserted_nil : ¬ LastInserted [] url found := by
  rintro ⟨before, since, split, -⟩
  cases before <;> cases split

/-- There is one value that was inserted last. -/
lemma LastInserted.unique {found' : Nat × Parameters} (last : LastInserted log url found)
    (last' : LastInserted log url found') : found = found' := by
  induction log using List.reverseRecOn with
  | nil => cases not_lastInserted_nil last
  | append_singleton log e ih =>
    rcases lastInserted_concat.mp last with rfl | ⟨last, another, -⟩
    · rcases lastInserted_concat.mp last' with same | ⟨-, another, -⟩
      · exact (CacheEvent.inserted.inj same).2
      · cases another found rfl
    · rcases lastInserted_concat.mp last' with same | ⟨last', -, -⟩
      · cases another found' same
      · exact ih last last'

/-- What has been inserted has been used. -/
lemma LastInserted.mem_recency (last : LastInserted log url found) : url ∈ recency log := by
  induction log using List.reverseRecOn with
  | nil => cases not_lastInserted_nil last
  | append_singleton log e ih =>
    rw [recency_concat]
    rcases lastInserted_concat.mp last with rfl | ⟨earlier, -, stays⟩
    · exact mem_used.mpr (.inl rfl)
    · cases uses : e.used? with
      | none =>
        rw [CacheEvent.recent_of_unused uses stays]
        exact ih earlier
      | some other =>
        rw [CacheEvent.recent_of_used uses]
        exact mem_used.mpr (.inr (ih earlier))

/-- The URLs used since, read off the last event. -/
lemma usedSince_concat (log : List CacheEvent) (e : CacheEvent) (url : String) :
    usedSince (log ++ [e]) url =
      if e.used? = some url then ∅ else usedSince log url ∪ e.used?.toList.toFinset := by
  unfold usedSince
  by_cases same : e.used? = some url
  · rw [List.rtakeWhile_concat_neg _ _ _ (by simpa using same), if_pos same]
    rfl
  · rw [List.rtakeWhile_concat_pos _ _ _ (by simpa using same), if_neg same, List.filterMap_append,
      List.toFinset_append]
    cases uses : e.used? <;> simp [uses]

/-- The URLs before one in the order of the last use are those that have been used since. -/
lemma used_since (mem : url ∈ recency log) :
    ∃ since earlier, recency log = since ++ url :: earlier ∧ since.toFinset = usedSince log url := by
  induction log using List.reverseRecOn with
  | nil => cases mem
  | append_singleton log e ih =>
    rw [recency_concat] at mem ⊢
    rw [usedSince_concat]
    cases uses : e.used? with
    | none =>
      have stays : e ≠ .cleared := by
        rintro rfl
        cases mem
      rw [CacheEvent.recent_of_unused uses stays] at mem ⊢
      obtain ⟨since, earlier, split, same⟩ := ih mem
      exact ⟨since, earlier, split, by simpa using same⟩
    | some other =>
      rw [CacheEvent.recent_of_used uses] at mem ⊢
      by_cases self : other = url
      · subst self
        exact ⟨[], _, rfl, by simp⟩
      · obtain ⟨since, earlier, split, same⟩ := ih ((mem_used.mp mem).resolve_left (Ne.symm self))
        refine ⟨other :: since.filter (· ≠ other), earlier.filter (· ≠ other), ?_, ?_⟩
        · rw [split, RecentMap.used_append_cons (Ne.symm self)]
        · rw [if_neg (by simpa using self), ← same]
          ext k
          by_cases k = other <;> simp_all

/-- A URL is among those used last if there is room for all that were used since. -/
lemma mem_take_recency {room : Nat} (mem : url ∈ recency log) :
    url ∈ (recency log).take room ↔ (usedSince log url).card < room := by
  obtain ⟨since, earlier, split, same⟩ := used_since mem
  have nodup := nodup_recency log
  rw [split] at nodup
  obtain ⟨nodup, -, apart⟩ := List.nodup_append.mp nodup
  have absent : url ∉ since := fun mem => apart url mem url (List.mem_cons_self ..) rfl
  rw [List.mem_take_iff_idxOf_lt mem, split, List.idxOf_append_of_notMem absent, List.idxOf_cons_self,
    Nat.add_zero, ← same, List.toFinset_card_of_nodup nodup]

/-! ### What a cache keeps up -/

lemma sinceReset_concat (resets : (e matches .reset) = false) :
    sinceReset (log ++ [e]) = sinceReset log ++ [e] := by
  rw [sinceReset, List.rtakeWhile_concat_pos _ _ _ (by simpa using resets)]
  rfl

lemma tally_concat (log : List CacheEvent) (e : CacheEvent) :
    tally (log ++ [e]) =
      { hits := (tally log).hits + if e matches .hit _ then 1 else 0
        misses := (tally log).misses + if e matches .missed _ then 1 else 0
        invalidations := (tally log).invalidations + if e matches .cleared then 1 else 0 } := by
  simp [tally, List.countP_append, List.countP_singleton]

namespace ResolveCache

/-- A cache is what the log says. -/
structure Recalls (c : ResolveCache) (log : List CacheEvent) : Prop where
  /-- The URLs used last are kept. -/
  keys : c.found.keys = (recency log).take c.found.capacity
  /-- With the values inserted last. -/
  last {url : String} {found : Nat × Parameters} (kept : c.found.peek? url = some found) :
    LastInserted log url found
  /-- The counters have counted. -/
  stats : c.stats = tally (sinceReset log)

variable {c : ResolveCache}

lemma recalls_empty (capacity : Nat) : (empty capacity).Recalls [] where
  keys := List.take_nil.symm
  last kept := by cases kept
  stats := rfl

lemma Recalls.insert (h : c.Recalls log) (url : String) (index : Nat) (captures : Parameters) :
    (c.insert url index captures).Recalls (log ++ [.inserted url (index, captures)]) where
  keys := by
    rw [ResolveCache.insert, RecentMap.keys_put, h.keys, recency_concat]
    exact RecentMap.take_used (nodup_recency log) url c.found.capacity
  last kept := by
    rw [lastInserted_concat]
    rcases RecentMap.peek?_put kept with ⟨rfl, rfl⟩ | ⟨other, kept⟩
    · exact .inl rfl
    · exact .inr ⟨h.last kept, fun _ same => other (CacheEvent.inserted.inj same).1.symm, nofun⟩
  stats := by
    rw [sinceReset_concat rfl, tally_concat, ← h.stats]
    rfl

/-- Looking up what is kept moves it to the front. -/
lemma Recalls.hit (h : c.Recalls log) {url : String} {found : Nat × Parameters}
    (kept : c.found.peek? url = some found) :
    c.get url = ({ found := c.found.touch url, stats := { c.stats with hits := c.stats.hits + 1 } },
      some found) ∧ (c.get url).1.Recalls (log ++ [.hit url]) := by
  have got : c.get url =
      ({ found := c.found.touch url, stats := { c.stats with hits := c.stats.hits + 1 } },
        some found) := by
    rw [get, kept]
  have mem := RecentMap.mem_keys_of_peek? kept
  have capacity : (c.found.touch url).capacity = c.found.capacity := by
    rw [RecentMap.touch, kept]
  refine ⟨got, ?_⟩
  rw [got]
  refine ⟨?_, fun kept => ?_, ?_⟩
  · rw [RecentMap.keys_touch mem, capacity, h.keys, recency_concat]
    rw [h.keys] at mem
    exact RecentMap.used_take (nodup_recency log) mem
  · rw [RecentMap.peek?_touch] at kept
    refine lastInserted_concat.mpr (.inr ⟨h.last kept, fun _ same => ?_, fun same => ?_⟩)
    · cases same
    · cases same
  · rw [sinceReset_concat rfl, tally_concat, ← h.stats]
    rfl

/-- Looking up what is not kept changes a counter only. -/
lemma Recalls.missed (h : c.Recalls log) {url : String} (absent : c.found.peek? url = none) :
    c.get url = ({ c with stats := { c.stats with misses := c.stats.misses + 1 } }, none) ∧
      (c.get url).1.Recalls (log ++ [.missed url]) := by
  have got : c.get url =
      ({ c with stats := { c.stats with misses := c.stats.misses + 1 } }, none) := by
    rw [get, absent]
  refine ⟨got, ?_⟩
  rw [got]
  refine ⟨?_, fun kept => ?_, ?_⟩
  · rw [recency_concat]
    exact h.keys
  · exact lastInserted_concat.mpr (.inr ⟨h.last kept, nofun, nofun⟩)
  · rw [sinceReset_concat rfl, tally_concat, ← h.stats]
    rfl

lemma Recalls.cleared (h : c.Recalls log) : c.clear.Recalls (log ++ [.cleared]) where
  keys := by
    rw [recency_concat, CacheEvent.recent, List.take_nil]
    rfl
  last kept := by cases kept
  stats := by
    rw [sinceReset_concat rfl, tally_concat, ← h.stats]
    rfl

lemma Recalls.reset (h : c.Recalls log) : c.resetStats.Recalls (log ++ [.reset]) where
  keys := by
    rw [recency_concat]
    exact h.keys
  last kept := lastInserted_concat.mpr (.inr ⟨h.last kept, nofun, nofun⟩)
  stats := by
    rw [sinceReset, List.rtakeWhile_concat_neg _ _ _ (by simp)]
    rfl

/-- Every use keeps it up. -/
lemma Recalls.use (h : c.Recalls log) (u : CacheUse) : (c.use u).Recalls (log ++ [c.event u]) := by
  cases u with
  | insert url index captures => exact h.insert url index captures
  | get url =>
    cases looked : c.found.peek? url with
    | none =>
      obtain ⟨got, kept⟩ := h.missed looked
      rw [event, got]
      exact kept
    | some found =>
      obtain ⟨got, kept⟩ := h.hit looked
      rw [event, got]
      exact kept
  | clear => exact h.cleared
  | resetStats => exact h.reset

lemma Recalls.after (h : c.Recalls log) (uses : List CacheUse) :
    (c.after uses).Recalls (log ++ c.log uses) := by
  induction uses generalizing c log with
  | nil =>
    rw [ResolveCache.log, List.append_nil]
    exact h
  | cons u uses ih =>
    have rest := ih (h.use u)
    rw [List.append_assoc] at rest
    exact rest

lemma capacity_use (c : ResolveCache) (u : CacheUse) :
    (c.use u).found.capacity = c.found.capacity := by
  cases u with
  | insert url index captures => rfl
  | get url =>
    rw [use, get]
    cases looked : c.found.peek? url with
    | none => rfl
    | some found =>
      show (c.found.touch url).capacity = c.found.capacity
      rw [RecentMap.touch, looked]
  | clear | resetStats => rfl

lemma capacity_after (c : ResolveCache) (uses : List CacheUse) :
    (c.after uses).found.capacity = c.found.capacity := by
  induction uses generalizing c with
  | nil => rfl
  | cons u uses ih => exact (ih (c.use u)).trans (c.capacity_use u)

/-- The answer to a lookup, and what is kept after it. -/
lemma get_eq (c : ResolveCache) (url : String) :
    (c.get url).2 = c.found.peek? url ∧
      (c.get url).1.found = if (c.get url).2.isSome then c.found.touch url else c.found := by
  rw [get]
  cases c.found.peek? url <;> exact ⟨rfl, rfl⟩

/-- The cache keeps the URLs used last. Whatever has been done with it, it has room for its capacity; a
lookup is answered with the value inserted last if and only if the URL was inserted since the cache was
cleared and fewer other URLs than there is room for have been used since the last use; a lookup without
an answer leaves everything kept as it is; and the counters are those of the log. -/
theorem remembers (capacity : Nat) (uses : List CacheUse) :
    let c := (empty capacity).after uses
    let log := (empty capacity).log uses
    (c.found.size ≤ capacity ∧ c.found.keys.Nodup) ∧
    (∀ url found, (c.get url).2 = some found ↔
      LastInserted log url found ∧ (usedSince log url).card < capacity) ∧
    (∀ url, (c.get url).1.found = if (c.get url).2.isSome then c.found.touch url else c.found) ∧
    c.stats = tally (sinceReset log) := by
  intro c log
  have h : c.Recalls log := (recalls_empty capacity).after uses
  have room : c.found.capacity = capacity := capacity_after _ uses
  have keys : c.found.keys = (recency log).take capacity := room ▸ h.keys
  refine ⟨⟨?_, ?_⟩, fun url found => ?_, fun url => (c.get_eq url).2, h.stats⟩
  · have size : c.found.keys.length = c.found.size := List.length_map _
    rw [← size, keys]
    exact List.length_take_le ..
  · rw [keys]
    exact (nodup_recency log).sublist (List.take_sublist ..)
  · rw [(c.get_eq url).1]
    constructor
    · intro kept
      have last := h.last kept
      refine ⟨last, (mem_take_recency last.mem_recency).mp ?_⟩
      rw [← keys]
      exact RecentMap.mem_keys_of_peek? kept
    · rintro ⟨last, near⟩
      have mem := (mem_take_recency last.mem_recency).mpr near
      rw [← keys] at mem
      cases kept : c.found.peek? url with
      | none => cases RecentMap.peek?_eq_none_iff.mp kept mem
      | some found' => rw [last.unique (h.last kept)]

example :
    let c := (empty 2).after
      [.insert "/a" 0 .empty, .insert "/b" 1 .empty, .get "/a", .insert "/c" 2 .empty]
    ((c.get "/a").2.isSome, (c.get "/b").2.isSome, (c.get "/c").2.isSome) = (true, false, true) := by
  decide

end ResolveCache

end Wayfinder
