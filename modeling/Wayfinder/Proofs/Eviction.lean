/-
What a scroll store forgets.

A scroll store has room for a fixed number of URLs and keeps them in the order in which they were
recorded, the latest first. A position that is taken leaves room behind, so what is forgotten cannot be
told from the number of later records: a URL goes at the moment at which as many others are held that
were recorded after it as there is room for, and at no other (`ScrollStore.forgets_least_recent`).

In the order of a store a URL stands behind those that were recorded after it (`RecentMap.Behind`). A use
that does not settle the position of the URL itself leaves it in such a place or pushes it out, and then
the room is taken by later ones (`ScrollStore.behind_use`).

* `Fits`: what every store keeps up.
* `peek?_since`: a position that was recorded is there as long as there was room for it all the time.
* `last_recorded`: what is there was recorded, and not taken or dropped since.
-/
import Mathlib.Data.Finset.Card
import Mathlib.Data.List.Infix
import Wayfinder.Proofs.RecentKeys
import Wayfinder.Scroll

namespace Wayfinder

/-- What is done with a scroll store. -/
inductive ScrollUse where
  /-- The position of a URL is recorded. -/
  | record (url : String) (p : ScrollPosition)
  /-- The position of a URL is taken. -/
  | take (url : String)
  /-- The position of a URL is looked at. -/
  | peek (url : String)
  /-- All positions are dropped. -/
  | clear

namespace ScrollUse

/-- The URL that is recorded. -/
def recorded? : ScrollUse → Option String
  | record url _ => some url
  | _ => none

/-- The use settles anew whether a URL has a position, and which. -/
def Settles (url : String) : ScrollUse → Prop
  | record other _ => other = url
  | take other => other = url
  | peek _ => False
  | clear => True

end ScrollUse

/-- The URLs that are recorded in the course of some uses. -/
def recordedIn (uses : List ScrollUse) : List String := uses.filterMap ScrollUse.recorded?

lemma recordedIn_concat (uses : List ScrollUse) (u : ScrollUse) :
    recordedIn (uses ++ [u]) = recordedIn uses ++ u.recorded?.toList := by
  rw [recordedIn, List.filterMap_append, recordedIn]
  cases recorded : u.recorded? <;> simp [recorded]

lemma recordedIn_concat_of_none {u : ScrollUse} (unrecorded : u.recorded? = none)
    (uses : List ScrollUse) : recordedIn (uses ++ [u]) = recordedIn uses := by
  rw [recordedIn_concat, unrecorded]
  exact List.append_nil _

namespace RecentMap

/-- A key is in a list, and all others in front of it are among the recorded ones. -/
def Behind (key : String) (recorded keys : List String) : Prop :=
  ∃ later earlier, keys = later ++ key :: earlier ∧ ∀ k ∈ later, k ∈ recorded

variable {key other : String} {recorded keys : List String}

lemma Behind.mem (behind : Behind key recorded keys) : key ∈ keys := by
  obtain ⟨later, earlier, rfl, -⟩ := behind
  exact List.mem_append_cons_self

/-- The use of another key is recorded, and goes to the front. -/
lemma Behind.used (behind : Behind key recorded keys) (ne : other ≠ key) :
    Behind key (recorded ++ [other]) (used other keys) := by
  obtain ⟨later, earlier, rfl, front⟩ := behind
  refine ⟨_, _, used_append_cons ne.symm later earlier, ?_⟩
  intro k mem
  rcases List.mem_cons.mp mem with rfl | mem
  · exact List.mem_append_right _ (List.mem_singleton_self k)
  · exact List.mem_append_left _ (front k (List.mem_filter.mp mem).1)

/-- Another key may leave. -/
lemma Behind.filter (behind : Behind key recorded keys) (ne : key ≠ other) :
    Behind key recorded (keys.filter (· ≠ other)) := by
  obtain ⟨later, earlier, rfl, front⟩ := behind
  refine ⟨later.filter (· ≠ other), earlier.filter (· ≠ other), ?_, ?_⟩
  · rw [List.filter_append, List.filter_cons, if_pos (decide_eq_true ne)]
  · exact fun k mem => front k (List.mem_filter.mp mem).1

/-- Where there is no room for all keys, a key stays in its place, or recorded ones take all the room. -/
lemma Behind.take (behind : Behind key recorded keys) (nodup : keys.Nodup) (room : Nat) :
    Behind key recorded (keys.take room) ∨
      key ∉ keys.take room ∧ (keys.take room).length = room ∧ ∀ k ∈ keys.take room, k ∈ recorded := by
  obtain ⟨later, earlier, rfl, front⟩ := behind
  by_cases fits : later.length < room
  · left
    obtain ⟨n, hn⟩ : ∃ n, room - later.length = n + 1 := ⟨room - later.length - 1, by omega⟩
    refine ⟨later, earlier.take n, ?_, front⟩
    rw [List.take_append, List.take_of_length_le fits.le, hn, List.take_succ_cons]
  · right
    have only : (later ++ key :: earlier).take room = later.take room :=
      List.take_append_of_le_length (Nat.le_of_not_lt fits)
    have apart : key ∉ later := fun mem =>
      (List.nodup_append.mp nodup).2.2 key mem key (List.mem_cons_self ..) rfl
    rw [only]
    refine ⟨fun mem => apart (List.take_subset _ _ mem), ?_, fun k mem => ?_⟩
    · rw [List.length_take]
      omega
    · exact front k (List.take_subset _ _ mem)

end RecentMap

namespace ScrollStore

open RecentMap (Behind)

/-- The URLs that have a position, the one recorded last first. -/
def held (s : ScrollStore) : List String := s.positions.keys

/-- The store after a use. -/
def use (s : ScrollStore) : ScrollUse → ScrollStore
  | .record url p => s.record url p
  | .take url => (s.take url).1
  | .peek _ => s
  | .clear => s.clear

/-- The store after some uses. -/
def after (s : ScrollStore) (uses : List ScrollUse) : ScrollStore := uses.foldl use s

/-- The other URLs that are held and were recorded in the course of the uses `since`. -/
def laterHeld (s : ScrollStore) (url : String) (since : List ScrollUse) : Finset String :=
  s.held.toFinset.filter fun other => other ≠ url ∧ other ∈ recordedIn since

variable {s : ScrollStore} {capacity : Nat} {url : String} {p : ScrollPosition} {u : ScrollUse}
  {since : List ScrollUse}

lemma after_append (s : ScrollStore) (uses more : List ScrollUse) :
    s.after (uses ++ more) = (s.after uses).after more := List.foldl_append ..

lemma after_concat (s : ScrollStore) (uses : List ScrollUse) (u : ScrollUse) :
    s.after (uses ++ [u]) = (s.after uses).use u := s.after_append uses [u]

lemma held_record (s : ScrollStore) (url : String) (p : ScrollPosition) :
    (s.record url p).held = (RecentMap.used url s.held).take s.positions.capacity :=
  RecentMap.keys_put ..

lemma held_take (s : ScrollStore) (url : String) :
    (s.take url).1.held = s.held.filter (· ≠ url) := RecentMap.keys_erase ..

lemma mem_held_of_peek? (found : s.peek? url = some p) : url ∈ s.held :=
  RecentMap.mem_keys_of_peek? found

lemma exists_peek? (mem : url ∈ s.held) : ∃ p, s.peek? url = some p := by
  refine Option.ne_none_iff_exists'.mp fun absent => ?_
  exact RecentMap.peek?_eq_none_iff.mp absent mem

lemma mem_held_iff : url ∈ s.held ↔ (s.peek? url).isSome := by
  rw [Option.isSome_iff_exists]
  exact ⟨exists_peek?, fun ⟨_, found⟩ => mem_held_of_peek? found⟩

/-- Taking a position changes nothing for other URLs. -/
lemma peek?_take (s : ScrollStore) (url other : String) :
    (s.take url).1.peek? other = if other = url then none else s.peek? other := by
  split
  · rename_i same
    refine RecentMap.peek?_eq_none_iff.mpr fun mem => ?_
    have mem : other ∈ (s.take url).1.held := mem
    rw [held_take] at mem
    exact of_decide_eq_true (List.mem_filter.mp mem).2 same
  · rename_i ne
    exact RecentMap.lookup_filter_ne s.positions.entries ne

/-! ### Room -/

/-- A store keeps to its room, and holds no URL twice. -/
structure Fits (s : ScrollStore) (capacity : Nat) : Prop where
  /-- How much room there is. -/
  capacity_eq : s.positions.capacity = capacity
  /-- No URL is held twice. -/
  nodup : s.held.Nodup
  /-- There is room for those that are held. -/
  room : s.held.length ≤ capacity

lemma fits_empty (capacity : Nat) : (empty capacity).Fits capacity :=
  ⟨rfl, List.nodup_nil, Nat.zero_le capacity⟩

lemma Fits.use (fits : s.Fits capacity) (u : ScrollUse) : (s.use u).Fits capacity := by
  cases u with
  | record url p =>
    refine ⟨fits.capacity_eq, ?_, ?_⟩
    · show (s.record url p).held.Nodup
      rw [held_record]
      exact (RecentMap.nodup_used fits.nodup).sublist (List.take_sublist ..)
    · show (s.record url p).held.length ≤ capacity
      rw [held_record, fits.capacity_eq]
      exact List.length_take_le ..
  | take url =>
    refine ⟨fits.capacity_eq, ?_, ?_⟩
    · show (s.take url).1.held.Nodup
      rw [held_take]
      exact fits.nodup.filter _
    · show (s.take url).1.held.length ≤ capacity
      rw [held_take]
      exact (List.length_filter_le ..).trans fits.room
  | peek url => exact fits
  | clear => exact ⟨fits.capacity_eq, List.nodup_nil, Nat.zero_le capacity⟩

lemma Fits.after (fits : s.Fits capacity) (uses : List ScrollUse) :
    (s.after uses).Fits capacity := by
  induction uses generalizing s with
  | nil => exact fits
  | cons u uses ih => exact ih (fits.use u)

/-- A URL that is held leaves room for fewer others. -/
lemma Fits.card_laterHeld_lt (fits : s.Fits capacity) (mem : url ∈ s.held) :
    (s.laterHeld url since).card < capacity := by
  have others : s.laterHeld url since ⊆ s.held.toFinset.erase url := by
    intro other later
    obtain ⟨held, ne, -⟩ := Finset.mem_filter.mp later
    exact Finset.mem_erase.mpr ⟨ne, held⟩
  have all : s.held.toFinset.card = s.held.length := List.toFinset_card_of_nodup fits.nodup
  have fewer : (s.held.toFinset.erase url).card < s.held.toFinset.card :=
    Finset.card_erase_lt_of_mem (List.mem_toFinset.mpr mem)
  have le := Finset.card_le_card others
  have room := fits.room
  omega

/-- Where a URL is not held and later ones take all the room, these are as many as there is room for. -/
lemma le_card_laterHeld (nodup : s.held.Nodup) (absent : url ∉ s.held) (full : s.held.length = capacity)
    (recorded : ∀ k ∈ s.held, k ∈ recordedIn since) : capacity ≤ (s.laterHeld url since).card := by
  have all : s.laterHeld url since = s.held.toFinset := by
    refine Finset.filter_true_of_mem fun k mem => ?_
    have mem := List.mem_toFinset.mp mem
    exact ⟨fun same => absent (same ▸ mem), recorded k mem⟩
  rw [all, List.toFinset_card_of_nodup nodup, full]

/-! ### The place of a URL -/

/-- A use that does not settle the position of a URL leaves it in its place behind those recorded after it,
or the URL has to go because these take all the room. -/
lemma behind_use (fits : s.Fits capacity) (behind : Behind url (recordedIn since) s.held)
    (unsettled : ¬ u.Settles url) :
    Behind url (recordedIn (since ++ [u])) (s.use u).held ∨
      capacity ≤ ((s.use u).laterHeld url (since ++ [u])).card := by
  have after := fits.use u
  cases u with
  | record other p =>
    have recorded : recordedIn (since ++ [.record other p]) = recordedIn since ++ [other] :=
      recordedIn_concat ..
    have held : (s.use (.record other p)).held = (RecentMap.used other s.held).take capacity := by
      rw [← fits.capacity_eq]
      exact held_record s other p
    have used := behind.used unsettled
    rcases used.take (RecentMap.nodup_used fits.nodup) capacity with stays | ⟨gone, full, later⟩
    · left
      rw [recorded, held]
      exact stays
    · right
      rw [← held] at gone full later
      rw [← recorded] at later
      exact le_card_laterHeld after.nodup gone full later
  | take other =>
    have held : (s.use (.take other)).held = s.held.filter (· ≠ other) := held_take s other
    left
    rw [recordedIn_concat_of_none rfl, held]
    exact behind.filter fun same => unsettled same.symm
  | peek other =>
    left
    rw [recordedIn_concat_of_none rfl]
    exact behind
  | clear => exact absurd trivial unsettled

/-- No use brings a position back that it does not settle. -/
lemma peek?_of_use (unsettled : ¬ u.Settles url) (found : (s.use u).peek? url = some p) :
    s.peek? url = some p := by
  cases u with
  | record other q =>
    rcases RecentMap.peek?_put found with ⟨same, -⟩ | ⟨-, found⟩
    · exact absurd same.symm unsettled
    · exact found
  | take other =>
    have ne : url ≠ other := fun same => unsettled same.symm
    have found : (s.take other).1.peek? url = some p := found
    rwa [peek?_take, if_neg ne] at found
  | peek other => exact found
  | clear => cases found

/-- A use that settles a position and leaves one there has recorded it. -/
lemma eq_record_of_settles (settled : u.Settles url) (found : (s.use u).peek? url = some p) :
    u = .record url p := by
  cases u with
  | record other q =>
    obtain rfl : other = url := settled
    rcases RecentMap.peek?_put found with ⟨-, rfl⟩ | ⟨ne, -⟩
    · rfl
    · exact absurd rfl ne
  | take other =>
    obtain rfl : other = url := settled
    have found : (s.take other).1.peek? other = some p := found
    rw [peek?_take, if_pos rfl] at found
    cases found
  | peek other => cases settled
  | clear => cases found

lemma peek?_of_after {uses : List ScrollUse} (unsettled : ∀ u ∈ uses, ¬ u.Settles url)
    (found : (s.after uses).peek? url = some p) : s.peek? url = some p := by
  induction uses generalizing s with
  | nil => exact found
  | cons u uses ih =>
    obtain ⟨first, rest⟩ := List.forall_mem_cons.mp unsettled
    exact peek?_of_use first (ih rest found)

/-- As long as a position that was recorded is there, its URL stands behind those recorded since. -/
lemma behind_since (fits : s.Fits capacity) (unsettled : ∀ u ∈ since, ¬ u.Settles url)
    (found : ((s.record url p).after since).peek? url = some p) :
    Behind url (recordedIn since) ((s.record url p).after since).held := by
  have recorded : (s.record url p).Fits capacity := fits.use (.record url p)
  induction since using List.reverseRecOn with
  | nil =>
    have mem : url ∈ (s.record url p).held := mem_held_of_peek? found
    rw [held_record, RecentMap.used] at mem
    obtain ⟨n, hn⟩ : ∃ n, s.positions.capacity = n + 1 :=
      Nat.exists_eq_add_one_of_ne_zero fun none => by simp [none] at mem
    refine ⟨[], (s.held.filter (· ≠ url)).take n, ?_, fun _ mem => absurd mem List.not_mem_nil⟩
    show (s.record url p).held = _
    rw [held_record, RecentMap.used, hn, List.take_succ_cons]
    rfl
  | append_singleton since u ih =>
    have unsettled_u : ¬ u.Settles url := unsettled u (by simp)
    rw [after_concat] at found ⊢
    have behind := ih (fun v mem => unsettled v (List.mem_append_left _ mem))
      (peek?_of_use unsettled_u found)
    have fits := recorded.after since
    rcases behind_use fits behind unsettled_u with behind | full
    · exact behind
    · have room : (((s.record url p).after since).use u |>.laterHeld url (since ++ [u])).card < capacity :=
        (fits.use u).card_laterHeld_lt (mem_held_of_peek? found)
      omega

/-- A position that was recorded is there if and only if at every moment since there was room for it beside
the URLs that were recorded after it and held. -/
lemma peek?_since (fits : s.Fits capacity) (unsettled : ∀ u ∈ since, ¬ u.Settles url) :
    ((s.record url p).after since).peek? url = some p ↔
      ∀ moment, moment <+: since →
        (((s.record url p).after moment).laterHeld url moment).card < capacity := by
  have recorded : (s.record url p).Fits capacity := fits.use (.record url p)
  constructor
  · intro found moment before
    obtain ⟨rest, rfl⟩ := before
    rw [after_append] at found
    have found := peek?_of_after (fun u mem => unsettled u (List.mem_append_right _ mem)) found
    exact (recorded.after moment).card_laterHeld_lt (mem_held_of_peek? found)
  · intro room
    induction since using List.reverseRecOn with
    | nil =>
      have positive : 0 < s.positions.capacity := by
        have := room [] List.prefix_rfl
        rw [fits.capacity_eq]
        omega
      exact RecentMap.peek?_put_self s.positions url p positive
    | append_singleton since u ih =>
      have unsettled_u : ¬ u.Settles url := unsettled u (by simp)
      have earlier : ∀ v ∈ since, ¬ v.Settles url := fun v mem =>
        unsettled v (List.mem_append_left _ mem)
      have found := ih earlier fun moment before => room moment (before.trans (List.prefix_append ..))
      have last := room (since ++ [u]) List.prefix_rfl
      rw [after_concat] at last ⊢
      rcases behind_use (recorded.after since) (behind_since fits earlier found) unsettled_u with
        behind | full
      · obtain ⟨q, kept⟩ := exists_peek? behind.mem
        have same := peek?_of_use unsettled_u kept
        rw [kept, ← same, found]
      · omega

/-- What is there was recorded, and nothing has settled it since. -/
lemma last_recorded {uses : List ScrollUse} (found : ((empty capacity).after uses).peek? url = some p) :
    ∃ before since, uses = before ++ .record url p :: since ∧ ∀ u ∈ since, ¬ u.Settles url := by
  induction uses using List.reverseRecOn with
  | nil => cases found
  | append_singleton uses u ih =>
    rw [after_concat] at found
    by_cases settled : u.Settles url
    · obtain rfl := eq_record_of_settles settled found
      exact ⟨uses, [], rfl, fun _ mem => absurd mem List.not_mem_nil⟩
    · obtain ⟨before, since, rfl, unsettled⟩ := ih (peek?_of_use settled found)
      refine ⟨before, since ++ [u], by simp, ?_⟩
      intro v mem
      rcases List.mem_append.mp mem with mem | mem
      · exact unsettled v mem
      · exact List.mem_singleton.mp mem ▸ settled

/-- The positions that are there, read off all that has been done. -/
lemma peek?_after_eq_some_iff (capacity : Nat) (uses : List ScrollUse) (url : String)
    (p : ScrollPosition) :
    ((empty capacity).after uses).peek? url = some p ↔ ∃ before since,
      uses = before ++ .record url p :: since ∧ (∀ u ∈ since, ¬ u.Settles url) ∧
      ∀ moment, moment <+: since →
        (((empty capacity).after (before ++ .record url p :: moment)).laterHeld url moment).card <
          capacity := by
  have after_record (before since : List ScrollUse) :
      (empty capacity).after (before ++ .record url p :: since) =
        (((empty capacity).after before).record url p).after since := after_append ..
  have fits (before : List ScrollUse) : ((empty capacity).after before).Fits capacity :=
    (fits_empty capacity).after before
  constructor
  · intro found
    obtain ⟨before, since, rfl, unsettled⟩ := last_recorded found
    refine ⟨before, since, rfl, unsettled, fun moment within => ?_⟩
    rw [after_record] at found ⊢
    exact (peek?_since (fits before) unsettled).mp found moment within
  · rintro ⟨before, since, rfl, unsettled, room⟩
    rw [after_record]
    refine (peek?_since (fits before) unsettled).mpr fun moment within => ?_
    rw [← after_record]
    exact room moment within

/-- A URL that is not there comes back only when it is recorded. -/
lemma peek?_after_eq_none {uses : List ScrollUse} (absent : s.peek? url = none)
    (unrecorded : ∀ p, .record url p ∉ uses) : (s.after uses).peek? url = none := by
  induction uses generalizing s with
  | nil => exact absent
  | cons u uses ih =>
    refine ih (Option.eq_none_iff_forall_ne_some.mpr fun p found => ?_)
      fun p mem => unrecorded p (List.mem_cons_of_mem _ mem)
    have unsettled : ¬ u.Settles url := fun settled =>
      unrecorded p (eq_record_of_settles settled found ▸ List.mem_cons_self ..)
    rw [peek?_of_use unsettled found] at absent
    cases absent

/-- Looking at positions leaves no trace. -/
lemma after_filter_peek (s : ScrollStore) (uses : List ScrollUse) :
    s.after (uses.filter fun u => !(u matches .peek _)) = s.after uses := by
  induction uses generalizing s with
  | nil => rfl
  | cons u uses ih =>
    cases u with
    | record url p => exact ih (s.record url p)
    | take url => exact ih (s.take url).1
    | peek url => exact ih s
    | clear => exact ih s.clear

/-- A scroll store forgets the URL recorded longest ago, and only where there is no room. Whatever has
been done with it, it has room for its capacity. A position is there if and only if of the uses that
settle the position of its URL the last one recorded it, and at no moment since then as many other URLs as
there is room for were held that had been recorded after it. Looking at positions leaves no trace in the
store. Taking a position gives what looking at it gives and removes its URL alone, from its place in the
order of the others; taken again, it is not there unless it has been recorded in between. -/
theorem forgets_least_recent (capacity : Nat) (uses : List ScrollUse) :
    let s := (empty capacity).after uses
    (s.size ≤ capacity ∧ s.held.Nodup ∧ ∀ url, url ∈ s.held ↔ (s.peek? url).isSome) ∧
    (∀ url p, s.peek? url = some p ↔ ∃ before since,
      uses = before ++ .record url p :: since ∧ (∀ u ∈ since, ¬ u.Settles url) ∧
      ∀ moment, moment <+: since →
        (((empty capacity).after (before ++ .record url p :: moment)).laterHeld url moment).card <
          capacity) ∧
    (empty capacity).after (uses.filter fun u => !(u matches .peek _)) = s ∧
    (∀ url, (s.take url).2 = s.peek? url ∧ (s.take url).1.held = s.held.filter (· ≠ url) ∧
      ∀ other, (s.take url).1.peek? other = if other = url then none else s.peek? other) ∧
    ∀ url between, (∀ p, .record url p ∉ between) →
      (((s.take url).1.after between).take url).2 = none := by
  intro s
  have fits : s.Fits capacity := (fits_empty capacity).after uses
  refine ⟨⟨?_, fits.nodup, fun url => mem_held_iff⟩, peek?_after_eq_some_iff capacity uses,
    after_filter_peek _ uses, fun url => ⟨rfl, s.held_take url, s.peek?_take url⟩, ?_⟩
  · have length : s.held.length = s.size := List.length_map _
    exact length ▸ fits.room
  · intro url between unrecorded
    have gone : (s.take url).1.peek? url = none := by rw [peek?_take, if_pos rfl]
    exact peek?_after_eq_none gone unrecorded

/-- Two other URLs are recorded after one in a store with room for two, but they are never held together,
because the first of them is taken. -/
theorem forgets_least_recent_taken :
    let since : List ScrollUse := [.record "/b" ⟨0, 2⟩, .take "/b", .record "/c" ⟨0, 3⟩]
    let s := (empty 2).after (.record "/a" ⟨0, 1⟩ :: since)
    (∀ moment, moment <+: since →
      (((empty 2).after (.record "/a" ⟨0, 1⟩ :: moment)).laterHeld "/a" moment).card < 2) ∧
    s.peek? "/a" = some ⟨0, 1⟩ ∧
    (∀ p, .record "/a" p ∉ since) ∧ (((s.take "/a").1.after since).take "/a").2 = none := by
  intro since s
  have whole := forgets_least_recent 2 (.record "/a" ⟨0, 1⟩ :: since)
  have unrecorded : ∀ p, .record "/a" p ∉ since := by simp [since]
  have unsettled : ∀ u ∈ since, ¬ u.Settles "/a" := by simp [since, ScrollUse.Settles]
  have room : ∀ moment, moment <+: since →
      (((empty 2).after (.record "/a" ⟨0, 1⟩ :: moment)).laterHeld "/a" moment).card < 2 := by
    intro moment within
    have moments : moment ∈ since.inits := (List.mem_inits ..).mpr within
    simp only [since, List.inits, List.map_cons, List.map_nil, List.mem_cons, List.not_mem_nil,
      or_false] at moments
    rcases moments with rfl | rfl | rfl | rfl <;> decide
  exact ⟨room, (whole.2.1 "/a" ⟨0, 1⟩).mpr ⟨[], since, rfl, unsettled, room⟩, unrecorded,
    whole.2.2.2.2 "/a" since unrecorded⟩

end ScrollStore

end Wayfinder
