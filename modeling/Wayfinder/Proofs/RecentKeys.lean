/-
The keys of maps that forget.

The keys of a `RecentMap` stand in the order of their last use, the latest first. A use brings a key to the
front, and what there is no room for leaves at the end; values play no part in that.

* `keys_put`, `keys_touch`, `keys_erase`: what becomes of the keys.
* `peek?_put`, `peek?_touch`: what becomes of the values.
* `take_used`, `used_take`: a use and forgetting, one after the other.
-/
import Mathlib.Data.List.Basic
import Mathlib.Tactic.Lemma
import Mathlib.Tactic.Tauto
import Wayfinder.RecentMap

namespace Wayfinder

namespace RecentMap

variable {α : Type}

/-- The keys, the one used last first. -/
def keys (m : RecentMap α) : List String := m.entries.map (·.1)

/-- The keys after a use of a key. -/
def used (key : String) (keys : List String) : List String := key :: keys.filter (· ≠ key)

lemma mem_used {key k : String} {keys : List String} : k ∈ used key keys ↔ k = key ∨ k ∈ keys := by
  rw [used, List.mem_cons, List.mem_filter, decide_eq_true_iff]
  tauto

lemma nodup_used {key : String} {keys : List String} (nodup : keys.Nodup) : (used key keys).Nodup := by
  refine List.nodup_cons.mpr ⟨fun mem => ?_, nodup.filter _⟩
  exact of_decide_eq_true (List.mem_filter.mp mem).2 rfl

/-- A use brings a key to the front, past the others, which stay in their order. -/
lemma used_append_cons {key k : String} (ne : k ≠ key) (later earlier : List String) :
    used key (later ++ k :: earlier) =
      (key :: later.filter (· ≠ key)) ++ k :: earlier.filter (· ≠ key) := by
  rw [used, List.filter_append, List.filter_cons, if_pos (decide_eq_true ne)]
  rfl

lemma keys_erase (m : RecentMap α) (key : String) :
    (m.erase key).keys = m.keys.filter (· ≠ key) := by
  rw [keys, keys, erase, List.filter_map]
  rfl

lemma keys_put (m : RecentMap α) (key : String) (value : α) :
    (m.put key value).keys = (used key m.keys).take m.capacity := by
  rw [used, ← keys_erase]
  simp [keys, put]

/-- Whether a key has a value. -/
lemma peek?_eq_none_iff {m : RecentMap α} {key : String} : m.peek? key = none ↔ key ∉ m.keys := by
  rw [peek?, List.lookup_eq_none_iff, keys, List.mem_map]
  constructor
  · rintro other ⟨e, mem, rfl⟩
    have := other e mem
    simp at this
  · intro absent e mem
    have : e.1 ≠ key := fun same => absent ⟨e, mem, same⟩
    simpa using this.symm

lemma mem_keys_of_peek? {m : RecentMap α} {key : String} {value : α}
    (found : m.peek? key = some value) : key ∈ m.keys := by
  by_contra absent
  rw [peek?_eq_none_iff.mpr absent] at found
  cases found

lemma keys_touch {m : RecentMap α} {key : String} (mem : key ∈ m.keys) :
    (m.touch key).keys = used key m.keys := by
  cases found : m.peek? key with
  | none => cases peek?_eq_none_iff.mp found mem
  | some value =>
    rw [touch, found, used, ← keys_erase]
    rfl

lemma lookup_filter_ne (entries : List (String × α)) {key k : String} (ne : k ≠ key) :
    (entries.filter (·.1 ≠ key)).lookup k = entries.lookup k := by
  induction entries with
  | nil => rfl
  | cons e rest ih =>
    obtain ⟨name, value⟩ := e
    rw [List.filter_cons]
    by_cases same : name = key
    · subst same
      rw [if_neg (by simp), ih, List.lookup_cons, beq_false_of_ne ne]
    · rw [if_pos (by simpa using same), List.lookup_cons, List.lookup_cons, ih]

/-- A use without a new value changes no value. -/
lemma peek?_touch (m : RecentMap α) (key k : String) : (m.touch key).peek? k = m.peek? k := by
  cases found : m.peek? key with
  | none => rw [touch, found]
  | some value =>
    rw [touch, found, peek?, List.lookup_cons]
    by_cases same : k = key
    · subst same
      rw [beq_self_eq_true, found]
    · rw [beq_false_of_ne same]
      exact lookup_filter_ne m.entries same

/-- A value is that put last, or it was there before. -/
lemma peek?_put {m : RecentMap α} {key k : String} {value v : α}
    (found : (m.put key value).peek? k = some v) :
    k = key ∧ v = value ∨ k ≠ key ∧ m.peek? k = some v := by
  have whole : ((key, value) :: (m.erase key).entries).lookup k = some v := by
    rw [← List.take_append_drop m.capacity ((key, value) :: _), List.lookup_append]
    exact Option.or_eq_some_iff.mpr (.inl found)
  rw [List.lookup_cons] at whole
  by_cases same : k = key
  · subst same
    rw [beq_self_eq_true] at whole
    exact .inl ⟨rfl, (Option.some.inj whole).symm⟩
  · rw [beq_false_of_ne same] at whole
    exact .inr ⟨same, (lookup_filter_ne m.entries same).symm.trans whole⟩

/-! ### Room for some keys -/

/-- What is beyond the room does not matter for what stays when one key leaves. -/
lemma take_filter_take {keys : List String} (nodup : keys.Nodup) (key : String) (n : Nat) :
    ((keys.take (n + 1)).filter (· ≠ key)).take n = (keys.filter (· ≠ key)).take n := by
  induction keys generalizing n with
  | nil => rfl
  | cons k rest ih =>
    obtain ⟨absent, nodup⟩ := List.nodup_cons.mp nodup
    rw [List.take_succ_cons, List.filter_cons, List.filter_cons]
    by_cases same : k = key
    · subst same
      have others {l : List String} (sub : l ⊆ rest) : l.filter (· ≠ k) = l := by
        refine List.filter_eq_self.mpr fun k' mem => decide_eq_true fun same => ?_
        exact absent (same ▸ sub mem)
      rw [if_neg (by simp), if_neg (by simp), others (List.take_subset ..), others (List.Subset.refl _),
        List.take_take, Nat.min_self]
    · rw [if_pos (by simpa using same), if_pos (by simpa using same)]
      cases n with
      | zero => rfl
      | succ n => rw [List.take_succ_cons, List.take_succ_cons, ih nodup]

/-- A use of a key commutes with forgetting what there is no room for. -/
lemma take_used {keys : List String} (nodup : keys.Nodup) (key : String) (room : Nat) :
    (used key (keys.take room)).take room = (used key keys).take room := by
  cases room with
  | zero => rfl
  | succ n => rw [used, used, List.take_succ_cons, List.take_succ_cons, take_filter_take nodup]

/-- If the key was there, it leaves its room behind. -/
lemma used_take {keys : List String} (nodup : keys.Nodup) {key : String} {room : Nat}
    (mem : key ∈ keys.take room) : used key (keys.take room) = (used key keys).take room := by
  have fewer : ((keys.take room).filter (· ≠ key)).length < (keys.take room).length :=
    List.length_filter_lt_length_iff_exists.mpr ⟨key, mem, by simp⟩
  have room_le := List.length_take_le room keys
  have fits : (used key (keys.take room)).length ≤ room := by
    rw [used, List.length_cons]
    omega
  rw [← take_used nodup, List.take_of_length_le fits]

end RecentMap

end Wayfinder
