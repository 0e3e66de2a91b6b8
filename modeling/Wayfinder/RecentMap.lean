/-
Maps that forget.

A `RecentMap` keeps the values of at most `capacity` keys. Its entries are in the order of their last
use, the latest first; where there is no room for another key, the one used longest ago is forgotten.

* `RecentMap.put`, `RecentMap.touch`: the uses.
* `RecentMap.peek?`, `RecentMap.erase`: looking and removing, which use nothing.
* `size_put_le`: a map never holds more than its capacity.
-/

namespace Wayfinder

/-- A map that keeps the values of the keys used last. -/
structure RecentMap (α : Type) where
  /-- How many keys are kept. -/
  capacity : Nat
  /-- The entries, the one used last first. -/
  entries : List (String × α)

namespace RecentMap

variable {α : Type}

/-- A map without entries. -/
def empty (capacity : Nat) : RecentMap α := ⟨capacity, []⟩

/-- The number of entries. -/
def size (m : RecentMap α) : Nat := m.entries.length

/-- Whether there are no entries. -/
def isEmpty (m : RecentMap α) : Bool := m.entries.isEmpty

/-- The value of a key. -/
def peek? (m : RecentMap α) (key : String) : Option α := m.entries.lookup key

/-- The map without a key. -/
def erase (m : RecentMap α) (key : String) : RecentMap α :=
  { m with entries := m.entries.filter (·.1 ≠ key) }

/-- The map without entries. -/
def clear (m : RecentMap α) : RecentMap α := { m with entries := [] }

/-- The map with a new value under a key, which counts as a use of the key. -/
def put (m : RecentMap α) (key : String) (value : α) : RecentMap α :=
  { m with entries := ((key, value) :: (m.erase key).entries).take m.capacity }

/-- The map after a use of a key; a key that is not there stays away. -/
def touch (m : RecentMap α) (key : String) : RecentMap α :=
  match m.peek? key with
  | some value => { m with entries := (key, value) :: (m.erase key).entries }
  | none => m

/-- A map never holds more than its capacity. -/
theorem size_put_le (m : RecentMap α) (key : String) (value : α) :
    (m.put key value).size ≤ m.capacity := by
  simp only [size, put, List.length_take]
  exact Nat.min_le_left _ _

/-- The value put last is there, if there is room for anything. -/
theorem peek?_put_self (m : RecentMap α) (key : String) (value : α) (h : 0 < m.capacity) :
    (m.put key value).peek? key = some value := by
  obtain ⟨n, hn⟩ : ∃ n, m.capacity = n + 1 := ⟨m.capacity - 1, by omega⟩
  simp [peek?, put, hn]

end RecentMap

end Wayfinder
