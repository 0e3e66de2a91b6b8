/-
Session history.

A navigator works on the history of its host. `History` says what such a history has to offer, and
`MemoryHistory` is one that is held in memory: the entries, oldest first, and the position of the
current one. Offsets are relative to the current entry: minus one is back, one is forward.
-/
import Wayfinder.Parameters
import Wayfinder.Scroll

namespace Wayfinder

/-- What is kept beside the URL of a history entry. -/
structure HistoryState where
  /-- Where the page was scrolled to when it was left. -/
  scroll : Option ScrollPosition := none
  /-- Values that pages keep for themselves. -/
  extra : Parameters := .empty
  deriving DecidableEq

instance : Inhabited HistoryState := ⟨{}⟩

/-- An entry of the history. -/
structure HistoryEntry where
  /-- The URL. -/
  url : String
  /-- What is kept beside it. -/
  state : HistoryState := {}
  deriving DecidableEq

/-- What a navigator needs of a history. -/
class History (η : Type) where
  /-- The current entry; there is none before the first navigation. -/
  current? : η → Option HistoryEntry
  /-- Add an entry behind the current one and drop all later ones. -/
  push : η → HistoryEntry → η
  /-- Overwrite the current entry; the first entry is added. -/
  replace : η → HistoryEntry → η
  /-- The entry at an offset, without moving. -/
  peek? : η → Int → Option HistoryEntry
  /-- Move by an offset and give the entry arrived at; without one stay. -/
  go : η → Int → η × Option HistoryEntry
  /-- The number of entries. -/
  size : η → Nat

namespace History

variable {η : Type} [History η]

/-- Whether there is an entry to go back to. -/
def canGoBack (h : η) : Bool := (peek? h (-1)).isSome

/-- Whether there is an entry to go forward to. -/
def canGoForward (h : η) : Bool := (peek? h 1).isSome

end History

/-- A history in memory. The current entry is one of the entries, unless there is none. -/
structure MemoryHistory where
  /-- The entries, oldest first. -/
  entries : List HistoryEntry := []
  /-- The index of the current entry. -/
  position : Nat := 0
  /-- The position is that of an entry, or the history is empty. -/
  bounded : position < entries.length ∨ entries = [] ∧ position = 0 := by exact .inr ⟨rfl, rfl⟩
  deriving DecidableEq

namespace MemoryHistory

/-- The current entry. -/
def current? (h : MemoryHistory) : Option HistoryEntry := h.entries[h.position]?

/-- Add an entry behind the current one and drop all later ones. -/
def push (h : MemoryHistory) (e : HistoryEntry) : MemoryHistory :=
  let kept := h.entries.take (h.position + 1)
  { entries := kept ++ [e], position := kept.length, bounded := by simp }

/-- Overwrite the current entry; the first entry is added. -/
def replace (h : MemoryHistory) (e : HistoryEntry) : MemoryHistory :=
  if inside : h.position < h.entries.length then
    ⟨h.entries.set h.position e, h.position, .inl (by simpa using inside)⟩
  else h.push e

/-- The index of the entry at an offset, if there is one. -/
def index? (h : MemoryHistory) (offset : Int) : Option Nat :=
  let target := (h.position : Int) + offset
  if 0 ≤ target ∧ target < h.entries.length then some target.toNat else none

/-- The entry at an offset has an index below the size. -/
theorem lt_of_index?_eq_some {h : MemoryHistory} {offset : Int} {i : Nat}
    (found : h.index? offset = some i) : i < h.entries.length := by
  simp only [index?] at found
  split at found
  · simp only [Option.some.injEq] at found
    omega
  · cases found

/-- The entry at an offset. -/
def peek? (h : MemoryHistory) (offset : Int) : Option HistoryEntry :=
  (h.index? offset).bind fun i => h.entries[i]?

/-- Move by an offset, if there is an entry. -/
def go (h : MemoryHistory) (offset : Int) : MemoryHistory × Option HistoryEntry :=
  match found : h.index? offset with
  | some i => (⟨h.entries, i, .inl (lt_of_index?_eq_some found)⟩, h.entries[i]?)
  | none => (h, none)

instance : History MemoryHistory where
  current? := current?
  push := push
  replace := replace
  peek? := peek?
  go := go
  size h := h.entries.length

end MemoryHistory

end Wayfinder
