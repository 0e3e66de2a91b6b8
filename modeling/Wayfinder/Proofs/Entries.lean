/-
The URLs of a history.

How the operations of a history in memory change its URLs and its position, and what becomes of them
when a request is put into the history (`commit_leaves`). A history of another kind that can be
listed has a `ListedHistory`; writing the state of a page to it changes no URL.
-/
import Mathlib.Tactic.Lemma
import Wayfinder.Navigator.Navigate

namespace Wayfinder

/-! ### Histories in memory -/

namespace MemoryHistory

/-- The URLs of the entries. -/
def urls (h : MemoryHistory) : List String := h.entries.map (·.url)

lemma urls_push (h : MemoryHistory) (e : HistoryEntry) :
    (h.push e).urls = h.urls.take (h.position + 1) ++ [e.url] := by
  simp [urls, push, List.map_take]

lemma position_push (h : MemoryHistory) (e : HistoryEntry) :
    (h.push e).position = (h.urls.take (h.position + 1)).length := by
  simp [urls, push]

lemma bounded_urls (h : MemoryHistory) :
    h.position < h.urls.length ∨ h.urls = [] ∧ h.position = 0 := by
  simpa [urls] using h.bounded

lemma urls_replace (h : MemoryHistory) (e : HistoryEntry) :
    (h.replace e).urls = if h.urls = [] then [e.url] else h.urls.set h.position e.url := by
  rw [replace]
  split
  · rename_i inside
    have some : h.urls ≠ [] := fun empty => by
      rw [urls, List.map_eq_nil_iff] at empty
      simp [empty] at inside
    rw [if_neg some, urls, List.map_set, urls]
  · rename_i outside
    obtain ⟨empty, -⟩ := h.bounded.resolve_left outside
    have empty : h.urls = [] := by rw [urls, empty]; rfl
    rw [if_pos empty, urls_push, empty]
    rfl

lemma position_replace (h : MemoryHistory) (e : HistoryEntry) :
    (h.replace e).position = h.position := by
  rw [replace]
  split
  · rfl
  · rename_i outside
    obtain ⟨empty, first⟩ := h.bounded.resolve_left outside
    simp [push, empty, first]

/-- Going to an offset where there is an entry changes the position only. -/
lemma go_of_index? {h : MemoryHistory} {offset : Int} {i : Nat} (found : h.index? offset = some i) :
    (h.go offset).1.urls = h.urls ∧ (h.go offset).1.position = i ∧
      (h.go offset).2 = h.peek? offset := by
  unfold go
  split
  · rename_i j found'
    obtain rfl := Option.some.inj (found.symm.trans found')
    exact ⟨rfl, rfl, by simp only [peek?, found, Option.bind_some]⟩
  · rename_i none
    cases found.symm.trans none

/-- The index at an offset is as far from the position. -/
lemma index?_eq {h : MemoryHistory} {offset : Int} {i : Nat} (found : h.index? offset = some i) :
    (i : Int) = h.position + offset := by
  simp only [index?] at found
  split at found
  · obtain rfl := Option.some.inj found
    omega
  · cases found

lemma index?_back {h : MemoryHistory} {i : Nat} (found : h.index? (-1) = some i) :
    0 < h.position ∧ i = h.position - 1 := by
  have := index?_eq found
  omega

lemma index?_forward {h : MemoryHistory} {i : Nat} (found : h.index? 1 = some i) :
    i = h.position + 1 := by
  have := index?_eq found
  omega

/-- The URL at an offset is one of the URLs. -/
lemma of_peek? {h : MemoryHistory} {offset : Int} {e : HistoryEntry}
    (found : h.peek? offset = some e) :
    ∃ i, h.index? offset = some i ∧ h.urls[i]? = some e.url := by
  obtain ⟨i, index, entry⟩ := Option.bind_eq_some_iff.mp found
  exact ⟨i, index, by rw [urls, List.getElem?_map, entry]; rfl⟩

/-- Which URL is at an offset depends on the URLs and the position only. -/
lemma peek?_congr {h h' : MemoryHistory} (same : h'.urls = h.urls)
    (position : h'.position = h.position) (offset : Int) :
    (h'.peek? offset).map (·.url) = (h.peek? offset).map (·.url) := by
  have length : h'.entries.length = h.entries.length := by
    simpa [urls] using congrArg List.length same
  have index : h'.index? offset = h.index? offset := by simp only [index?, position, length]
  have url (i : Nat) : h'.entries[i]?.map (·.url) = h.entries[i]?.map (·.url) := by
    simpa [urls] using congrArg (·[i]?) same
  simp only [peek?, index, Option.map_bind]
  exact congrArg _ (funext url)

end MemoryHistory

/-! ### Histories that can be listed -/

/-- A history whose entries can be listed, with the laws of its current entry. -/
class ListedHistory (η : Type) [History η] where
  /-- The entries and the position. -/
  listed : η → MemoryHistory
  /-- The current entry is the one at the position. -/
  current?_eq (h : η) : History.current? h = (listed h).current?
  /-- Replacing overwrites the current entry. -/
  replace_eq (h : η) (e : HistoryEntry) : listed (History.replace h e) = (listed h).replace e

instance : ListedHistory MemoryHistory where
  listed h := h
  current?_eq _ := rfl
  replace_eq _ _ := rfl

lemma set_of_getElem? {urls : List String} {i : Nat} {url : String} (same : urls[i]? = some url) :
    urls.set i url = urls := by
  obtain ⟨inside, rfl⟩ := List.getElem?_eq_some_iff.mp same
  exact List.set_getElem_self inside

/-- Replacing an entry without a change of its URL changes no other entry, URL or position. -/
lemma MemoryHistory.replace_of_current? {h : MemoryHistory} {entry : HistoryEntry}
    (current : h.current? = some entry) (state : HistoryState) :
    (h.replace { url := entry.url, state }).entries =
        h.entries.set h.position { url := entry.url, state } ∧
      (h.replace { url := entry.url, state }).urls = h.urls ∧
      (h.replace { url := entry.url, state }).position = h.position := by
  obtain ⟨inside, -⟩ := List.getElem?_eq_some_iff.mp current
  have same : h.urls[h.position]? = some entry.url := by
    rw [urls, List.getElem?_map]
    exact congrArg (Option.map (·.url)) current
  rw [replace, dif_pos inside]
  refine ⟨rfl, ?_, rfl⟩
  rw [urls, List.map_set]
  exact set_of_getElem? same

/-- Capturing the scroll position of a page changes no URL of the history and no position. -/
lemma Navigator.listed_leftHistory {μ κ η : Type} [History η] [ListedHistory η]
    (n : Navigator μ κ η) (context : Context κ) :
    (ListedHistory.listed (n.leftHistory context)).entries =
        (if n.currentUrl? = some context.url then
          (ListedHistory.listed n.history).entries.set (ListedHistory.listed n.history).position
            { url := context.url, state := n.leftState context }
        else (ListedHistory.listed n.history).entries) ∧
      (ListedHistory.listed (n.leftHistory context)).urls =
        (ListedHistory.listed n.history).urls ∧
      (ListedHistory.listed (n.leftHistory context)).position =
        (ListedHistory.listed n.history).position := by
  unfold leftHistory
  split
  · rename_i here
    obtain ⟨entry, current, same⟩ := Option.map_eq_some_iff.mp here
    rw [ListedHistory.current?_eq] at current
    rw [ListedHistory.replace_eq, ← same]
    exact MemoryHistory.replace_of_current? current (n.leftState context)
  · exact ⟨rfl, rfl, rfl⟩

/-! ### What requests leave -/

/-- The URLs and the position that a request leaves, with the URL it has led to in the end. -/
def Kind.leaves (kind : Kind) (urls : List String) (position : Nat) (url : String) :
    List String × Nat :=
  match kind with
  | .push => (urls.take (position + 1) ++ [url], (urls.take (position + 1)).length)
  | .replace => (if urls = [] then [url] else urls.set position url, position)
  | .back => (urls.set (position - 1) url, position - 1)
  | .forward => (urls.set (position + 1) url, position + 1)

/-- Where a traversal leads in a history in memory. -/
lemma leaves_of_index? {kind : Kind} {offset : Int} (way : kind.offset? = some offset)
    {h : MemoryHistory} {i : Nat} (index : h.index? offset = some i) (url : String) :
    kind.leaves h.urls h.position url = (h.urls.set i url, i) := by
  cases kind with
  | push | replace => cases way
  | back =>
    cases way
    rw [(MemoryHistory.index?_back index).2, Kind.leaves]
  | forward =>
    cases way
    rw [MemoryHistory.index?_forward index, Kind.leaves]

/-- A traversal to an entry that has its URL just moves. -/
lemma commit_of_peek? {h : MemoryHistory} {r : Request} {offset : Int}
    (kind : r.kind.offset? = some offset) {e : HistoryEntry} (found : h.peek? offset = some e)
    (same : e.url = r.url) : Navigator.commit h r = ((h.go offset).1, e.state) := by
  obtain ⟨i, index, -⟩ := MemoryHistory.of_peek? found
  have arrived : (h.go offset).2 = some e := (MemoryHistory.go_of_index? index).2.2.trans found
  have went : History.go h offset = ((h.go offset).1, some e) := Prod.ext rfl arrived
  have passes : (some e).filter (fun entry => entry.url == r.url) = some e := by simp [same]
  cases way : r.kind with
  | push | replace => rw [way] at kind; cases kind
  | back | forward =>
    have offset_eq : r.kind.offset?.getD 0 = offset := by rw [kind]; rfl
    simp only [Navigator.commit, offset_eq, went, passes]
    simp only [way]

/-- Putting a request into the history leaves what its kind leaves, if a traversal still leads to
its URL: then the entry arrived at is the one that was asked for. -/
theorem commit_leaves {h : MemoryHistory} {r : Request}
    (aim : ∀ offset, r.kind.offset? = some offset → ∃ e, h.peek? offset = some e ∧ e.url = r.url) :
    ((Navigator.commit h r).1.urls, (Navigator.commit h r).1.position) =
      r.kind.leaves h.urls h.position r.url := by
  have moves (offset : Int) (kind : r.kind.offset? = some offset) :
      ∃ i, h.index? offset = some i ∧
        ((Navigator.commit h r).1.urls, (Navigator.commit h r).1.position) =
          (h.urls.set i r.url, i) := by
    obtain ⟨e, found, same⟩ := aim offset kind
    obtain ⟨i, index, url⟩ := MemoryHistory.of_peek? found
    obtain ⟨urls, position, -⟩ := MemoryHistory.go_of_index? index
    refine ⟨i, index, ?_⟩
    rw [commit_of_peek? kind found same, urls, position, set_of_getElem? (same ▸ url)]
  cases kind : r.kind with
  | push =>
    simp only [Navigator.commit, kind]
    exact Prod.ext (h.urls_push { url := r.url }) (h.position_push { url := r.url })
  | replace =>
    simp only [Navigator.commit, kind]
    exact Prod.ext (h.urls_replace { url := r.url }) (h.position_replace { url := r.url })
  | back =>
    obtain ⟨i, index, left⟩ := moves (-1) (by rw [kind]; rfl)
    rw [left, leaves_of_index? rfl index]
  | forward =>
    obtain ⟨i, index, left⟩ := moves 1 (by rw [kind]; rfl)
    rw [left, leaves_of_index? rfl index]

/-- Where a request has been put, a redirect overwrites its URL. -/
lemma leaves_replace (kind : Kind) {urls : List String} {position : Nat} (url url' : String)
    (bounded : position < urls.length ∨ urls = [] ∧ position = 0)
    (some : kind.isTraversal → urls ≠ []) :
    Kind.replace.leaves (kind.leaves urls position url).1 (kind.leaves urls position url).2 url' =
      kind.leaves urls position url' := by
  cases kind with
  | push => simp [Kind.leaves]
  | replace =>
    rcases bounded with inside | ⟨rfl, rfl⟩
    · have some : urls ≠ [] := List.ne_nil_of_length_pos (Nat.zero_lt_of_lt inside)
      simp [Kind.leaves, some]
    · rfl
  | back => simp [Kind.leaves, some rfl]
  | forward => simp [Kind.leaves, some rfl]

end Wayfinder
