/-
What pages are left with.

`Keepsakes` is kept beside a run: for every history entry it has what the page of the entry had when
it was left last, its values and where the surface was scrolled to. This is written down when the
turn of a request begins, filed when the page is really left, and forgotten when the entry is
overwritten or dropped. It looks at no history entry, at no scroll store and at no URL.

* `Keepsakes.note`, `Moment.keepsakes`: what the events of a run do to the keepsakes.
* `Agrees`: the entries of a history keep what the keepsakes say.
* `Keepsakes.follows`: a request that is put into the history leaves the two in agreement.
-/
import Wayfinder.Proofs.Entries
import Wayfinder.Proofs.Moment

namespace Wayfinder

variable {μ κ η : Type}

/-! ### Keepsakes -/

/-- What a page had when it was left. -/
structure Keepsake where
  /-- Its values. -/
  extra : Parameters
  /-- Where the surface was scrolled to. -/
  offset : ScrollPosition
  deriving DecidableEq

/-- The same, as a history entry keeps it. -/
def Keepsake.state (kept : Keepsake) : HistoryState :=
  { scroll := some kept.offset, extra := kept.extra }

/-- What the page that is shown has now. -/
def Navigator.keepsake? (n : Navigator μ κ η) : Option Keepsake :=
  n.active.map fun page => { extra := page.context.state.extra, offset := n.viewport.position }

/-- What the pages of a history were left with. -/
structure Keepsakes where
  /-- For every entry, what its page was left with last. -/
  entries : List (Option Keepsake)
  /-- The index of the current entry. -/
  position : Nat
  /-- What the page had that is about to be left, if there is one. -/
  leaving : Option Keepsake := none
  /-- What is going to happen to the history. -/
  kind : Kind := .replace

namespace Keepsakes

/-- The entries once the page that is about to be left has been left. -/
def filed (k : Keepsakes) : List (Option Keepsake) :=
  match k.leaving with
  | none => k.entries
  | some kept => k.entries.set k.position (some kept)

/-- The page is left, or its entry is overwritten. -/
def commit (k : Keepsakes) : Keepsakes :=
  match k.kind with
  | .push =>
    let kept := k.filed.take (k.position + 1)
    { entries := kept ++ [none], position := kept.length }
  | .replace =>
    { entries := if k.entries = [] then [none] else k.entries.set k.position none
      position := k.position }
  | .back => { entries := k.filed, position := k.position - 1 }
  | .forward => { entries := k.filed, position := k.position + 1 }

lemma commit_leaving (k : Keepsakes) : k.commit.leaving = none := by
  unfold commit
  split <;> rfl

lemma commit_kind (k : Keepsakes) : k.commit.kind = .replace := by
  unfold commit
  split <;> rfl

/-- What an event of an act says; `n` is the navigator before the act. The URLs that entry chains
lead to overwrite the entry, and so does a change of the address, unless it adds an entry. -/
def note (n : Navigator μ κ η) (a : Act κ) (k : Keepsakes) : Event μ → Keepsakes
  | .began r => { k with leaving := n.keepsake?, kind := r.kind }
  | .committed _ => k.commit
  | .readdressed (.success _) =>
    match a with
    | .inPlace true _ => { k with leaving := n.keepsake?, kind := .push : Keepsakes }.commit
    | _ => { k with leaving := none, kind := .replace : Keepsakes }.commit
  | _ => k

/-- The keepsake of the current entry. -/
def current? (k : Keepsakes) : Option Keepsake := (k.entries[k.position]?).join

/-- Before anything has happened there is no keepsake. -/
def blank (h : MemoryHistory) : Keepsakes :=
  { entries := h.entries.map fun _ => none, position := h.position }

end Keepsakes

/-- The keepsakes after some acts. -/
def Moment.keepsakes [Named μ] [Named κ] [History η] (m : Moment μ κ η) (k : Keepsakes) :
    List (Act κ) → Keepsakes
  | [] => k
  | a :: acts =>
    (m.step a).1.keepsakes ((m.step a).2.foldl (Keepsakes.note m.navigator a) k) acts

lemma Moment.keepsakes_append [Named μ] [Named κ] [History η] (m : Moment μ κ η) (k : Keepsakes)
    (acts acts' : List (Act κ)) :
    m.keepsakes k (acts ++ acts') = (m.after acts).keepsakes (m.keepsakes k acts) acts' := by
  induction acts generalizing m k with
  | nil => rfl
  | cons a acts ih => exact ih ..

/-! ### Agreement -/

/-- A history agrees with keepsakes: an entry that has one keeps just that. -/
structure Agrees (kept : List (Option Keepsake)) (h : MemoryHistory) : Prop where
  length : kept.length = h.entries.length
  state : ∀ (i : Nat) (s : Keepsake), kept[i]? = some (some s) →
    h.entries[i]?.map (·.state) = some s.state

namespace Agrees

variable {kept : List (Option Keepsake)} {h : MemoryHistory}

lemma blank (h : MemoryHistory) : Agrees (Keepsakes.blank h).entries h where
  length := by simp [Keepsakes.blank]
  state i s found := by
    simp only [Keepsakes.blank, List.getElem?_map] at found
    obtain ⟨e, -, kept⟩ := Option.map_eq_some_iff.mp found
    cases kept

/-- A keepsake may be forgotten. -/
lemma forget (agrees : Agrees kept h) (i : Nat) : Agrees (kept.set i none) h where
  length := by simpa using agrees.length
  state j s found := by
    refine agrees.state j s ?_
    rw [List.getElem?_set] at found
    split at found
    · split at found <;> simp at found
    · exact found

/-- Overwriting the current entry makes its keepsake void. -/
lemma overwrite {i : Nat} (agrees : Agrees (kept.set i none) h) (here : i = h.position)
    (e : HistoryEntry) : Agrees (if kept = [] then [none] else kept.set i none) (h.replace e) := by
  subst here
  have length : kept.length = h.entries.length := by simpa using agrees.length
  rcases h.bounded with inside | ⟨empty, first⟩
  · have some : kept ≠ [] := List.ne_nil_of_length_pos (by omega)
    rw [if_neg some, MemoryHistory.replace, dif_pos inside]
    refine ⟨by simpa using length, fun j s found => ?_⟩
    have other : h.position ≠ j := by
      rintro rfl
      rw [List.getElem?_set_self (by omega)] at found
      cases found
    rw [List.getElem?_set_ne other]
    exact agrees.state j s found
  · have none : kept = [] := List.length_eq_zero_iff.mp (by rw [length, empty]; rfl)
    rw [if_pos none, MemoryHistory.replace, dif_neg (by simp [empty])]
    refine ⟨by simp [MemoryHistory.push, empty], fun j s found => ?_⟩
    rw [List.getElem?_singleton] at found
    split at found <;> cases found

/-- A new entry has no keepsake, and those behind the current one are dropped. -/
lemma push (agrees : Agrees kept h) (e : HistoryEntry) :
    Agrees (kept.take (h.position + 1) ++ [none]) (h.push e) := by
  have length : (kept.take (h.position + 1)).length = (h.entries.take (h.position + 1)).length := by
    rw [List.length_take, List.length_take, agrees.length]
  refine ⟨by simp only [MemoryHistory.push, List.length_append, length, List.length_singleton],
    fun i s found => ?_⟩
  rw [MemoryHistory.push]
  rw [List.getElem?_append] at found ⊢
  rw [← length]
  split at found
  · rename_i inside
    rw [if_pos inside]
    rw [List.getElem?_take] at found ⊢
    split at found
    · rename_i below
      rw [if_pos below]
      exact agrees.state i s found
    · cases found
  · rw [List.getElem?_singleton] at found
    split at found <;> cases found

/-- The page of the current entry is about to be left, and the entry gets what it has. -/
lemma leave {i : Nat} (agrees : Agrees (kept.set i none) h) (here : i = h.position)
    {entry : HistoryEntry} (current : h.current? = some entry) (s : Keepsake) :
    Agrees (kept.set i (some s)) (h.replace { url := entry.url, state := s.state }) := by
  subst here
  obtain ⟨inside, -⟩ := List.getElem?_eq_some_iff.mp current
  obtain ⟨entries, -, -⟩ := MemoryHistory.replace_of_current? current s.state
  have length : kept.length = h.entries.length := by simpa using agrees.length
  refine ⟨by simp [entries, length], fun j s' found => ?_⟩
  rw [entries]
  by_cases other : h.position = j
  · subst other
    rw [List.getElem?_set_self (by omega)] at found ⊢
    obtain rfl := Option.some.inj (Option.some.inj found)
    rfl
  · rw [List.getElem?_set_ne other] at found ⊢
    refine agrees.state j s' ?_
    rwa [List.getElem?_set_ne other]

end Agrees

/-! ### Putting a request into the history -/

/-- Going to an offset where there is an entry changes the position only. -/
lemma MemoryHistory.entries_go {h : MemoryHistory} {offset : Int} {i : Nat}
    (found : h.index? offset = some i) :
    (h.go offset).1.entries = h.entries ∧ (h.go offset).1.position = i := by
  unfold go
  split
  · rename_i j found'
    exact ⟨rfl, Option.some.inj (found'.symm.trans found)⟩
  · rename_i none
    cases found.symm.trans none

/-- A request with the entry that it goes to, if it is a traversal. -/
def Aimed (h : MemoryHistory) (r : Request) : Prop :=
  ∀ offset, r.kind.offset? = some offset → ∃ e, h.peek? offset = some e ∧ e.url = r.url

/-- What a request is aimed at depends on the URLs and the position only. -/
lemma Aimed.congr {h h' : MemoryHistory} {r : Request} (aimed : Aimed h r) (urls : h'.urls = h.urls)
    (position : h'.position = h.position) : Aimed h' r := by
  intro offset way
  obtain ⟨e, found, same⟩ := aimed offset way
  refine Option.map_eq_some_iff.mp ?_
  rw [MemoryHistory.peek?_congr urls position, found, Option.map_some, same]

/-- So does the current URL. -/
lemma MemoryHistory.current?_congr {h h' : MemoryHistory} (urls : h'.urls = h.urls)
    (position : h'.position = h.position) :
    h'.current?.map (·.url) = h.current?.map (·.url) := by
  have url (h : MemoryHistory) : h.current?.map (·.url) = h.urls[h.position]? := by
    rw [current?, MemoryHistory.urls, List.getElem?_map]
  rw [url, url, urls, position]

/-- What a traversal does to the history, and where it arrives. -/
lemma Aimed.commit_eq {h : MemoryHistory} {r : Request} (aimed : Aimed h r) {offset : Int}
    (kind : r.kind.offset? = some offset) :
    ∃ i e, h.index? offset = some i ∧ h.entries[i]? = some e ∧ e.url = r.url ∧
      (Navigator.commit h r).1.entries = h.entries ∧ (Navigator.commit h r).1.position = i ∧
      (Navigator.commit h r).2 = e.state := by
  obtain ⟨e, found, same⟩ := aimed offset kind
  obtain ⟨i, index, entry⟩ := Option.bind_eq_some_iff.mp found
  obtain ⟨entries, position⟩ := MemoryHistory.entries_go index
  rw [commit_of_peek? kind found same]
  exact ⟨i, e, index, entry, same, entries, position, rfl⟩

/-- A request that has been put into the history is the current entry. -/
lemma Aimed.current_commit {h : MemoryHistory} {r : Request} (aimed : Aimed h r) :
    (Navigator.commit h r).1.current?.map (·.url) = some r.url := by
  have traversal {offset : Int} (kind : r.kind.offset? = some offset) :
      (Navigator.commit h r).1.current?.map (·.url) = some r.url := by
    obtain ⟨i, e, -, entry, same, entries, position, -⟩ := aimed.commit_eq kind
    rw [MemoryHistory.current?, entries, position, entry, Option.map_some, same]
  cases kind : r.kind with
  | push =>
    simp only [Navigator.commit, kind]
    simp [History.push, MemoryHistory.push, MemoryHistory.current?]
  | replace =>
    simp only [Navigator.commit, kind, History.replace, MemoryHistory.replace]
    split
    · rename_i inside
      simp [MemoryHistory.current?, inside]
    · simp [MemoryHistory.push, MemoryHistory.current?]
  | back => exact traversal (by rw [kind]; rfl)
  | forward => exact traversal (by rw [kind]; rfl)

namespace Keepsakes

variable {k : Keepsakes} {h : MemoryHistory} {r : Request}

lemma filed_set (k : Keepsakes) : k.filed.set k.position none = k.entries.set k.position none := by
  unfold filed
  split
  · rfl
  · exact List.set_set ..

/-- The keepsakes follow a request into the history: the two agree afterwards, and a traversal is
given the state that the keepsake of its entry says. -/
structure Follows (k : Keepsakes) (h : MemoryHistory) (r : Request) : Prop where
  agrees : Agrees k.commit.entries (Navigator.commit h r).1
  position : k.commit.position = (Navigator.commit h r).1.position
  state : r.kind.isTraversal → ∀ s, k.commit.current? = some s →
    (Navigator.commit h r).2 = s.state

lemma follows_push (position : k.position = h.position) (agrees : Agrees k.filed h)
    (kind : k.kind = .push) (way : r.kind = .push) : k.Follows h r := by
  have committed : k.commit = { entries := k.filed.take (k.position + 1) ++ [none]
                                position := (k.filed.take (k.position + 1)).length } := by
    simp only [commit, kind]
  have put : (Navigator.commit h r).1 = h.push { url := r.url } := by
    simp only [Navigator.commit, way]
    rfl
  refine ⟨?_, ?_, fun traverses => ?_⟩
  · rw [committed, put, position]
    exact agrees.push _
  · simp [committed, put, MemoryHistory.push, agrees.length, position]
  · rw [way] at traverses
    cases traverses

/-- An entry that is overwritten may have had any state. -/
lemma follows_replace (position : k.position = h.position)
    (agrees : Agrees (k.entries.set k.position none) h) (kind : k.kind = .replace)
    (way : r.kind = .replace) : k.Follows h r := by
  have committed : k.commit =
      { entries := if k.entries = [] then [none] else k.entries.set k.position none
        position := k.position } := by
    simp only [commit, kind]
  have put : (Navigator.commit h r).1 = h.replace { url := r.url } := by
    simp only [Navigator.commit, way]
    rfl
  refine ⟨?_, ?_, fun traverses => ?_⟩
  · rw [committed, put]
    exact agrees.overwrite position _
  · rw [committed, put, position, MemoryHistory.position_replace]
  · rw [way] at traverses
    cases traverses

lemma follows_traversal (agrees : Agrees k.filed h) (aimed : Aimed h r) {offset : Int}
    (way : r.kind.offset? = some offset) (entries : k.commit.entries = k.filed)
    (moved : ∀ i, h.index? offset = some i → k.commit.position = i) : k.Follows h r := by
  obtain ⟨i, e, index, entry, -, entries', position', state⟩ := aimed.commit_eq way
  refine ⟨?_, (moved i index).trans position'.symm, fun _ s here => ?_⟩
  · rw [entries]
    exact ⟨by rw [entries', agrees.length], by rw [entries']; exact agrees.state⟩
  · rw [current?, entries, moved i index, Option.join_eq_some_iff] at here
    have kept := agrees.state i s here
    rw [entry] at kept
    rw [state]
    exact Option.some.inj kept

/-- The keepsakes follow every request, once the page before has been filed. -/
lemma follows (position : k.position = h.position) (agrees : Agrees k.filed h)
    (kind : k.kind = r.kind) (aimed : Aimed h r) : k.Follows h r := by
  cases way : r.kind with
  | push => exact follows_push position agrees (kind.trans way) way
  | replace =>
    have forgotten := agrees.forget k.position
    rw [filed_set] at forgotten
    exact follows_replace position forgotten (kind.trans way) way
  | back =>
    have committed : k.commit = { entries := k.filed, position := k.position - 1 } := by
      simp only [commit, kind, way]
    refine follows_traversal agrees aimed (by rw [way]; rfl) (by rw [committed]) fun i index => ?_
    rw [committed, (MemoryHistory.index?_back index).2, position]
  | forward =>
    have committed : k.commit = { entries := k.filed, position := k.position + 1 } := by
      simp only [commit, kind, way]
    refine follows_traversal agrees aimed (by rw [way]; rfl) (by rw [committed]) fun i index => ?_
    rw [committed, MemoryHistory.index?_forward index, position]

end Keepsakes

end Wayfinder
