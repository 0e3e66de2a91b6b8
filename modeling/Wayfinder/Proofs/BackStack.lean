/-
The back stack of a browser.

Seen from its current entry a history is two stacks: the entries before it and the entries behind it, the
nearest ones on top. `BackStack` is a history put this way, in which everything is done one entry at a
time. A history in memory is a list with a place in it instead, and goes to an offset at once; whatever is
done with either of them, from the beginning on, they stay the same history and give the same answers.

Offsets are numbers of 64 bits. The place that an offset leads to is found in the arithmetic of such
numbers without an overflow (`index64?_eq`), and every way there has a way back (`go_neg`).

* `BackStack`, `BackStack.go?`: the history as two stacks, and going in it step by step.
* `BackStack.toHistory`: the list and the place of the same history.
* `back_stack`: the same is done to both.
-/
import Wayfinder.Proofs.Keepsakes

namespace Wayfinder

/-- A history as it is seen from its current entry. -/
inductive BackStack where
  /-- There are no entries. -/
  | empty
  /-- The entries before the current one, that one, and the entries behind it, the nearest ones first. -/
  | around (before : List HistoryEntry) (current : HistoryEntry) (behind : List HistoryEntry)

/-- What is done with a history. -/
inductive HistoryUse where
  /-- An entry is added. -/
  | push (e : HistoryEntry)
  /-- The current entry is overwritten. -/
  | replace (e : HistoryEntry)
  /-- Somebody looks at the entry at an offset. -/
  | peek (offset : Int64)
  /-- Somebody goes to the entry at an offset. -/
  | go (offset : Int64)

namespace BackStack

/-- The entries before the current one. -/
def before : BackStack → List HistoryEntry
  | empty => []
  | around before _ _ => before

/-- The entries behind the current one. -/
def behind : BackStack → List HistoryEntry
  | empty => []
  | around _ _ behind => behind

/-- The current entry. -/
def current? : BackStack → Option HistoryEntry
  | empty => none
  | around _ current _ => some current

/-- The current entry goes onto the stack of those before, and those behind are dropped. -/
def push (e : HistoryEntry) : BackStack → BackStack
  | empty => around [] e []
  | around before current _ => around (current :: before) e []

/-- The current entry is another one; the first entry is added. -/
def replace (e : HistoryEntry) : BackStack → BackStack
  | empty => push e empty
  | around before _ behind => around before e behind

/-- One entry back. -/
def back? : BackStack → Option BackStack
  | around (e :: before) current behind => some (around before e (current :: behind))
  | _ => none

/-- One entry forward. -/
def forward? : BackStack → Option BackStack
  | around before current (e :: behind) => some (around (current :: before) e behind)
  | _ => none

/-- Some steps of one kind, as long as there are entries. -/
def walk? (step : BackStack → Option BackStack) : Nat → BackStack → Option BackStack
  | 0, empty => none
  | 0, s => some s
  | n + 1, s => (step s).bind (walk? step n)

/-- As many steps as an offset has, if there are entries for all of them. -/
def go? (offset : Int) (s : BackStack) : Option BackStack :=
  match offset with
  | .ofNat n => walk? forward? n s
  | .negSucc n => walk? back? (n + 1) s

/-- The history after a use, and the answer. -/
def use (s : BackStack) : HistoryUse → BackStack × Option HistoryEntry
  | .push e => (s.push e, none)
  | .replace e => (s.replace e, none)
  | .peek offset => (s, (s.go? offset.toInt).bind current?)
  | .go offset => ((s.go? offset.toInt).getD s, (s.go? offset.toInt).bind current?)

/-- The history after some uses. -/
def after (s : BackStack) (uses : List HistoryUse) : BackStack :=
  uses.foldl (fun s u => (s.use u).1) s

/-- The entries, oldest first. -/
def entries : BackStack → List HistoryEntry
  | empty => []
  | around before current behind => before.reverse ++ current :: behind

/-- The list of the entries, with the place of the current one. -/
def toHistory (s : BackStack) : MemoryHistory where
  entries := s.entries
  position := s.before.length
  bounded := by
    cases s with
    | empty => exact .inr ⟨rfl, rfl⟩
    | around before current behind => exact .inl (by simp [entries, BackStack.before])

end BackStack

namespace MemoryHistory

/-- The history after a use, and the answer. -/
def use (h : MemoryHistory) : HistoryUse → MemoryHistory × Option HistoryEntry
  | .push e => (h.push e, none)
  | .replace e => (h.replace e, none)
  | .peek offset => (h, h.peek? offset.toInt)
  | .go offset => h.go offset.toInt

/-- The history after some uses. -/
def after (h : MemoryHistory) (uses : List HistoryUse) : MemoryHistory :=
  uses.foldl (fun h u => (h.use u).1) h

/-- Histories with the same entries and the same position are the same. -/
lemma eq_of_entries {h h' : MemoryHistory} (entries : h.entries = h'.entries)
    (position : h.position = h'.position) : h = h' := by
  cases h
  cases h'
  simp_all

/-- Whether there is an entry at an offset. -/
lemma index?_eq_some_iff {h : MemoryHistory} {offset : Int} {i : Nat} :
    h.index? offset = some i ↔ (i : Int) = h.position + offset ∧ i < h.entries.length := by
  simp only [index?]
  split
  · rw [Option.some_inj]
    omega
  · simp only [reduceCtorEq, false_iff]
    omega

lemma index?_eq_none_iff {h : MemoryHistory} {offset : Int} :
    h.index? offset = none ↔
      (h.position : Int) + offset < 0 ∨ (h.entries.length : Int) ≤ h.position + offset := by
  simp only [index?]
  split
  · simp only [reduceCtorEq, false_iff]
    omega
  · simp only [true_iff]
    omega

lemma go_of_some {h : MemoryHistory} {offset : Int} {i : Nat} (found : h.index? offset = some i) :
    (h.go offset).1.entries = h.entries ∧ (h.go offset).1.position = i ∧
      (h.go offset).2 = h.entries[i]? := by
  obtain ⟨entries, position⟩ := entries_go found
  refine ⟨entries, position, ?_⟩
  rw [(go_of_index? found).2.2, peek?, found, Option.bind_some]

lemma go_of_none {h : MemoryHistory} {offset : Int} (none : h.index? offset = none) :
    h.go offset = (h, .none) := by
  unfold go
  split
  · rename_i i found
    cases none.symm.trans found
  · rfl

/-- What is seen at an offset is what one arrives at. -/
lemma peek?_eq_go (h : MemoryHistory) (offset : Int) : h.peek? offset = (h.go offset).2 := by
  rcases found : h.index? offset with _ | i
  · rw [go_of_none found, peek?, found, Option.bind_none]
  · rw [(go_of_index? found).2.2]

lemma index?_of_go {h : MemoryHistory} {offset : Int} {e : HistoryEntry}
    (went : (h.go offset).2 = some e) : ∃ i, h.index? offset = some i := by
  rcases found : h.index? offset with _ | i
  · rw [go_of_none found] at went
    cases went
  · exact ⟨i, rfl⟩

/-- If there is an entry, there is a current one. -/
lemma position_lt {h : MemoryHistory} {i : Nat} (inside : i < h.entries.length) :
    h.position < h.entries.length := by
  rcases h.bounded with here | ⟨none, -⟩
  · exact here
  · rw [none] at inside
    cases inside

/-- Whoever went to an entry can go back as far. -/
lemma go_neg {h : MemoryHistory} {offset : Int} {e : HistoryEntry} (went : (h.go offset).2 = some e) :
    (h.go offset).1.go (-offset) = (h, h.current?) := by
  obtain ⟨i, found⟩ := index?_of_go went
  obtain ⟨entries, position, -⟩ := go_of_some found
  obtain ⟨here, inside⟩ := index?_eq_some_iff.mp found
  have left := position_lt inside
  have back : (h.go offset).1.index? (-offset) = some h.position := by
    rw [index?_eq_some_iff, entries, position]
    omega
  obtain ⟨entries', position', answer⟩ := go_of_some back
  refine Prod.ext (eq_of_entries (entries'.trans entries) position') ?_
  rw [answer, entries]
  rfl

/-! ### Offsets of 64 bits -/

/-- An index moved by an offset, in 64 bits: the offset is added as it is stored, and there is no result
if the sum has wrapped around. It must do so for an offset below zero, and only then. -/
def checkedAdd (index : UInt64) (offset : Int64) : Option UInt64 :=
  let sum := index + offset.toUInt64
  if decide (sum < index) = decide (offset < 0) then some sum else none

/-- The index of the entry at an offset, in 64 bits. -/
def index64? (h : MemoryHistory) (offset : Int64) : Option UInt64 :=
  (checkedAdd (.ofNat h.position) offset).filter fun index => index < .ofNat h.entries.length

/-- How an offset is stored. -/
lemma toNat_toUInt64 (offset : Int64) :
    (offset.toUInt64.toNat : Int) =
      if offset.toInt < 0 then offset.toInt + 18446744073709551616 else offset.toInt := by
  have signed : offset.toInt = offset.toBitVec.toInt := rfl
  have stored : offset.toUInt64.toNat = offset.toBitVec.toNat := rfl
  have lt : offset.toUInt64.toNat < 18446744073709551616 := offset.toUInt64.toNat_lt
  rw [signed, BitVec.toInt_eq_toNat_cond, ← stored]
  split <;> split <;> omega

/-- An index is moved in 64 bits just as it would be moved otherwise, where the result has 64 bits. -/
lemma checkedAdd_eq (index : UInt64) (offset : Int64) :
    (checkedAdd index offset).map UInt64.toNat =
      if 0 ≤ (index.toNat : Int) + offset.toInt ∧
          (index.toNat : Int) + offset.toInt < 18446744073709551616 then
        some ((index.toNat : Int) + offset.toInt).toNat
      else none := by
  have index_lt : index.toNat < 18446744073709551616 := index.toNat_lt
  have stored_lt : offset.toUInt64.toNat < 18446744073709551616 := offset.toUInt64.toNat_lt
  have sum : (index + offset.toUInt64).toNat =
      (index.toNat + offset.toUInt64.toNat) % 18446744073709551616 := UInt64.toNat_add ..
  have stored := toNat_toUInt64 offset
  have zero : (0 : Int64).toInt = 0 := rfl
  -- the sum wraps around just when it has a carry
  have wraps : (index + offset.toUInt64).toNat < index.toNat ↔
      18446744073709551616 ≤ index.toNat + offset.toUInt64.toNat := by
    omega
  unfold checkedAdd
  simp only [UInt64.lt_iff_toNat_lt, Int64.lt_iff_toInt_lt, decide_eq_decide, zero, wraps]
  split <;> split
  · rw [Option.map_some, Option.some_inj, sum]
    split at stored <;> omega
  · split at stored <;> omega
  · split at stored <;> omega
  · rfl

/-- The arithmetic of 64 bits finds the entry at an offset, whatever the offset. -/
lemma index64?_eq (h : MemoryHistory) (fits : h.entries.length < UInt64.size) (offset : Int64) :
    (h.index64? offset).map UInt64.toNat = h.index? offset.toInt := by
  rw [UInt64.size] at fits
  have position : (UInt64.ofNat h.position).toNat = h.position := by
    have := h.bounded
    rw [UInt64.toNat_ofNat']
    rcases this with inside | ⟨-, zero⟩ <;> omega
  have length : (UInt64.ofNat h.entries.length).toNat = h.entries.length := by
    rw [UInt64.toNat_ofNat']
    omega
  have moved := checkedAdd_eq (.ofNat h.position) offset
  rw [position] at moved
  unfold index64?
  cases sum : checkedAdd (.ofNat h.position) offset with
  | none =>
    rw [sum, Option.map_none] at moved
    symm
    rw [Option.filter_none, Option.map_none, index?_eq_none_iff]
    split at moved
    · cases moved
    · omega
  | some i =>
    rw [sum, Option.map_some] at moved
    split at moved
    · have i_eq := Option.some.inj moved
      symm
      rw [Option.filter_some]
      split
      · rename_i inside
        rw [decide_eq_true_iff, UInt64.lt_iff_toNat_lt, length] at inside
        rw [Option.map_some, index?_eq_some_iff]
        omega
      · rename_i outside
        rw [decide_eq_true_iff, UInt64.lt_iff_toNat_lt, length] at outside
        rw [Option.map_none, index?_eq_none_iff]
        omega
    · cases moved

/-- All offsets but the least one have an opposite. -/
lemma toInt_neg {offset : Int64} (lt : Int64.minValue < offset) :
    (-offset).toInt = -offset.toInt := by
  have least : Int64.minValue.toInt = -9223372036854775808 := rfl
  have below := offset.toInt_lt
  rw [Int64.lt_iff_toInt_lt, least] at lt
  rw [Int64.toInt_neg]
  exact Int.bmod_eq_of_le (by omega) (by omega)

/-- How one gets about in a history with an offset. -/
structure Travels (h : MemoryHistory) (offset : Int64) : Prop where
  /-- Where there is an entry, it becomes the current one, and nothing else changes. -/
  moves (above : 0 ≤ (h.position : Int) + offset.toInt)
    (below : (h.position : Int) + offset.toInt < h.entries.length) :
    (h.go offset.toInt).1.entries = h.entries ∧
      ((h.go offset.toInt).1.position : Int) = h.position + offset.toInt ∧
      ∃ e, (h.go offset.toInt).1.current? = some e ∧ (h.go offset.toInt).2 = some e
  /-- Where there is none, nothing changes. -/
  stays (outside : (h.position : Int) + offset.toInt < 0 ∨
      (h.entries.length : Int) ≤ h.position + offset.toInt) :
    h.go offset.toInt = (h, none)
  /-- What is seen from afar is what one would arrive at. -/
  sees : h.peek? offset.toInt = (h.go offset.toInt).2
  /-- Whoever has arrived can go back as far, and then everything is as before. -/
  returns (opposite : Int64.minValue < offset) {e : HistoryEntry}
    (arrived : (h.go offset.toInt).2 = some e) :
    ∃ e', h.current? = some e' ∧ (h.go offset.toInt).1.go (-offset).toInt = (h, some e')
  /-- The place is found in 64 bits. -/
  fits (size : h.entries.length < UInt64.size) :
    (h.index64? offset).map UInt64.toNat = h.index? offset.toInt

lemma travels (h : MemoryHistory) (offset : Int64) : h.Travels offset where
  moves above below := by
    have found : h.index? offset.toInt = some ((h.position : Int) + offset.toInt).toNat := by
      rw [index?_eq_some_iff]
      omega
    have inside := lt_of_index?_eq_some found
    obtain ⟨entries, position, answer⟩ := go_of_some found
    refine ⟨entries, by omega, _, ?_, answer.trans (List.getElem?_eq_getElem inside)⟩
    rw [current?, entries, position, List.getElem?_eq_getElem inside]
  stays outside := go_of_none (index?_eq_none_iff.mpr outside)
  sees := h.peek?_eq_go offset.toInt
  returns opposite e arrived := by
    have back := go_neg arrived
    rw [← toInt_neg opposite] at back
    obtain ⟨i, found⟩ := index?_of_go arrived
    have current := List.getElem?_eq_getElem (position_lt (lt_of_index?_eq_some found))
    exact ⟨_, current, back.trans (Prod.ext rfl current)⟩
  fits size := h.index64?_eq size offset

end MemoryHistory

/-! ### Step by step -/

namespace BackStack

variable {s s' : BackStack}

lemma position_lt : s.before.length < s.entries.length ∨ s = empty := by
  cases s with
  | empty => exact .inr rfl
  | around before current behind => exact .inl (by simp [entries, BackStack.before])

lemma current?_eq (s : BackStack) : s.current? = s.entries[s.before.length]? := by
  cases s <;> simp [current?, entries, before]

lemma current?_toHistory (s : BackStack) : s.toHistory.current? = s.current? :=
  s.current?_eq.symm

/-- A step moves by `d`, and it is only refused where there are no entries any more. -/
structure Moves (step : BackStack → Option BackStack) (d : Int) : Prop where
  /-- Where there is an entry, it is the current one. -/
  entry {s s' : BackStack} (made : step s = some s') :
    s'.entries = s.entries ∧ (s'.before.length : Int) = s.before.length + d
  /-- Where there is none, there is none farther on. -/
  refused {s : BackStack} (none : step s = none) (n : Nat) :
    s.toHistory.index? ((n + 1 : Nat) * d) = .none

lemma moves_forward : Moves forward? 1 where
  entry {s s'} made := by
    cases s with
    | empty => cases made
    | around before current behind =>
      cases behind with
      | nil => cases made
      | cons e behind =>
        obtain rfl := Option.some.inj made
        simp [entries, BackStack.before]
  refused {s} none n := by
    have last : s.entries.length ≤ s.before.length + 1 := by
      cases s with
      | empty => exact Nat.zero_le _
      | around before current behind =>
        cases behind with
        | nil => simp [entries, BackStack.before]
        | cons e behind => cases none
    rw [MemoryHistory.index?_eq_none_iff]
    right
    show (s.entries.length : Int) ≤ s.before.length + (n + 1 : Nat) * 1
    omega

lemma moves_back : Moves back? (-1) where
  entry {s s'} made := by
    cases s with
    | empty => cases made
    | around before current behind =>
      cases before with
      | nil => cases made
      | cons e before =>
        obtain rfl := Option.some.inj made
        refine ⟨by simp [entries], ?_⟩
        rw [BackStack.before, BackStack.before, List.length_cons]
        omega
  refused {s} none n := by
    have first : s.before.length = 0 := by
      cases s with
      | empty => rfl
      | around before current behind =>
        cases before with
        | nil => rfl
        | cons e before => cases none
    rw [MemoryHistory.index?_eq_none_iff]
    left
    show (s.before.length : Int) + (n + 1 : Nat) * -1 < 0
    omega

/-- Where a history is after a step, the rest of the way is shorter by the step. -/
lemma index?_shift {d : Int} (entries : s'.entries = s.entries)
    (position : (s'.before.length : Int) = s.before.length + d) (n : Nat) :
    s.toHistory.index? ((n + 1 : Nat) * d) = s'.toHistory.index? (n * d) := by
  have target : (s.before.length : Int) + (n + 1 : Nat) * d = s'.before.length + n * d := by
    rw [position, Int.natCast_succ, Int.add_mul, Int.one_mul]
    omega
  simp only [MemoryHistory.index?, toHistory, target, entries]

/-- Walking leads to the entry that is as many steps away, and is refused where there is none. -/
lemma walk?_index {step : BackStack → Option BackStack} {d : Int} (moves : Moves step d) (n : Nat) :
    ∀ s, match walk? step n s with
      | some s' => s'.entries = s.entries ∧ s.toHistory.index? (n * d) = some s'.before.length
      | none => s.toHistory.index? (n * d) = none := by
  induction n with
  | zero =>
    intro s
    cases s with
    | empty => simp [walk?, MemoryHistory.index?, toHistory, entries]
    | around before current behind =>
      refine ⟨rfl, ?_⟩
      rw [MemoryHistory.index?_eq_some_iff]
      simp [toHistory, entries, BackStack.before]
  | succ n ih =>
    intro s
    rw [walk?]
    cases made : step s with
    | none => exact moves.refused made n
    | some s₁ =>
      obtain ⟨entries, position⟩ := moves.entry made
      have rest := ih s₁
      rw [Option.bind_some, index?_shift entries position n]
      cases walked : walk? step n s₁ with
      | none =>
        rw [walked] at rest
        exact rest
      | some s' =>
        rw [walked] at rest
        exact ⟨rest.1.trans entries, rest.2⟩

lemma go?_index (offset : Int) (s : BackStack) :
    match s.go? offset with
    | some s' => s'.entries = s.entries ∧ s.toHistory.index? offset = some s'.before.length
    | none => s.toHistory.index? offset = none := by
  cases offset with
  | ofNat n =>
    have walked := walk?_index moves_forward n s
    rw [Int.mul_one] at walked
    exact walked
  | negSucc n =>
    have walked := walk?_index moves_back (n + 1) s
    rw [Int.mul_neg_one] at walked
    exact walked

/-- Going at once leads where going step by step leads. -/
lemma go_toHistory (offset : Int) (s : BackStack) :
    s.toHistory.go offset =
      (((s.go? offset).getD s).toHistory, (s.go? offset).bind current?) := by
  have index := go?_index offset s
  cases went : s.go? offset with
  | none =>
    rw [went] at index
    exact MemoryHistory.go_of_none index
  | some s' =>
    rw [went] at index
    obtain ⟨entries, index⟩ := index
    obtain ⟨entries', position, answer⟩ := MemoryHistory.go_of_some index
    refine Prod.ext (MemoryHistory.eq_of_entries (entries'.trans entries.symm) position) ?_
    rw [answer, Option.bind_some, current?_eq, entries]
    rfl

lemma push_toHistory (e : HistoryEntry) (s : BackStack) :
    s.toHistory.push e = (s.push e).toHistory := by
  cases s with
  | empty => rfl
  | around before current behind =>
    have kept : (before.reverse ++ current :: behind).take (before.length + 1) =
        before.reverse ++ [current] := by
      rw [List.take_append, List.length_reverse, Nat.add_sub_cancel_left,
        List.take_of_length_le (by simp)]
      rfl
    refine MemoryHistory.eq_of_entries ?_ ?_ <;>
      simp [MemoryHistory.push, toHistory, entries, BackStack.before, push, kept]

lemma replace_toHistory (e : HistoryEntry) (s : BackStack) :
    s.toHistory.replace e = (s.replace e).toHistory := by
  cases s with
  | empty => rfl
  | around before current behind =>
    have inside : (toHistory (around before current behind)).position <
        (toHistory (around before current behind)).entries.length := by
      simp [toHistory, entries, BackStack.before]
    rw [MemoryHistory.replace, dif_pos inside]
    refine MemoryHistory.eq_of_entries ?_ ?_ <;>
      simp [toHistory, entries, BackStack.before, replace]

/-- A use leaves the same history, and has the same answer, however the history is put. -/
lemma use_toHistory (s : BackStack) (u : HistoryUse) :
    s.toHistory.use u = ((s.use u).1.toHistory, (s.use u).2) := by
  cases u with
  | push e => exact Prod.ext (push_toHistory e s) rfl
  | replace e => exact Prod.ext (replace_toHistory e s) rfl
  | peek offset =>
    refine Prod.ext rfl ?_
    rw [MemoryHistory.use, MemoryHistory.peek?_eq_go, go_toHistory]
    rfl
  | go offset => exact go_toHistory offset.toInt s

/-- So do all uses of a run. -/
lemma after_toHistory (uses : List HistoryUse) (s : BackStack) :
    s.toHistory.after uses = (s.after uses).toHistory := by
  induction uses generalizing s with
  | nil => rfl
  | cons u uses ih =>
    rw [MemoryHistory.after, List.foldl_cons, use_toHistory]
    exact ih (s.use u).1

lemma canGoBack_toHistory (s : BackStack) :
    History.canGoBack s.toHistory = true ↔ s.before ≠ [] := by
  have went := congrArg Prod.snd (go_toHistory (-1) s)
  rw [← MemoryHistory.peek?_eq_go] at went
  have answer : History.canGoBack s.toHistory = ((walk? back? 1 s).bind current?).isSome :=
    congrArg Option.isSome went
  rw [answer]
  rcases s with _ | ⟨_ | ⟨e, before⟩, current, behind⟩ <;>
    simp [walk?, back?, current?, BackStack.before]

lemma canGoForward_toHistory (s : BackStack) :
    History.canGoForward s.toHistory = true ↔ s.behind ≠ [] := by
  have went := congrArg Prod.snd (go_toHistory 1 s)
  rw [← MemoryHistory.peek?_eq_go] at went
  have answer : History.canGoForward s.toHistory = ((walk? forward? 1 s).bind current?).isSome :=
    congrArg Option.isSome went
  rw [answer]
  rcases s with _ | ⟨before, current, _ | ⟨e, behind⟩⟩ <;>
    simp [walk?, forward?, current?, BackStack.behind]

end BackStack

/-- A history in memory is a back stack. Whatever has been done with it from the beginning on, it is the
list of the back stack with which the same has been done, the next use leaves the same and is answered
the same, and it can go back and forward while there is something on the stack on that side. Its
position is that of an entry, or there is none yet. Offsets lead as far as they say, or nowhere. -/
theorem back_stack (uses : List HistoryUse) :
    let h := ({} : MemoryHistory).after uses
    let s := BackStack.empty.after uses
    (h = s.toHistory ∧ h.current? = s.current? ∧
      ∀ u, h.use u = ((s.use u).1.toHistory, (s.use u).2)) ∧
    (h.position < h.entries.length ∨ h.entries = [] ∧ h.position = 0) ∧
    (History.canGoBack h = true ↔ s.before ≠ []) ∧
    (History.canGoForward h = true ↔ s.behind ≠ []) ∧
    ∀ offset, h.Travels offset := by
  intro h s
  have same : h = s.toHistory := BackStack.after_toHistory uses .empty
  refine ⟨⟨same, ?_, fun u => ?_⟩, h.bounded, ?_, ?_, h.travels⟩
  · rw [same, s.current?_toHistory]
  · rw [same, s.use_toHistory]
  · rw [same, s.canGoBack_toHistory]
  · rw [same, s.canGoForward_toHistory]

example :
    let h := ({} : MemoryHistory).after
      [.push { url := "/a" }, .push { url := "/b" }, .push { url := "/c" }, .go (-2),
        .push { url := "/d" }]
    (h.urls, h.position) = (["/a", "/d"], 1) := by
  decide

end Wayfinder
