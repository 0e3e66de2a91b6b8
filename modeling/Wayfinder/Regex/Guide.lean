/-
Guided search.

Some expressions can be tried in very many ways on a text before the first match is found, or before it
is clear that there is none. So before a match is searched, the expression is marked: behind every
character that it reads it has to be at a place from which the rest of it may still lead to the end. Then
the search hardly ever goes wrong, and it finds the same match.

Places are given by the number of characters that are left, and sets of them by rising lists.

* `Expr.before`: the places from which an expression may lead to given ones.
* `Expr.guide`: the marked expression.
* `Expr.captures?_eq`: the marked expression has the same first match.
-/
import Wayfinder.Regex.Expr

namespace Wayfinder.Regex

/-- The place in a text where `left` characters are left. -/
def Place.ofLeft (text : List Char) (left : Nat) : Place :=
  let i := text.length - left
  ⟨if i = 0 then none else text[i - 1]?, text.drop i⟩

/-- The elements of two rising lists as a rising list. -/
def union : List Nat → List Nat → List Nat
  | [], b => b
  | a, [] => a
  | x :: xs, y :: ys =>
    if x < y then x :: union xs (y :: ys)
    else if y < x then y :: union (x :: xs) ys
    else x :: union xs ys
termination_by a b => a.length + b.length

/-- Add to the places of a set all places that lead there, one step backwards being `f`. The places are
passed in the order of `lefts`, which is rising: a step forward leaves less. -/
def sweep (f : List Nat → List Nat) : (lefts : List Nat) → List Nat → List Nat
  | [], known => known
  | left :: lefts, known =>
    if known.contains left then
      left :: sweep f lefts (union (known.filter (· != left)) ((f [left]).filter (left < ·)))
    else sweep f lefts known

/-- A set with all places below `size` that lead into it. -/
def closure (f : List Nat → List Nat) (size : Nat) (goal : List Nat) : List Nat :=
  sweep f (List.range size) goal

/-- The set after `n` steps. -/
def rounds (f : List Nat → List Nat) : Nat → List Nat → List Nat
  | 0, places => places
  | n + 1, places =>
    let next := f places
    if next = places then places else rounds f n next

/-- The places from which an expression may lead to one of the goals. An upper bound of a repetition
plays a part only if no round is free. -/
def Expr.before (text : List Char) (backwards : Array Char) : Expr → List Nat → List Nat
  | .empty, goal => goal
  | .set member, goal =>
    goal.filterMap fun left => if backwards[left]?.any member then some (left + 1) else none
  | .look condition, goal => goal.filter fun left => condition.holds (Place.ofLeft text left)
  | .mark left, goal => goal.filter left.contains
  | .seq a b, goal => a.before text backwards (b.before text backwards goal)
  | .alt a b, goal => union (a.before text backwards goal) (b.before text backwards goal)
  | .group _ body, goal => body.before text backwards goal
  | .repeated body least most _, goal =>
    let step := body.before text backwards
    rounds step least
      (if most.any (· ≤ least) then goal else closure step (text.length + 1) goal)

/-- An expression with marks behind every character, for a search that ends at one of the goals. -/
def Expr.guide (text : List Char) (backwards : Array Char) : Expr → List Nat → Expr
  | .empty, _ => .empty
  | .set member, goal => .seq (.set member) (.mark goal)
  | .look condition, _ => .look condition
  | .mark left, _ => .mark left
  | .seq a b, goal =>
    .seq (a.guide text backwards (b.before text backwards goal)) (b.guide text backwards goal)
  | .alt a b, goal => .alt (a.guide text backwards goal) (b.guide text backwards goal)
  | .group name body, goal => .group name (body.guide text backwards goal)
  | .repeated body least most greedy, goal =>
    let all := closure (body.before text backwards) (text.length + 1) goal
    .repeated (body.guide text backwards all) least most greedy

/-- What the groups hold in the first match in a text. -/
def Expr.captures? (e : Expr) (text : List Char) : Option Captures :=
  (e.guide text text.reverse.toArray (List.range (text.length + 1))).searchFrom none text

/-! ### Sets of places -/

/-- A union has the elements of both sets. -/
theorem mem_union {i : Nat} {a b : List Nat} : i ∈ union a b ↔ i ∈ a ∨ i ∈ b := by
  fun_induction union a b with
  | case1 => simp
  | case2 => simp
  | case3 x xs y ys _ ih => simp only [List.mem_cons] at ih ⊢; grind
  | case4 x xs y ys _ _ ih => simp only [List.mem_cons] at ih ⊢; grind
  | case5 x xs y ys _ _ ih => simp only [List.mem_cons] at ih ⊢; grind

variable {f : List Nat → List Nat}

/-- What is in the set stays there. -/
theorem mem_sweep {i : Nat} (lefts : List Nat) {known : List Nat} (h : i ∈ known) :
    i ∈ sweep f lefts known := by
  induction lefts generalizing known with
  | nil => exact h
  | cons left lefts ih =>
    rw [sweep]
    split
    · by_cases hi : i = left
      · exact hi ▸ List.mem_cons_self
      · exact List.mem_cons_of_mem _ (ih (mem_union.2 (.inl (by simp [h, hi]))))
    · exact ih h

/-- What is added comes later than one of the places passed. -/
theorem mem_or_lt_of_mem_sweep {i : Nat} {lefts known : List Nat} (h : i ∈ sweep f lefts known) :
    i ∈ known ∨ ∃ left ∈ lefts, left < i := by
  induction lefts generalizing known with
  | nil => exact .inl h
  | cons left lefts ih =>
    rw [sweep] at h
    split at h
    · rename_i hk
      rcases List.mem_cons.1 h with rfl | h
      · exact .inl (List.contains_iff_mem.1 hk)
      · rcases ih h with h | ⟨m, hm, hi⟩
        · rcases mem_union.1 h with h | h
          · exact .inl (List.mem_filter.1 h).1
          · exact .inr ⟨left, List.mem_cons_self, by simpa using (List.mem_filter.1 h).2⟩
        · exact .inr ⟨m, List.mem_cons_of_mem _ hm, hi⟩
    · rcases ih h with h | ⟨m, hm, hi⟩
      · exact .inl h
      · exact .inr ⟨m, List.mem_cons_of_mem _ hm, hi⟩

/-- No step backwards from a place below `size` leads out of the set. -/
def Closed (f : List Nat → List Nat) (size : Nat) (known : List Nat) : Prop :=
  ∀ {i j : Nat}, j ∈ known → j < size → i ∈ f [j] → j < i → i ∈ known

/-- A sweep leaves no step out that starts at one of the places passed. -/
theorem mem_sweep_range' {start size i j : Nat} {known : List Nat}
    (hj : j ∈ sweep f (List.range' start size) known) (hs : start ≤ j) (he : j < start + size)
    (hi : i ∈ f [j]) (hlt : j < i) : i ∈ sweep f (List.range' start size) known := by
  induction size generalizing start known with
  | zero => omega
  | succ size ih =>
    rw [List.range'_succ, sweep] at hj ⊢
    split at hj
    · rename_i hk
      rw [if_pos hk]
      refine List.mem_cons_of_mem _ ?_
      by_cases hjs : j = start
      · subst hjs
        exact mem_sweep _ (mem_union.2 (.inr (List.mem_filter.2 ⟨hi, by simpa using hlt⟩)))
      · rcases List.mem_cons.1 hj with h | h
        · exact absurd h hjs
        · exact ih h (by omega) (by omega)
    · rename_i hk
      rw [if_neg hk]
      by_cases hjs : j = start
      · subst hjs
        rcases mem_or_lt_of_mem_sweep hj with h | ⟨m, hm, hmj⟩
        · exact absurd (List.contains_iff_mem.2 h) hk
        · have := (List.mem_range'_1.1 hm).1
          omega
      · exact ih hj (by omega) (by omega)

/-- The closure has the goals. -/
theorem mem_closure {i size : Nat} {goal : List Nat} (h : i ∈ goal) : i ∈ closure f size goal :=
  mem_sweep _ h

/-- The closure is closed. -/
theorem closed_closure (size : Nat) (goal : List Nat) : Closed f size (closure f size goal) := by
  intro i j hj hs hi hlt
  rw [closure, List.range_eq_range'] at hj ⊢
  exact mem_sweep_range' hj (Nat.zero_le _) (by omega) hi hlt

/-- Nothing is lost by stopping early where a step changes nothing. -/
theorem rounds_succ (n : Nat) (places : List Nat) :
    rounds f (n + 1) places = rounds f n (f places) := by
  have stable (h : f places = places) : ∀ n, rounds f n places = places
    | 0 => rfl
    | n + 1 => by rw [rounds]; simp [h]
  rw [rounds]
  split
  · rename_i h
    rw [h, stable h]
  · rfl

/-- One more step. -/
theorem rounds_add_one (n : Nat) (places : List Nat) :
    rounds f (n + 1) places = f (rounds f n places) := by
  induction n generalizing places with
  | zero => rw [rounds_succ]; rfl
  | succ n ih => rw [rounds_succ, ih, ← rounds_succ]

/-! ### Where searches lead -/

/-- A search that succeeds leads to a place further on at which the continuation does, and the two
places are related. -/
def Leads {α : Type} (text : List Char) (body : Search α) (related : Nat → Nat → Prop) : Prop :=
  ∀ {i : Nat} {c : Captures} {k : Place → Captures → Option α} {r : α},
    i ≤ text.length → body (Place.ofLeft text i) c k = some r →
    ∃ j ≤ i, (∃ d, k (Place.ofLeft text j) d = some r) ∧ related i j

/-- Two places of which the first one is in every closed set that has the second one. -/
def Chained (text : List Char) (f : List Nat → List Nat) (i j : Nat) : Prop :=
  ∀ {known : List Nat}, Closed f (text.length + 1) known → j ∈ known → i ∈ known

variable {α : Type} {text : List Char} {body : Search α}

/-- What is left at a place. -/
theorem length_rest_ofLeft {i : Nat} (h : i ≤ text.length) :
    (Place.ofLeft text i).rest.length = i := by
  simp only [Place.ofLeft, List.length_drop]
  omega

/-- A step followed by a chain. -/
theorem Chained.step {i j m : Nat} (hm : m ∈ f [j] ∨ m = j) (hjm : j ≤ m) (hml : m ≤ text.length)
    (h : Chained text f j i) : Chained text f m i := by
  intro known hc hi
  rcases hm with hm | rfl
  · rcases Nat.eq_or_lt_of_le hjm with rfl | hlt
    · exact h hc hi
    · exact hc (h hc hi) (by omega) hm hlt
  · exact h hc hi

/-- The first of two results is one of them. -/
theorem first_eq_some {a : Option α} {b : Unit → Option α} {r : α} (h : first a b = some r) :
    a = some r ∨ b () = some r := by
  cases a with
  | none => exact .inr h
  | some x => exact .inl h

/-- The preferred of two results is one of them. -/
theorem prefer_eq_some {greedy : Bool} {again stop : Unit → Option α} {r : α}
    (h : prefer greedy again stop = some r) : again () = some r ∨ stop () = some r := by
  cases greedy with
  | true => exact first_eq_some h
  | false => exact (first_eq_some h).symm

/-- Exactly `n` rounds lead back by `n` steps. -/
theorem leads_exactly (hb : Leads text body (fun i j => ∀ {goal}, j ∈ goal → i ∈ f goal)) (n : Nat) :
    Leads text (exactly body n) (fun i j => ∀ {goal}, j ∈ goal → i ∈ rounds f n goal) := by
  induction n with
  | zero => exact fun _ h => ⟨_, Nat.le_refl _, ⟨_, h⟩, id⟩
  | succ n ih =>
    intro i c k r hi h
    obtain ⟨j, hj, ⟨d, hd⟩, hij⟩ := hb hi h
    obtain ⟨m, hm, hk, hjm⟩ := ih (Nat.le_trans hj hi) hd
    refine ⟨m, Nat.le_trans hm hj, hk, fun hg => ?_⟩
    rw [rounds_add_one]
    exact hij (hjm hg)

/-- Any number of exact rounds is a chain. -/
theorem leads_exactly_chained (hb : Leads text body (fun i j => i ∈ f [j])) (n : Nat) :
    Leads text (exactly body n) (Chained text f) := by
  induction n with
  | zero => exact fun _ h => ⟨_, Nat.le_refl _, ⟨_, h⟩, fun _ h => h⟩
  | succ n ih =>
    intro i c k r hi h
    obtain ⟨j, hj, ⟨d, hd⟩, hij⟩ := hb hi h
    obtain ⟨m, hm, hk, hjm⟩ := ih (Nat.le_trans hj hi) hd
    exact ⟨m, Nat.le_trans hm hj, hk, hjm.step (.inl hij) hj hi⟩

/-- At most `n` rounds are a chain. -/
theorem leads_atMost (hb : Leads text body (fun i j => i ∈ f [j])) (greedy : Bool) (n : Nat) :
    Leads text (atMost body greedy n) (Chained text f) := by
  induction n with
  | zero => exact fun _ h => ⟨_, Nat.le_refl _, ⟨_, h⟩, fun _ h => h⟩
  | succ n ih =>
    intro i c k r hi h
    rw [atMost] at h
    rcases prefer_eq_some h with h | h
    · obtain ⟨j, hj, ⟨d, hd⟩, hij⟩ := hb hi h
      obtain ⟨m, hm, hk, hjm⟩ := ih (Nat.le_trans hj hi) hd
      exact ⟨m, Nat.le_trans hm hj, hk, hjm.step (.inl hij) hj hi⟩
    · exact ⟨i, Nat.le_refl _, ⟨c, h⟩, fun _ h => h⟩

/-- Further rounds are a chain. -/
theorem leads_more (hb : Leads text body (fun i j => i ∈ f [j])) (greedy : Bool) :
    Leads text (more body greedy) (Chained text f) := by
  intro i
  induction i using Nat.strongRecOn with
  | _ i ih =>
    intro c k r hi h
    rw [more] at h
    rcases prefer_eq_some h with h | h
    · obtain ⟨j, hj, ⟨d, hd⟩, hij⟩ := hb hi h
      split at hd
      · rename_i hlt
        have hjl := Nat.le_trans hj hi
        rw [length_rest_ofLeft hi, length_rest_ofLeft hjl] at hlt
        obtain ⟨m, hm, hk, hjm⟩ := ih j hlt hjl hd
        exact ⟨m, Nat.le_trans hm hj, hk, hjm.step (.inl hij) hj hi⟩
      · simp at hd
    · exact ⟨i, Nat.le_refl _, ⟨c, h⟩, fun _ h => h⟩

/-- At least one round is a chain. -/
theorem leads_plus (hb : Leads text body (fun i j => i ∈ f [j])) (greedy : Bool) :
    Leads text (plus body greedy) (Chained text f) := by
  intro i c k r hi h
  obtain ⟨j, hj, ⟨d, hd⟩, hij⟩ := hb hi h
  split at hd
  · obtain ⟨m, hm, hk, hjm⟩ := leads_more hb greedy (Nat.le_trans hj hi) hd
    exact ⟨m, Nat.le_trans hm hj, hk, hjm.step (.inl hij) hj hi⟩
  · exact ⟨j, hj, ⟨d, hd⟩, Chained.step (.inl hij) hj hi fun _ h => h⟩

/-- Any number of rounds is a chain. -/
theorem leads_star (hb : Leads text body (fun i j => i ∈ f [j])) (greedy : Bool) :
    Leads text (star body greedy) (Chained text f) := by
  intro i c k r hi h
  rcases prefer_eq_some h with h | h
  · exact leads_plus hb greedy hi h
  · exact ⟨i, Nat.le_refl _, ⟨c, h⟩, fun _ h => h⟩

/-- At least one round: a step back from a closed set. -/
theorem leads_plus_step (hb : Leads text body (fun i j => ∀ {goal}, j ∈ goal → i ∈ f goal))
    (greedy : Bool) :
    Leads text (plus body greedy) (fun i j =>
      ∀ {known}, Closed f (text.length + 1) known → j ∈ known → i ∈ f known) := by
  intro i c k r hi h
  obtain ⟨j, hj, ⟨d, hd⟩, hij⟩ := hb hi h
  split at hd
  · have single : Leads text body (fun i j => i ∈ f [j]) := fun hi h =>
      let ⟨j, hj, hk, hij⟩ := hb hi h
      ⟨j, hj, hk, hij List.mem_cons_self⟩
    obtain ⟨m, hm, hk, hjm⟩ := leads_more single greedy (Nat.le_trans hj hi) hd
    exact ⟨m, Nat.le_trans hm hj, hk, fun hc hg => hij (hjm hc hg)⟩
  · exact ⟨j, hj, ⟨d, hd⟩, fun _ hg => hij hg⟩

/-- What is behind a place where there is a character. -/
theorem ofLeft_rest_eq_cons {i : Nat} {x : Char} {rest : List Char} (hi : i ≤ text.length)
    (h : (Place.ofLeft text i).rest = x :: rest) :
    ∃ j, i = j + 1 ∧ text.reverse.toArray[j]? = some x ∧ rest.length = j ∧
      Place.ofLeft text j = ⟨some x, rest⟩ := by
  have hl := length_rest_ofLeft hi
  rw [h, List.length_cons] at hl
  have hd : text.drop (text.length - i) = x :: rest := h
  have hlt : text.length - i < text.length := by omega
  rw [List.drop_eq_getElem_cons hlt, List.cons.injEq] at hd
  refine ⟨i - 1, by omega, ?_, by omega, ?_⟩
  · rw [List.getElem?_toArray, List.getElem?_reverse (by omega), ← hd.1,
      List.getElem?_eq_getElem (by omega)]
    congr 2
    omega
  · have he : text.length - (i - 1) = text.length - i + 1 := by omega
    simp only [Place.ofLeft, he, hd.2]
    simp [← hd.1, hlt]

/-- An expression leads from the places before a goal to the goal. -/
theorem Expr.leads_before (text : List Char) (e : Expr) :
    Leads (α := α) text e.run
      (fun i j => ∀ {goal}, j ∈ goal → i ∈ e.before text text.reverse.toArray goal) := by
  induction e with
  | empty => exact fun _ h => ⟨_, Nat.le_refl _, ⟨_, h⟩, id⟩
  | set member =>
    intro i c k r hi h
    simp only [Expr.run] at h
    split at h
    · rename_i x rest hr
      obtain ⟨j, rfl, hx, -, hp⟩ := ofLeft_rest_eq_cons hi hr
      split at h
      · rename_i hm
        refine ⟨j, Nat.le_succ j, ⟨c, hp ▸ h⟩, fun hg => ?_⟩
        exact List.mem_filterMap.2 ⟨j, hg, by simp [hx, hm]⟩
      · simp at h
    · simp at h
  | look condition =>
    intro i c k r hi h
    simp only [Expr.run] at h
    split at h
    · rename_i hc
      exact ⟨i, Nat.le_refl _, ⟨c, h⟩, fun hg => List.mem_filter.2 ⟨hg, hc⟩⟩
    · simp at h
  | mark left =>
    intro i c k r hi h
    simp only [Expr.run, length_rest_ofLeft hi] at h
    split at h
    · rename_i hc
      exact ⟨i, Nat.le_refl _, ⟨c, h⟩, fun hg => List.mem_filter.2 ⟨hg, hc⟩⟩
    · simp at h
  | seq a b iha ihb =>
    intro i c k r hi h
    obtain ⟨j, hj, ⟨d, hd⟩, hij⟩ := iha hi h
    obtain ⟨m, hm, hk, hjm⟩ := ihb (Nat.le_trans hj hi) hd
    exact ⟨m, Nat.le_trans hm hj, hk, fun hg => hij (hjm hg)⟩
  | alt a b iha ihb =>
    intro i c k r hi h
    rw [Expr.run_alt] at h
    rcases first_eq_some h with h | h
    · obtain ⟨j, hj, hk, hij⟩ := iha hi h
      exact ⟨j, hj, hk, fun hg => mem_union.2 (.inl (hij hg))⟩
    · obtain ⟨j, hj, hk, hij⟩ := ihb hi h
      exact ⟨j, hj, hk, fun hg => mem_union.2 (.inr (hij hg))⟩
  | group name body ih =>
    intro i c k r hi h
    obtain ⟨j, hj, ⟨d, hd⟩, hij⟩ := ih hi h
    exact ⟨j, hj, ⟨_, hd⟩, hij⟩
  | repeated body least most greedy ih =>
    have single : Leads (α := α) text body.run
        (fun i j => i ∈ body.before text text.reverse.toArray [j]) := fun hi h =>
      let ⟨j, hj, hk, hij⟩ := ih hi h
      ⟨j, hj, hk, hij List.mem_cons_self⟩
    intro i c k r hi h
    cases most with
    | some m =>
      obtain ⟨j, hj, ⟨d, hd⟩, hij⟩ := leads_exactly ih least hi h
      by_cases hm : m ≤ least
      · rw [Nat.sub_eq_zero_of_le hm] at hd
        exact ⟨j, hj, ⟨d, hd⟩, fun hg => hij (by simpa [hm] using hg)⟩
      · obtain ⟨m', hm', hk, hjm⟩ := leads_atMost single greedy _ (Nat.le_trans hj hi) hd
        refine ⟨m', Nat.le_trans hm' hj, hk, fun hg => hij ?_⟩
        simp only [Option.any_some, decide_eq_true_eq, hm, if_false]
        exact hjm (closed_closure _ _) (mem_closure hg)
    | none =>
      cases least with
      | zero =>
        obtain ⟨j, hj, hk, hij⟩ := leads_star single greedy hi h
        exact ⟨j, hj, hk, fun hg => hij (closed_closure _ _) (mem_closure hg)⟩
      | succ n =>
        obtain ⟨j, hj, ⟨d, hd⟩, hij⟩ := leads_exactly ih n hi h
        obtain ⟨m, hm, hk, hjm⟩ := leads_plus_step ih greedy (Nat.le_trans hj hi) hd
        refine ⟨m, Nat.le_trans hm hj, hk, fun hg => ?_⟩
        show i ∈ rounds _ (n + 1) _
        rw [rounds_succ]
        exact hij (hjm (closed_closure _ _) (mem_closure hg))

/-! ### Marks change nothing -/

/-- Two searches have the same result as long as the continuation succeeds at goals only. -/
def Agree {α : Type} (text : List Char) (marked body : Search α) (goal : List Nat) : Prop :=
  ∀ {i : Nat} {c : Captures} {k l : Place → Captures → Option α}, i ≤ text.length →
    (∀ j ≤ i, ∀ d, k (Place.ofLeft text j) d = l (Place.ofLeft text j) d) →
    (∀ j ≤ i, ∀ d r, l (Place.ofLeft text j) d = some r → j ∈ goal) →
    marked (Place.ofLeft text i) c k = body (Place.ofLeft text i) c l

variable {marked : Search α} {known : List Nat}

/-- The same preference of the same results. -/
theorem prefer_congr {greedy : Bool} {a b a' b' : Unit → Option α} (ha : a () = a' ())
    (hb : b () = b' ()) : prefer greedy a b = prefer greedy a' b' := by
  simp only [prefer, first, ha, hb]

/-- Exactly `n` rounds. -/
theorem agree_exactly (ha : Agree text marked body known)
    (hb : Leads text body (fun i j => i ∈ f [j])) (hc : Closed f (text.length + 1) known) (n : Nat) :
    Agree text (exactly marked n) (exactly body n) known := by
  induction n with
  | zero => exact fun _ hk _ => hk _ (Nat.le_refl _) _
  | succ n ih =>
    intro i c k l hi hk hl
    refine ha hi (fun j hj d => ih (Nat.le_trans hj hi)
      (fun m hm => hk m (Nat.le_trans hm hj)) (fun m hm => hl m (Nat.le_trans hm hj))) ?_
    intro j hj d r h
    obtain ⟨m, hm, ⟨d', hd⟩, hjm⟩ := leads_exactly_chained hb n (Nat.le_trans hj hi) h
    exact hjm hc (hl m (Nat.le_trans hm hj) d' r hd)

/-- At most `n` rounds. -/
theorem agree_atMost (ha : Agree text marked body known)
    (hb : Leads text body (fun i j => i ∈ f [j])) (hc : Closed f (text.length + 1) known)
    (greedy : Bool) (n : Nat) :
    Agree text (atMost marked greedy n) (atMost body greedy n) known := by
  induction n with
  | zero => exact fun _ hk _ => hk _ (Nat.le_refl _) _
  | succ n ih =>
    intro i c k l hi hk hl
    rw [atMost, atMost]
    refine prefer_congr (ha hi (fun j hj d => ih (Nat.le_trans hj hi)
      (fun m hm => hk m (Nat.le_trans hm hj)) (fun m hm => hl m (Nat.le_trans hm hj))) ?_)
      (hk i (Nat.le_refl _) c)
    intro j hj d r h
    obtain ⟨m, hm, ⟨d', hd⟩, hjm⟩ := leads_atMost hb greedy n (Nat.le_trans hj hi) h
    exact hjm hc (hl m (Nat.le_trans hm hj) d' r hd)

/-- Further rounds. -/
theorem agree_more (ha : Agree text marked body known)
    (hb : Leads text body (fun i j => i ∈ f [j])) (hc : Closed f (text.length + 1) known)
    (greedy : Bool) : Agree text (more marked greedy) (more body greedy) known := by
  intro i
  induction i using Nat.strongRecOn with
  | _ i ih =>
    intro c k l hi hk hl
    rw [more, more]
    refine prefer_congr (ha hi (fun j hj d => ?_) ?_) (hk i (Nat.le_refl _) c)
    · rw [length_rest_ofLeft hi, length_rest_ofLeft (Nat.le_trans hj hi)]
      split
      · rename_i hlt
        exact ih j hlt (Nat.le_trans hj hi)
          (fun m hm => hk m (Nat.le_trans hm hj)) (fun m hm => hl m (Nat.le_trans hm hj))
      · rfl
    · intro j hj d r h
      split at h
      · obtain ⟨m, hm, ⟨d', hd⟩, hjm⟩ := leads_more hb greedy (Nat.le_trans hj hi) h
        exact hjm hc (hl m (Nat.le_trans hm hj) d' r hd)
      · simp at h

/-- At least one round. -/
theorem agree_plus (ha : Agree text marked body known)
    (hb : Leads text body (fun i j => i ∈ f [j])) (hc : Closed f (text.length + 1) known)
    (greedy : Bool) : Agree text (plus marked greedy) (plus body greedy) known := by
  intro i c k l hi hk hl
  refine ha hi (fun j hj d => ?_) ?_
  · split
    · exact agree_more ha hb hc greedy (Nat.le_trans hj hi)
        (fun m hm => hk m (Nat.le_trans hm hj)) (fun m hm => hl m (Nat.le_trans hm hj))
    · exact hk j hj d
  · intro j hj d r h
    split at h
    · obtain ⟨m, hm, ⟨d', hd⟩, hjm⟩ := leads_more hb greedy (Nat.le_trans hj hi) h
      exact hjm hc (hl m (Nat.le_trans hm hj) d' r hd)
    · exact hl j hj d r h

/-- Any number of rounds. -/
theorem agree_star (ha : Agree text marked body known)
    (hb : Leads text body (fun i j => i ∈ f [j])) (hc : Closed f (text.length + 1) known)
    (greedy : Bool) : Agree text (star marked greedy) (star body greedy) known := by
  intro i c k l hi hk hl
  exact prefer_congr (agree_plus ha hb hc greedy hi hk hl) (hk i (Nat.le_refl _) c)

/-- Marks change nothing about a search that ends at one of the goals. -/
theorem Expr.agree_guide (text : List Char) (e : Expr) (goal : List Nat) :
    Agree (α := α) text (e.guide text text.reverse.toArray goal).run e.run goal := by
  induction e generalizing goal with
  | empty => exact fun _ hk _ => hk _ (Nat.le_refl _) _
  | set member =>
    intro i c k l hi hk hl
    simp only [Expr.guide, Expr.run]
    split
    · rename_i x rest hr
      obtain ⟨j, rfl, -, hlen, hp⟩ := ofLeft_rest_eq_cons hi hr
      split
      · rw [hlen, ← hp]
        split
        · exact hk j (Nat.le_succ j) c
        · rename_i hm
          cases h : l (Place.ofLeft text j) c with
          | none => rfl
          | some r => exact absurd (hl j (Nat.le_succ j) c r h) (by simpa using hm)
      · rfl
    · rfl
  | look condition =>
    intro i c k l hi hk _
    simp only [Expr.guide, Expr.run, hk i (Nat.le_refl _)]
  | mark left =>
    intro i c k l hi hk _
    simp only [Expr.guide, Expr.run, hk i (Nat.le_refl _)]
  | seq a b iha ihb =>
    intro i c k l hi hk hl
    refine iha _ hi (fun j hj d => ihb goal (Nat.le_trans hj hi)
      (fun m hm => hk m (Nat.le_trans hm hj)) (fun m hm => hl m (Nat.le_trans hm hj))) ?_
    intro j hj d r h
    obtain ⟨m, hm, ⟨d', hd⟩, hjm⟩ := b.leads_before text (Nat.le_trans hj hi) h
    exact hjm (hl m (Nat.le_trans hm hj) d' r hd)
  | alt a b iha ihb =>
    intro i c k l hi hk hl
    rw [Expr.guide, Expr.run_alt, Expr.run_alt, iha goal hi hk hl, ihb goal hi hk hl]
  | group name body ih =>
    intro i c k l hi hk hl
    exact ih goal hi (fun j hj d => by rw [hk j hj]) (fun j hj d r h => hl j hj _ r h)
  | repeated body least most greedy ih =>
    have single : Leads (α := α) text body.run
        (fun i j => i ∈ body.before text text.reverse.toArray [j]) := fun hi h =>
      let ⟨j, hj, hk, hij⟩ := body.leads_before text hi h
      ⟨j, hj, hk, hij List.mem_cons_self⟩
    intro i c k l hi hk hl
    have hc : Closed (body.before text text.reverse.toArray) (text.length + 1)
        (closure (body.before text text.reverse.toArray) (text.length + 1) goal) :=
      closed_closure _ _
    have hl' : ∀ j ≤ i, ∀ d r, l (Place.ofLeft text j) d = some r →
        j ∈ closure (body.before text text.reverse.toArray) (text.length + 1) goal :=
      fun j hj d r h => mem_closure (hl j hj d r h)
    cases most with
    | some m =>
      refine agree_exactly (ih _) single hc least hi (fun j hj d => ?_) ?_
      · exact agree_atMost (ih _) single hc greedy _ (Nat.le_trans hj hi)
          (fun m hm => hk m (Nat.le_trans hm hj)) (fun m hm => hl' m (Nat.le_trans hm hj))
      · intro j hj d r h
        obtain ⟨m, hm, ⟨d', hd⟩, hjm⟩ := leads_atMost single greedy _ (Nat.le_trans hj hi) h
        exact hjm hc (hl' m (Nat.le_trans hm hj) d' r hd)
    | none =>
      cases least with
      | zero => exact agree_star (ih _) single hc greedy hi hk hl'
      | succ n =>
        refine agree_exactly (ih _) single hc n hi (fun j hj d => ?_) ?_
        · exact agree_plus (ih _) single hc greedy (Nat.le_trans hj hi)
            (fun m hm => hk m (Nat.le_trans hm hj)) (fun m hm => hl' m (Nat.le_trans hm hj))
        · intro j hj d r h
          obtain ⟨m, hm, ⟨d', hd⟩, hjm⟩ := leads_plus single greedy (Nat.le_trans hj hi) h
          exact hjm hc (hl' m (Nat.le_trans hm hj) d' r hd)

/-- The marked expression has the same first match. -/
theorem Expr.captures?_eq (e : Expr) (text : List Char) :
    e.captures? text = e.searchFrom none text := by
  have same {i : Nat} (hi : i ≤ text.length) :
      (e.guide text text.reverse.toArray (List.range (text.length + 1))).run
        (Place.ofLeft text i) [] (fun _ c => some c) =
      e.run (Place.ofLeft text i) [] (fun _ c => some c) :=
    e.agree_guide text _ hi (fun _ _ _ => rfl) fun j hj _ _ _ => List.mem_range.2 (by omega)
  have later {i : Nat} (hi : i ≤ text.length) :
      (e.guide text text.reverse.toArray (List.range (text.length + 1))).searchFrom
        (Place.ofLeft text i).before (Place.ofLeft text i).rest =
      e.searchFrom (Place.ofLeft text i).before (Place.ofLeft text i).rest := by
    induction i with
    | zero =>
      have hr : (Place.ofLeft text 0).rest = [] := by simp [Place.ofLeft]
      have hp : Place.ofLeft text 0 = ⟨(Place.ofLeft text 0).before, []⟩ := by rw [← hr]
      rw [hr, Expr.searchFrom, Expr.searchFrom, ← hp]
      exact same hi
    | succ i ih =>
      cases hr : (Place.ofLeft text (i + 1)).rest with
      | nil =>
        have := length_rest_ofLeft hi
        rw [hr] at this
        simp at this
      | cons x rest =>
        obtain ⟨j, hj, -, -, hp⟩ := ofLeft_rest_eq_cons hi hr
        have hj : i = j := by omega
        subst hj
        have hpi : Place.ofLeft text (i + 1) = ⟨(Place.ofLeft text (i + 1)).before, x :: rest⟩ := by
          rw [← hr]
        have ih := ih (by omega)
        rw [hp] at ih
        rw [Expr.searchFrom, Expr.searchFrom, ← hpi, same hi, ih]
  have hs : Place.ofLeft text text.length = ⟨none, text⟩ := by simp [Place.ofLeft]
  have := later (Nat.le_refl _)
  rw [hs] at this
  exact this

end Wayfinder.Regex
