/-
What a search finds.

A search gives the first result of what follows a match. Whatever the order of preference, the match
found is a way in which the expression can take a part of the text. This module describes these ways
without the order, and what the groups hold after them.

* `Expr.Spans`: the ways an expression can match from one place to another.
* `Expr.sound_run`: every result of a search comes after such a match.
* `Expr.Spans.forward`: a match goes forward and holds what its own groups take.
-/
import Mathlib.Data.List.TakeDrop
import Mathlib.Tactic.Lemma
import Wayfinder.Regex.Guide

namespace Wayfinder.Regex

variable {α : Type} {p q : Place} {c d : Captures}

/-- A relation of the places and captures before and after a match. -/
abbrev Way := Place → Captures → Place → Captures → Prop

/-- So many ways, one after the other. -/
def Rounds (way : Way) : Nat → Way
  | 0 => fun p c q d => q = p ∧ d = c
  | n + 1 => fun p c q d => ∃ p' c', way p c p' c' ∧ Rounds way n p' c' q d

/-- The ways an expression can match. -/
def Expr.Spans : Expr → Way
  | .empty => fun p c q d => q = p ∧ d = c
  | .set member => fun p c q d => (∃ x, member x ∧ p.rest = x :: q.rest) ∧ d = c
  | .look condition => fun p c q d => condition.holds p ∧ q = p ∧ d = c
  | .mark left => fun p c q d => left.contains p.rest.length ∧ q = p ∧ d = c
  | .seq a b => fun p c q d => ∃ p' c', a.Spans p c p' c' ∧ b.Spans p' c' q d
  | .alt a b => fun p c q d => a.Spans p c q d ∨ b.Spans p c q d
  | .repeated body least most _ => fun p c q d =>
    ∃ n, least ≤ n ∧ (∀ m ∈ most, n ≤ max least m) ∧ Rounds body.Spans n p c q d
  | .group name body => fun p c q d => ∃ d', body.Spans p c q d' ∧ d = (name, p.textTo q) :: d'

/-! ### From a search to a match -/

/-- Whether a search only gives results that come after a way of some kind. -/
def Sound (way : Way) (search : Search α) : Prop :=
  ∀ ⦃p c k r⦄, search p c k = some r → ∃ q d, way p c q d ∧ k q d = some r

lemma Rounds.append {way : Way} {m n : Nat} {p' : Place} {c' : Captures}
    (first : Rounds way m p c p' c') (others : Rounds way n p' c' q d) :
    Rounds way (m + n) p c q d := by
  induction m generalizing p c with
  | zero =>
    obtain ⟨rfl, rfl⟩ := first
    simpa using others
  | succ m ih =>
    obtain ⟨p', c', here, first⟩ := first
    rw [Nat.add_right_comm]
    exact ⟨p', c', here, ih first⟩

section

variable {way : Way} {body : Search α} (sound : Sound way body) (greedy : Bool)

include sound

lemma sound_exactly (n : Nat) : Sound (Rounds way n) (exactly body n) := by
  induction n with
  | zero => exact fun p c k r found => ⟨p, c, ⟨rfl, rfl⟩, found⟩
  | succ n ih =>
    intro p c k r found
    obtain ⟨p', c', here, found⟩ := sound found
    obtain ⟨q, d, others, found⟩ := ih found
    exact ⟨q, d, ⟨p', c', here, others⟩, found⟩

lemma sound_atMost (n : Nat) :
    Sound (fun p c q d => ∃ m ≤ n, Rounds way m p c q d) (atMost body greedy n) := by
  induction n with
  | zero => exact fun p c k r found => ⟨p, c, ⟨0, Nat.le_refl _, rfl, rfl⟩, found⟩
  | succ n ih =>
    intro p c k r found
    rw [atMost] at found
    rcases prefer_eq_some found with found | found
    · obtain ⟨p', c', here, found⟩ := sound found
      obtain ⟨q, d, ⟨m, le, others⟩, found⟩ := ih found
      exact ⟨q, d, ⟨m + 1, by omega, p', c', here, others⟩, found⟩
    · exact ⟨p, c, ⟨0, Nat.zero_le _, rfl, rfl⟩, found⟩

lemma sound_more : Sound (fun p c q d => ∃ m, Rounds way m p c q d) (more body greedy) := by
  intro p c k r found
  -- A round is only followed by another one where it has left less, whatever it holds.
  induction length : p.rest.length using Nat.strongRecOn generalizing p c with
  | ind n ih =>
    rw [more] at found
    rcases prefer_eq_some found with found | found
    · obtain ⟨p', c', here, found⟩ := sound found
      split at found
      · rename_i shorter
        obtain ⟨q, d, ⟨m, others⟩, found⟩ := ih p'.rest.length (length ▸ shorter) found rfl
        exact ⟨q, d, ⟨m + 1, p', c', here, others⟩, found⟩
      · cases found
    · exact ⟨p, c, ⟨0, rfl, rfl⟩, found⟩

lemma sound_plus : Sound (fun p c q d => ∃ m, 1 ≤ m ∧ Rounds way m p c q d) (plus body greedy) := by
  intro p c k r found
  obtain ⟨p', c', here, found⟩ := sound found
  split at found
  · obtain ⟨q, d, ⟨m, others⟩, found⟩ := sound_more sound greedy found
    exact ⟨q, d, ⟨m + 1, by omega, p', c', here, others⟩, found⟩
  · exact ⟨p', c', ⟨1, Nat.le_refl _, p', c', here, rfl, rfl⟩, found⟩

end

/-- Whatever follows a match, the search gives a result of it only after a way the expression can
match. -/
lemma Expr.sound_run (e : Expr) : Sound e.Spans (e.run (α := α)) := by
  induction e with
  | empty => exact fun p c k r found => ⟨p, c, ⟨rfl, rfl⟩, found⟩
  | set member =>
    intro p c k r found
    simp only [Expr.run] at found
    split at found
    · rename_i x rest text
      split at found
      · rename_i holds
        exact ⟨_, c, ⟨⟨x, holds, text⟩, rfl⟩, found⟩
      · cases found
    · cases found
  | look condition =>
    intro p c k r found
    simp only [Expr.run, Option.ite_none_right_eq_some] at found
    exact ⟨p, c, ⟨found.1, rfl, rfl⟩, found.2⟩
  | mark left =>
    intro p c k r found
    simp only [Expr.run, Option.ite_none_right_eq_some] at found
    exact ⟨p, c, ⟨found.1, rfl, rfl⟩, found.2⟩
  | seq a b iha ihb =>
    intro p c k r found
    obtain ⟨p', c', here, found⟩ := iha found
    obtain ⟨q, d, there, found⟩ := ihb found
    exact ⟨q, d, ⟨p', c', here, there⟩, found⟩
  | alt a b iha ihb =>
    intro p c k r found
    rw [Expr.run_alt] at found
    rcases first_eq_some found with found | found
    · obtain ⟨q, d, here, found⟩ := iha found
      exact ⟨q, d, .inl here, found⟩
    · obtain ⟨q, d, here, found⟩ := ihb found
      exact ⟨q, d, .inr here, found⟩
  | group name body ih =>
    intro p c k r found
    obtain ⟨q, d, here, found⟩ := ih found
    exact ⟨q, _, ⟨d, here, rfl⟩, found⟩
  | repeated body least most greedy ih =>
    intro p c k r found
    simp only [Expr.run] at found
    split at found
    · -- rounds that have to be, and some more that need not be
      rename_i m
      obtain ⟨p', c', first, found⟩ := sound_exactly ih least found
      obtain ⟨q, d, ⟨n, le, others⟩, found⟩ := sound_atMost ih greedy _ found
      refine ⟨q, d, ⟨least + n, Nat.le_add_right .., ?_, first.append others⟩, found⟩
      rintro _ ⟨⟩
      omega
    · split at found
      · rcases prefer_eq_some found with found | found
        · obtain ⟨q, d, ⟨n, -, others⟩, found⟩ := sound_plus ih greedy found
          exact ⟨q, d, ⟨n, Nat.zero_le _, by simp, others⟩, found⟩
        · exact ⟨p, c, ⟨0, Nat.le_refl _, by simp, rfl, rfl⟩, found⟩
      · rename_i least
        obtain ⟨p', c', first, found⟩ := sound_exactly ih least found
        obtain ⟨q, d, ⟨n, some, others⟩, found⟩ := sound_plus ih greedy found
        exact ⟨q, d, ⟨least + n, by omega, by simp, first.append others⟩, found⟩

/-! ### What a match does -/

/-- The names of the groups of an expression. -/
def Expr.groups : Expr → List String
  | .empty | .set _ | .look _ | .mark _ => []
  | .seq a b | .alt a b => a.groups ++ b.groups
  | .repeated body _ _ _ => body.groups
  | .group name body => name :: body.groups

/-- Whether a match goes forward and adds to the captures only under certain names. -/
structure Forward (names : List String) (p : Place) (c : Captures) (q : Place) (d : Captures) :
    Prop where
  /-- What is left is the end of the text. -/
  suffix : q.rest <:+ p.rest
  /-- What is held is added under the names. -/
  held : ∃ added, d = added ++ c ∧ ∀ entry ∈ added, entry.1 ∈ names

namespace Forward

variable {names names' : List String}

lemma refl : Forward names p c p c := ⟨List.suffix_rfl, [], rfl, nofun⟩

lemma trans {p' : Place} {c' : Captures} (first : Forward names p c p' c')
    (second : Forward names p' c' q d) : Forward names p c q d := by
  obtain ⟨part, added, rfl, known⟩ := first
  obtain ⟨part', added', rfl, known'⟩ := second
  refine ⟨part'.trans part, added' ++ added, by simp, fun entry mem => ?_⟩
  exact (List.mem_append.mp mem).elim (known' entry) (known entry)

lemma weaken (forward : Forward names p c q d) (sub : names ⊆ names') : Forward names' p c q d := by
  obtain ⟨part, added, eq, known⟩ := forward
  exact ⟨part, added, eq, fun entry mem => sub (known entry mem)⟩

end Forward

/-- A match goes forward and holds what its groups take. -/
lemma Expr.Spans.forward {e : Expr} (spans : e.Spans p c q d) : Forward e.groups p c q d := by
  induction e generalizing p c q d with
  | empty =>
    obtain ⟨rfl, rfl⟩ := spans
    exact .refl
  | set member =>
    obtain ⟨⟨x, -, text⟩, rfl⟩ := spans
    exact ⟨text ▸ List.suffix_cons .., [], rfl, nofun⟩
  | look condition =>
    obtain ⟨-, rfl, rfl⟩ := spans
    exact .refl
  | mark left =>
    obtain ⟨-, rfl, rfl⟩ := spans
    exact .refl
  | seq a b iha ihb =>
    obtain ⟨p', c', here, there⟩ := spans
    exact ((iha here).weaken (List.subset_append_left ..)).trans
      ((ihb there).weaken (List.subset_append_right ..))
  | alt a b iha ihb =>
    rcases spans with here | there
    · exact (iha here).weaken (List.subset_append_left ..)
    · exact (ihb there).weaken (List.subset_append_right ..)
  | group name body ih =>
    obtain ⟨d', here, rfl⟩ := spans
    obtain ⟨part, added, rfl, known⟩ := ih here
    refine ⟨part, (name, p.textTo q) :: added, rfl, fun entry mem => ?_⟩
    rcases List.mem_cons.mp mem with rfl | mem
    · exact List.mem_cons_self ..
    · exact .tail _ (known entry mem)
  | repeated body least most greedy ih =>
    obtain ⟨n, -, -, rounds⟩ := spans
    show Forward body.groups p c q d
    induction n generalizing p c with
    | zero =>
      obtain ⟨rfl, rfl⟩ := rounds
      exact .refl
    | succ n ih' =>
      obtain ⟨p', c', here, rounds⟩ := rounds
      exact (ih here).trans (ih' rounds)

/-- Whether an expression takes a text, at some place with something behind it. -/
def Expr.Takes (e : Expr) (text : List Char) : Prop :=
  ∃ p c q d, e.Spans p c q d ∧ p.rest = text ++ q.rest

/-- The text between two places, if the second one comes later. -/
lemma textTo_append (part : q.rest <:+ p.rest) : p.textTo q ++ q.rest = p.rest := by
  obtain ⟨front, eq⟩ := part
  simp [Place.textTo, ← eq]

end Wayfinder.Regex
