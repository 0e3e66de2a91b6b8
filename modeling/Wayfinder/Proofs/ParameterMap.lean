/-
Parameters as finite maps.

A parameter map is a list that is kept in order, and all that can be asked of it is what it has under a
name. Two maps that give the same answers are the same map, so what an operation does is said by what
can be found afterwards.

* `ext_get?`: equality of maps.
* `get?_filter`: a map of which only some entries are kept.
* `get?_merge`: of two maps that are put together, the second one wins.
* `get?_mapped`: a map whose values are changed one by one.
-/
import Mathlib.Data.List.Perm.Basic
import Wayfinder.Proofs.PatternMeaning
import Wayfinder.Proofs.RoundTrip

namespace Wayfinder.Parameters

variable {p q : Parameters} {key value : String}

/-- No name occurs twice. -/
lemma nodup_keys (p : Parameters) : (p.entries.map (·.1)).Nodup :=
  List.pairwise_map.mpr <| p.ordered.imp fun {a b} before (same : a.1 = b.1) =>
    String.lt_irrefl b.1 (by simpa only [same] using before)

/-- What is found under a name is the entry of the name. -/
lemma get?_eq_some_iff : p.get? key = some value ↔ (key, value) ∈ p.entries := by
  have same : empty.insertMany p.entries = p := ofList_entries p
  rw [← same, get?_insertMany p.nodup_keys, same]
  simp

/-- Nothing is found under other names. -/
lemma get?_eq_none_iff : p.get? key = none ↔ key ∉ p.entries.map (·.1) := by
  rw [Option.eq_none_iff_forall_ne_some]
  simp [get?_eq_some_iff]

/-- Maps in which the same is found are the same. -/
theorem ext_get? (same : ∀ key, p.get? key = q.get? key) : p = q := by
  have mem (e : String × String) : e ∈ p.entries ↔ e ∈ q.entries := by
    rw [← get?_eq_some_iff, ← get?_eq_some_iff, same]
  have perm : p.entries.Perm q.entries :=
    (List.perm_ext_iff_of_nodup p.nodup_keys.of_map q.nodup_keys.of_map).mpr mem
  have eq : p.entries = q.entries :=
    perm.eq_of_pairwise (fun _ _ _ _ before after => absurd after (String.lt_asymm before))
      p.ordered q.ordered
  cases p
  cases q
  simp_all

/-- What is found in a map that is made of entries with different names. -/
lemma get?_ofList {l : List (String × String)} (distinct : (l.map (·.1)).Nodup) :
    (ofList l).get? key = some value ↔ (key, value) ∈ l := by
  rw [ofList, get?_insertMany distinct]
  simp

/-- What is found in a map of which only some entries are kept. -/
lemma get?_filter {test : String → String → Bool} :
    (p.filter test).get? key = some value ↔ p.get? key = some value ∧ test key value := by
  rw [get?_eq_some_iff, get?_eq_some_iff, filter, List.mem_filter]

/-- Of two maps that are put together, the second one wins. -/
lemma get?_merge (base overrides : Parameters) (key : String) :
    (base.merge overrides).get? key = (overrides.get? key).or (base.get? key) := by
  refine Option.ext fun value => ?_
  rw [merge, get?_insertMany overrides.nodup_keys]
  simp only [Option.or_eq_some_iff, get?_eq_some_iff, get?_eq_none_iff]

/-- A map of which some entries are kept and given other values. -/
lemma get?_mapped (p : Parameters) (keep : String → Bool) (change : String → String) (key : String) :
    (ofList ((p.entries.filter fun e => keep e.1).map fun e => (e.1, change e.2))).get? key =
      if keep key then (p.get? key).map change else none := by
  have distinct : (((p.entries.filter fun e => keep e.1).map
      fun e => (e.1, change e.2)).map (·.1)).Nodup := by
    rw [List.map_map]
    exact p.nodup_keys.sublist (List.filter_sublist.map _)
  refine Option.ext fun value => ?_
  rw [get?_ofList distinct]
  by_cases kept : keep key
  · simp only [kept, if_true, Option.map_eq_some_iff, get?_eq_some_iff]
    simp only [List.mem_map, List.mem_filter, Prod.mk.injEq]
    constructor
    · rintro ⟨⟨key', raw⟩, ⟨mem, -⟩, rfl, rfl⟩
      exact ⟨raw, mem, rfl⟩
    · rintro ⟨raw, mem, rfl⟩
      exact ⟨(key, raw), ⟨mem, kept⟩, rfl, rfl⟩
  · simp only [kept, List.mem_map, List.mem_filter, Prod.mk.injEq]
    constructor
    · rintro ⟨⟨key', raw⟩, ⟨-, kept'⟩, rfl, -⟩
      exact absurd kept' kept
    · rintro ⟨⟩

end Wayfinder.Parameters
