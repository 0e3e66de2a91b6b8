/-
The resolve cache changes nothing.

A route table remembers where URLs have led (`RouteTable.Coherent`: all that is remembered is what
the search would find). Looking a URL up keeps that up, so it always leads to the first route that
matches, and nothing but the cache of a table changes while it is used.
-/
import Mathlib.Tactic.Lemma
import Wayfinder.Navigator.Setup

namespace Wayfinder

variable {μ κ η : Type}

/-! ### Maps that forget -/

namespace RecentMap

variable {α : Type}

lemma mem_of_peek? {m : RecentMap α} {key : String} {value : α}
    (found : m.peek? key = some value) : (key, value) ∈ m.entries := by
  obtain ⟨before, after, split, -⟩ := List.lookup_eq_some_iff.mp found
  rw [split]
  simp

/-- A use of a key brings nothing new. -/
lemma mem_of_mem_touch {m : RecentMap α} {key : String} {e : String × α}
    (mem : e ∈ (m.touch key).entries) : e ∈ m.entries := by
  unfold touch at mem
  split at mem
  · rename_i value found
    rcases List.mem_cons.mp mem with rfl | mem
    · exact mem_of_peek? found
    · exact (List.mem_filter.mp mem).1
  · exact mem

/-- A new value is the only thing that is new. -/
lemma mem_of_mem_put {m : RecentMap α} {key : String} {value : α} {e : String × α}
    (mem : e ∈ (m.put key value).entries) : e = (key, value) ∨ e ∈ m.entries := by
  rcases List.mem_cons.mp (List.mem_of_mem_take mem) with rfl | mem
  · exact .inl rfl
  · exact .inr ((List.mem_filter.mp mem).1)

end RecentMap

namespace RouteTable

/-! ### Looking up -/

/-- All that is remembered is what the search would find. -/
def Coherent (t : RouteTable μ) : Prop :=
  ∀ e ∈ t.cache.found.entries, t.firstMatch e.1 = some ⟨e.2.1, e.2.2⟩

/-- A table that has been in use: nothing but its cache has changed, and the cache is coherent. -/
structure Used (t₀ t : RouteTable μ) : Prop where
  routes : t.routes = t₀.routes
  enterAll : t.enterAll = t₀.enterAll
  exitAll : t.exitAll = t₀.exitAll
  coherent : t.Coherent

lemma firstMatch_congr {t t' : RouteTable μ} (same : t'.routes = t.routes) (url : String) :
    t'.firstMatch url = t.firstMatch url := by
  rw [firstMatch, firstMatch, same]

/-- Asking the cache brings nothing new into it, and its answer is what the search would find. -/
lemma Coherent.get {t : RouteTable μ} (coherent : t.Coherent) (url : String) :
    (∀ e ∈ (t.cache.get url).1.found.entries, t.firstMatch e.1 = some ⟨e.2.1, e.2.2⟩) ∧
      ∀ m, t.remembered (t.cache.get url).2 = some m → t.firstMatch url = some m := by
  unfold ResolveCache.get
  split
  · rename_i found looked
    refine ⟨fun e mem => coherent e (RecentMap.mem_of_mem_touch mem), fun m h => ?_⟩
    simp only [remembered] at h
    split at h
    · rw [← h]
      exact coherent _ (RecentMap.mem_of_peek? looked)
    · cases h
  · exact ⟨coherent, by rintro _ ⟨⟩⟩

/-- Looking a URL up gives the first route that matches, and changes nothing but the cache. -/
theorem resolve_eq {t : RouteTable μ} (coherent : t.Coherent) (url : String) :
    (t.resolve url).2 = t.firstMatch url ∧ Used t (t.resolve url).1 := by
  obtain ⟨known, right⟩ := coherent.get url
  unfold resolve
  rcases looked : t.cache.get url with ⟨cache, found⟩
  rw [looked] at known right
  rcases h : t.remembered found with _ | m
  · rcases first : t.firstMatch url with _ | m
    · simp only [h]
      exact ⟨trivial, rfl, rfl, rfl, known⟩
    · simp only [h]
      refine ⟨trivial, rfl, rfl, rfl, fun e mem => ?_⟩
      rcases RecentMap.mem_of_mem_put mem with rfl | mem
      · exact first
      · exact known e mem
  · simp only [h]
    exact ⟨(right m h).symm, rfl, rfl, rfl, known⟩

lemma Used.refl {t : RouteTable μ} (coherent : t.Coherent) : Used t t :=
  ⟨rfl, rfl, rfl, coherent⟩

lemma Used.trans {t₁ t₂ t₃ : RouteTable μ} (h : Used t₁ t₂) (h' : Used t₂ t₃) : Used t₁ t₃ :=
  ⟨h'.routes.trans h.routes, h'.enterAll.trans h.enterAll, h'.exitAll.trans h.exitAll, h'.coherent⟩

lemma Used.firstMatch_eq {t₀ t : RouteTable μ} (h : Used t₀ t) (url : String) :
    t.firstMatch url = t₀.firstMatch url :=
  firstMatch_congr h.routes url

lemma Used.entryChain_eq {t₀ t : RouteTable μ} (h : Used t₀ t) (index : Nat) :
    t.entryChain index = t₀.entryChain index := by
  rw [entryChain, entryChain, h.routes, h.enterAll]

lemma Used.exitChain_eq {t₀ t : RouteTable μ} (h : Used t₀ t) (index : Option Nat) :
    t.exitChain index = t₀.exitChain index := by
  rw [exitChain, exitChain, h.routes, h.exitAll]

/-- A table that has been in use goes on finding the first route that matches. -/
lemma Used.resolve {t₀ t t' : RouteTable μ} (h : Used t₀ t) {url : String}
    {found : Option RouteMatch} (resolved : t.resolve url = (t', found)) :
    found = t₀.firstMatch url ∧ Used t₀ t' := by
  obtain ⟨first, used⟩ := resolve_eq h.coherent url
  rw [resolved] at first used
  exact ⟨first.trans (h.firstMatch_eq url), h.trans used⟩

end RouteTable

/-! ### New tables -/

lemma Setup.entries_registered (t : RouteTable μ) (routes : List (Route μ))
    (empty : t.cache.found.entries = []) : (registered t routes).cache.found.entries = [] := by
  induction routes generalizing t with
  | nil => exact empty
  | cons route rest ih => exact ih (t.register route) rfl

/-- A table that has just been set up remembers nothing. -/
lemma Setup.coherent_table (s : Setup μ κ η) : s.table.Coherent := by
  intro e mem
  have empty : s.table.cache.found.entries = [] := entries_registered _ _ rfl
  rw [empty] at mem
  cases mem

end Wayfinder
