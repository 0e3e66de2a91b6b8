/-
Route parameters.

`Parameters` is the finite map from names to values that flows through a navigation: the captures of
a pattern, the parameters decoded from them, the values a page keeps in a history entry. The entries
are held in strictly increasing order of their names, so everything that is printed from a map is
determined by its content, and two maps are equal exactly when they have the same entries.

* `get?_insert`: what an insertion changes.
* `get?_erase`: what a removal changes.
-/

namespace Wayfinder

/-- The list with `value` under `key`, put at its place in the order of the keys. -/
def insertEntry (key value : String) : List (String × String) → List (String × String)
  | [] => [(key, value)]
  | (k, v) :: rest =>
    if key < k then (key, value) :: (k, v) :: rest
    else if key = k then (key, value) :: rest
    else (k, v) :: insertEntry key value rest

/-- Every key of the list with one more entry is the new one or was there before. -/
theorem mem_insertEntry {key value : String} {e : String × String} :
    ∀ {l : List (String × String)}, e ∈ insertEntry key value l → e = (key, value) ∨ e ∈ l
  | [], h => by simpa [insertEntry] using h
  | (k, v) :: rest, h => by
    unfold insertEntry at h
    split at h
    · simpa using h
    · split at h
      · rcases List.mem_cons.1 h with h | h
        · exact .inl h
        · exact .inr (List.mem_cons_of_mem _ h)
      · rcases List.mem_cons.1 h with h | h
        · exact .inr (by simp [h])
        · rcases mem_insertEntry h with h | h
          · exact .inl h
          · exact .inr (List.mem_cons_of_mem _ h)

/-- Insertion keeps the order of the keys. -/
theorem pairwise_insertEntry {key value : String} :
    ∀ {l : List (String × String)}, l.Pairwise (·.1 < ·.1) →
      (insertEntry key value l).Pairwise (·.1 < ·.1)
  | [], _ => by simp [insertEntry]
  | (k, v) :: rest, h => by
    unfold insertEntry
    obtain ⟨hk, hrest⟩ := List.pairwise_cons.1 h
    split
    · rename_i hlt
      refine List.pairwise_cons.2 ⟨?_, h⟩
      intro e he
      rcases List.mem_cons.1 he with rfl | he
      · exact hlt
      · exact String.lt_trans hlt (hk e he)
    · split
      · rename_i heq
        subst heq
        exact List.pairwise_cons.2 ⟨hk, hrest⟩
      · rename_i hlt hne
        refine List.pairwise_cons.2 ⟨?_, pairwise_insertEntry hrest⟩
        intro e he
        rcases mem_insertEntry he with rfl | he
        · exact Std.lt_of_le_of_ne (String.not_lt.1 hlt) (Ne.symm hne)
        · exact hk e he

/-- A finite map from parameter names to values. -/
structure Parameters where
  /-- The entries, in strictly increasing order of their names. -/
  entries : List (String × String)
  /-- No name occurs twice, and the names are in order. -/
  ordered : entries.Pairwise (·.1 < ·.1)

namespace Parameters

instance : DecidableEq Parameters := fun p q =>
  if h : p.entries = q.entries then
    .isTrue (by cases p; cases q; simp_all)
  else .isFalse (fun e => h (e ▸ rfl))

/-- No parameters. -/
def empty : Parameters := ⟨[], .nil⟩

instance : Inhabited Parameters := ⟨empty⟩

/-- The value under a name. -/
def get? (p : Parameters) (key : String) : Option String :=
  p.entries.lookup key

/-- Whether there is a value under a name. -/
def contains (p : Parameters) (key : String) : Bool :=
  (p.get? key).isSome

/-- The names, in order. -/
def keys (p : Parameters) : List String := p.entries.map (·.1)

/-- The number of entries. -/
def size (p : Parameters) : Nat := p.entries.length

/-- Whether there are no entries. -/
def isEmpty (p : Parameters) : Bool := p.entries.isEmpty

/-- The map with `value` under `key`; a value already there is replaced. -/
def insert (p : Parameters) (key value : String) : Parameters :=
  ⟨insertEntry key value p.entries, pairwise_insertEntry p.ordered⟩

/-- The map without `key`. -/
def erase (p : Parameters) (key : String) : Parameters :=
  ⟨p.entries.filter (·.1 ≠ key), p.ordered.filter _⟩

/-- The map with every pair of the list put in, from left to right. -/
def insertMany (p : Parameters) (pairs : List (String × String)) : Parameters :=
  pairs.foldl (fun p e => p.insert e.1 e.2) p

/-- The map of a list of pairs; a later pair wins over an earlier one of the same name. -/
def ofList (pairs : List (String × String)) : Parameters := empty.insertMany pairs

/-- All entries of both maps; those of `overrides` win. -/
def merge (base overrides : Parameters) : Parameters := base.insertMany overrides.entries

/-- The entries that satisfy a test. -/
def filter (p : Parameters) (test : String → String → Bool) : Parameters :=
  ⟨p.entries.filter (fun e => test e.1 e.2), p.ordered.filter _⟩

/-! ### Lookups after each operation -/

@[simp] theorem entries_empty : empty.entries = [] := rfl

@[simp] theorem get?_empty (key : String) : empty.get? key = none := rfl

/-- An insertion changes what is found under its own key and nothing else. -/
theorem lookup_insertEntry (key value k : String) (l : List (String × String)) :
    (insertEntry key value l).lookup k = if k = key then some value else l.lookup k := by
  induction l with
  | nil =>
    simp only [insertEntry, List.lookup_cons, List.lookup_nil]
    split <;> simp_all
  | cons e rest ih =>
    obtain ⟨k', v'⟩ := e
    unfold insertEntry
    split
    · simp only [List.lookup_cons]
      by_cases h : k = key
      · simp [h]
      · simp [h, beq_eq_false_iff_ne.2 h]
    · split
      · rename_i heq
        subst heq
        simp only [List.lookup_cons]
        by_cases h : k = key
        · simp [h]
        · simp [h, beq_eq_false_iff_ne.2 h]
      · rename_i hne
        simp only [List.lookup_cons, ih]
        by_cases h : k = k'
        · have : k ≠ key := fun e => hne (e ▸ h ▸ rfl)
          simp [h]
          intro e
          exact absurd (h.trans e) this
        · simp [beq_eq_false_iff_ne.2 h]

/-- An insertion changes the lookup of its own key alone. -/
@[simp] theorem get?_insert (p : Parameters) (key value k : String) :
    (p.insert key value).get? k = if k = key then some value else p.get? k :=
  lookup_insertEntry key value k p.entries

/-- A removal changes the lookup of its own key alone. -/
@[simp] theorem get?_erase (p : Parameters) (key k : String) :
    (p.erase key).get? k = if k = key then none else p.get? k := by
  simp only [get?, erase]
  induction p.entries with
  | nil => simp
  | cons e rest ih =>
    obtain ⟨k', v'⟩ := e
    by_cases hk : k' = key
    · subst hk
      simp only [ne_eq, not_true_eq_false, decide_false, Bool.false_eq_true, not_false_eq_true,
        List.filter_cons_of_neg, List.lookup_cons]
      rw [ih]
      by_cases h : k = k'
      · simp [h]
      · simp [h, beq_eq_false_iff_ne.2 h]
    · rw [List.filter_cons_of_pos (by simp [hk])]
      simp only [List.lookup_cons]
      by_cases h : k = k'
      · simp [h, hk]
      · simp only [beq_eq_false_iff_ne.2 h]
        exact ih

end Parameters

end Wayfinder
