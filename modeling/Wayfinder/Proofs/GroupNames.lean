/-
The names of groups.

The reader refuses a name that was used before, so the groups of an expression that is read have
different names.

* `part?_named`: in every round the names used so far are those of the groups, closed or open.
* `nodup_groups_of_parse`: the groups of an expression have different names.
-/
import Wayfinder.Proofs.Enclosure
import Wayfinder.Proofs.Spans

namespace Wayfinder.Regex

variable {r next : Reader} {rest : List Char}

/-- The names of the groups in some parts. -/
def groupsOf (nodes : List Node) : List String := nodes.flatMap (·.expr.groups)

/-- The names of the groups around the innermost one, and its own. -/
def GroupFrame.groups (frame : GroupFrame) : List String :=
  groupsOf frame.items ++ groupsOf frame.branches ++ frame.name.toList

/-- The names of all groups that were begun. -/
def Reader.groups (r : Reader) : List String :=
  groupsOf r.items ++ groupsOf r.branches ++ r.stack.flatMap GroupFrame.groups

/-- Whether the names used so far are those of the groups, and no two are the same. -/
structure Reader.Named (r : Reader) : Prop where
  /-- They are those of the groups. -/
  perm : r.groups.Perm r.names
  /-- They differ. -/
  nodup : r.names.Nodup

@[simp] lemma groupsOf_nil : groupsOf [] = [] := rfl

@[simp] lemma groupsOf_cons (node : Node) (nodes : List Node) :
    groupsOf (node :: nodes) = node.expr.groups ++ groupsOf nodes := rfl

/-! ### Rows and alternatives -/

lemma groups_row (es : List Expr) : (Expr.row es).groups = es.flatMap Expr.groups := by
  induction es with
  | nil => rfl
  | cons e es ih =>
    show e.groups ++ (Expr.row es).groups = _
    rw [ih, List.flatMap_cons]

lemma perm_rowOf (items : List Node) : (rowOf items).expr.groups.Perm (groupsOf items) := by
  rcases items with _ | ⟨a, _ | ⟨b, items⟩⟩
  · exact .refl _
  · simp [rowOf]
  · show (Expr.row ((a :: b :: items).reverse.map (·.expr))).groups.Perm _
    rw [groups_row, List.flatMap_map]
    exact (List.reverse_perm _).flatMap_right _

lemma perm_alternatives (r : Reader) :
    r.alternatives.expr.groups.Perm (groupsOf r.items ++ groupsOf r.branches) := by
  have folded (e : Expr) (branches : List Node) :
      (branches.foldl (fun e b => .alt b.expr e) e).groups.Perm (e.groups ++ groupsOf branches) := by
    induction branches generalizing e with
    | nil => simp
    | cons b branches ih =>
      refine (ih _).trans ?_
      simp only [Expr.groups, groupsOf_cons, ← List.append_assoc]
      exact (List.perm_append_comm).append_right _
  unfold Reader.alternatives
  rcases some : r.branches with _ | ⟨b, branches⟩
  · simpa using perm_rowOf r.items
  · exact (folded _ (b :: branches)).trans ((perm_rowOf r.items).append_right _)

/-! ### One round -/

lemma Reader.Named.of_perm (named : r.Named) (same : next.groups.Perm r.groups)
    (names : next.names = r.names) : next.Named :=
  ⟨names ▸ same.trans named.perm, names ▸ named.nodup⟩

lemma named_addSet? {set : Option CharSet} (named : r.Named) (read : r.addSet? set rest = some next) :
    next.Named := by
  obtain ⟨members, -, rfl⟩ := Option.map_eq_some_iff.mp read
  exact named.of_perm (.refl _) rfl

lemma named_escaped? {e : Escape} (named : r.Named) (read : r.escaped? e rest = some next) :
    next.Named := by
  cases e with
  | literal c byte => exact named_addSet? named read
  | perl letter negated => exact named_addSet? named read
  | property members negated => exact named_addSet? named read
  | look condition =>
    obtain rfl := Option.some.inj read
    exact named.of_perm (.refl _) rfl

lemma named_repeat? {least : Nat} {most : Option Nat} (named : r.Named)
    (read : r.repeat? least most rest = some next) : next.Named := by
  rw [repeat?_eq] at read
  split at read
  · cases read
  · rename_i item items some
    split at read
    · cases read
    · obtain rfl := Option.some.inj read
      refine named.of_perm ?_ rfl
      simp [Reader.groups, some, Expr.groups]

lemma named_close? (named : r.Named) (read : r.close? rest = some next) : next.Named := by
  unfold Reader.close? at read
  split at read
  · cases read
  · rename_i frame stack open_
    obtain rfl := Option.some.inj read
    refine named.of_perm ?_ rfl
    -- What was read within the group becomes one part, and nothing else moves: every name is counted.
    have body := List.perm_iff_count.mp (perm_alternatives r)
    rw [List.perm_iff_count]
    intro name
    have count := body name
    simp only [List.count_append] at count
    rcases called : frame.name with _ | own
    · simp only [Reader.groups, open_, called, groupsOf_cons, List.flatMap_cons, GroupFrame.groups,
        Option.toList_none, List.append_nil, List.count_append]
      omega
    · simp only [Reader.groups, open_, called, groupsOf_cons, List.flatMap_cons, GroupFrame.groups,
        Expr.groups, Option.toList_some, List.count_append, List.count_cons, List.count_nil]
      omega

lemma perm_openGroup (r : Reader) (name : Option String) (flags : Flags) (rest : List Char) :
    (r.openGroup name flags rest).groups.Perm (name.toList ++ r.groups) := by
  rw [List.perm_iff_count]
  intro x
  simp only [Reader.openGroup, Reader.groups, GroupFrame.groups, groupsOf_nil, List.flatMap_cons,
    List.nil_append, List.count_append]
  omega

lemma named_group? (named : r.Named) (read : r.group? rest = some next) : next.Named := by
  have opened {flags : Flags} {rest : List Char} : (r.openGroup none flags rest).Named :=
    named.of_perm (perm_openGroup ..) rfl
  have called {rest : List Char} (read : r.named? rest = some next) : next.Named := by
    obtain ⟨⟨name, after⟩, -, read⟩ := Option.bind_eq_some_iff.mp read
    simp only [Option.ite_none_left_eq_some] at read
    obtain ⟨new, read⟩ := read
    obtain rfl := Option.some.inj read
    refine ⟨(perm_openGroup r (some name) r.flags after).trans (named.perm.cons name), ?_⟩
    exact List.nodup_cons.mpr ⟨by simpa using new, named.nodup⟩
  rw [group?_eq] at read
  split at read
  iterate 4 · cases read
  · exact called read
  · exact called read
  · obtain ⟨⟨items, sign, after⟩, -, read⟩ := Option.bind_eq_some_iff.mp read
    dsimp only at read
    split at read
    · obtain rfl := Option.some.inj read
      exact opened
    · simp only [Option.ite_none_left_eq_some] at read
      obtain rfl := Option.some.inj read.2
      exact named.of_perm (.refl _) rfl
  · obtain rfl := Option.some.inj read
    exact opened

/-- A round keeps count of the names. -/
lemma part?_named {c : Char} (named : r.Named) (read : r.part? c rest = some next) : next.Named := by
  have added {e : Expr} {depth : Nat} {rest : List Char} (free : e.groups = [])
      (read : some (r.add e depth rest) = some next) : next.Named := by
    obtain rfl := Option.some.inj read
    exact named.of_perm (by simp [Reader.groups, Reader.add, free]) rfl
  simp only [Reader.part?] at read
  split at read
  · exact named_group? named read
  · exact named_close? named read
  · obtain rfl := Option.some.inj read
    refine named.of_perm ?_ rfl
    simp only [Reader.groups, groupsOf_nil, groupsOf_cons, List.nil_append]
    exact ((perm_rowOf r.items).append_right _).append_right _
  · split at read
    · cases read
    · split at read
      · exact added rfl read
      · cases read
  · exact named_repeat? named read
  · exact named_repeat? named read
  · exact named_repeat? named read
  · split at read
    · exact named_repeat? named read
    · cases read
  · split at read
    · exact named_escaped? named read
    · cases read
  · exact named_addSet? named read
  · exact added rfl read
  · exact added rfl read
  · exact named_addSet? named read

/-! ### Whole expressions -/

lemma run?_named {fuel : Nat} (named : r.Named) (run : r.run? fuel = some next) : next.Named := by
  induction fuel generalizing r with
  | zero => cases run
  | succ fuel ih =>
    rw [Reader.run?] at run
    split at run
    · exact Option.some.inj run ▸ named
    · split at run
      · rename_i part
        exact ih (part?_named named part) run
      · cases run

/-- The groups of an expression that is read have different names. -/
theorem nodup_groups_of_parse {text : List Char} {e : Expr} (reads : parse text = some e) :
    e.groups.Nodup := by
  obtain ⟨last, run, ended⟩ := Option.bind_eq_some_iff.mp reads
  simp only [Option.ite_none_right_eq_some, Option.ite_none_left_eq_some] at ended
  obtain ⟨empty, -, here⟩ := ended
  obtain rfl := Option.some.inj here
  have named : last.Named := run?_named ⟨.refl _, List.nodup_nil⟩ run
  have groups : last.groups = groupsOf last.items ++ groupsOf last.branches := by
    simp [Reader.groups, List.isEmpty_iff.mp empty]
  exact ((perm_alternatives last).trans (groups ▸ named.perm)).nodup_iff.mpr named.nodup

end Wayfinder.Regex
