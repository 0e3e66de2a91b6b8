/-
How often a page controller asks for pages by itself.

A page controller that is sent past the last page of its list asks for the last page by itself: at once
when it reaches no navigator, and otherwise once the navigator has been asked to go there and it did not
work out. A list that shrinks with every answer could go on like this for ever, were it not for a mark
that is set the first time. The account: each request is paid by a call of the controller, by the mark,
or by a task that may still have to load the last page, and no payment is made twice.

* `Workspace.Costs`: what a step takes from the account, however deep its calls are nested.
* `customs_costs`: what is customary costs nothing.
* `Workspace.Thrifty`: the account at a moment between two turns.
* `reloading_bounded`: the result.
-/
import Wayfinder.Proofs.LastRequest
import Wayfinder.Proofs.Minutes

namespace Wayfinder

namespace Minute

variable {ν : Type}

/-- Whether the controller is called to run a list or to change its page. -/
def isCall : Minute ν → Bool
  | called => true
  | _ => false

/-- Whether a page is asked for. -/
def isFetch : Minute ν → Bool
  | fetched _ => true
  | _ => false

/-- Whether the controller goes to the last page in place of a later one. -/
def isRedirect : Minute ν → Bool
  | told (.redirected _ _) => true
  | _ => false

end Minute

/-- Whether a task may have to load the last page for the page controller with an index. -/
def Work.reloads (index : Nat) : Work → Bool
  | .navigate (.reload i _) => i == index
  | _ => false

/-- Whether a turn calls a page controller to run a list or to change its page. -/
def Turn.calls {A : Application} (index : Nat) : Turn A → Bool
  | run i _ _ => i == index
  | changePage i _ => i == index
  | _ => false

lemma Work.isAbout_of_reloads {index : Nat} {work : Work} (reloads : work.reloads index = true) :
    work.isAbout index = true := by
  cases work with
  | navigate sequel =>
    cases sequel with
    | reload i page => exact reloads
    | _ => cases reloads
  | _ => cases reloads

variable {A : Application}

/-! ### The tasks that may have to load the last page -/

/-- How many tasks may have to load the last page for a page controller. -/
def TaskPool.reloads (p : TaskPool) (index : Nat) : Nat := p.tasks.countP (·.2.reloads index)

namespace TaskPool

variable {p p' : TaskPool} {task : Nat} {work old : Work} (index : Nat)

lemma reloads_eq (tidy : p.Tidy) (tidy' : p'.Tidy)
    (same : ∀ task work, work.reloads index = true → ((task, work) ∈ p'.tasks ↔ (task, work) ∈ p.tasks)) :
    p'.reloads index = p.reloads index := by
  have distinct : ∀ {p : TaskPool}, p.Tidy → (p.tasks.filter (·.2.reloads index)).Nodup :=
    fun tidy => (tidy.distinct.of_map _).filter _
  rw [reloads, reloads, List.countP_eq_length_filter, List.countP_eq_length_filter]
  refine ((List.perm_ext_iff_of_nodup (distinct tidy') (distinct tidy)).mpr fun e => ?_).length_eq
  rw [List.mem_filter, List.mem_filter]
  exact and_congr_left fun about => same e.1 e.2 about

/-- A task that is there can be told from the others. -/
lemma Tidy.split (tidy : p.Tidy) (mem : (task, old) ∈ p.tasks) :
    ∃ before behind, p.tasks = before ++ (task, old) :: behind ∧
      (∀ work, (p.set task work).tasks = before ++ (task, work) :: behind) ∧
      (p.remove task).tasks = before ++ behind := by
  obtain ⟨before, behind, tasks⟩ := List.append_of_mem mem
  have distinct := tidy.distinct
  rw [tasks, List.map_append, List.map_cons, List.nodup_middle, ← List.map_append] at distinct
  have others : ∀ e ∈ before ++ behind, e.1 ≠ task := by
    rintro e there rfl
    exact distinct.notMem (List.mem_map.mpr ⟨e, there, rfl⟩)
  refine ⟨before, behind, tasks, fun work => ?_, ?_⟩
  · have kept : ∀ l ⊆ before ++ behind,
        l.map (fun e => if e.1 = task then (task, work) else e) = l := fun l sub =>
      (List.map_congr_left fun e there => if_neg (others e (sub there))).trans l.map_id
    rw [TaskPool.set, tasks, List.map_append, List.map_cons, if_pos rfl,
      kept _ (List.subset_append_left ..), kept _ (List.subset_append_right ..)]
  · have kept : ∀ e ∈ before ++ behind, decide (e.1 ≠ task) = true :=
      fun e mem => decide_eq_true (others e mem)
    rw [TaskPool.remove, tasks, List.filter_append, List.filter_cons_of_neg (by simp),
      ← List.filter_append, List.filter_eq_self.mpr kept]

/-- A task that changes is not one more unless it may have to load the last page from then on. -/
lemma reloads_set_le (p : TaskPool) (task : Nat) (plain : work.reloads index = false) :
    (p.set task work).reloads index ≤ p.reloads index := by
  rw [reloads, reloads, TaskPool.set, List.countP_map]
  refine List.countP_mono_left fun e _ => ?_
  by_cases own : e.1 = task <;> simp [own, plain]

/-- A task that changes may be one more. -/
lemma reloads_set (tidy : p.Tidy) (mem : (task, old) ∈ p.tasks) (work : Work) :
    (p.set task work).reloads index ≤ p.reloads index + (work.reloads index).toNat := by
  obtain ⟨before, behind, tasks, set, -⟩ := tidy.split mem
  rw [reloads, reloads, set work, tasks, List.countP_append, List.countP_append, List.countP_cons,
    List.countP_cons]
  cases work.reloads index <;> simp +arith

/-- A task that ends is one less. -/
lemma reloads_remove (tidy : p.Tidy) (mem : (task, old) ∈ p.tasks) :
    (p.remove task).reloads index + (old.reloads index).toNat = p.reloads index := by
  obtain ⟨before, behind, tasks, -, removed⟩ := tidy.split mem
  rw [reloads, reloads, removed, tasks, List.countP_append, List.countP_append, List.countP_cons]
  cases old.reloads index <;> simp +arith

lemma reloads_remove_le (p : TaskPool) (task : Nat) :
    (p.remove task).reloads index ≤ p.reloads index :=
  List.filter_sublist.countP_le

end TaskPool

/-! ### What a step costs -/

namespace Workspace

/-- The mark of a page controller, as a number. -/
abbrev mark (c : PageController A.Listing A.View) : Nat := c.redirected.toNat

/-- What a step takes from the account of a page controller: requests have to be paid, and calls of the
controller and its mark pay. A redirection is told when the mark is set, and only then. -/
structure Bill (κ : Charter A) (k : Int) (w w' : Workspace A)
    (c c' : PageController A.Listing A.View) : Prop where
  here : w'.list? κ.index = some c'
  tidy : w'.pool.Tidy
  /-- The tasks that are about the controller are still there. -/
  kept : ∀ task work, work.isAbout κ.index = true → (task, work) ∈ w.pool.tasks →
    (task, work) ∈ w'.pool.tasks
  /-- No more of them may have to load the last page. -/
  same : ∀ task work, work.reloads κ.index = true → (task, work) ∈ w'.pool.tasks →
    (task, work) ∈ w.pool.tasks
  /-- The mark is never taken off. -/
  final : c.redirected = true → c'.redirected = true
  told : (κ.minutes w'.state).countP Minute.isRedirect + mark c =
    (κ.minutes w.state).countP Minute.isRedirect + mark c'
  spent : ((κ.minutes w'.state).countP Minute.isFetch : Int) + (κ.minutes w.state).countP Minute.isCall
      + mark c ≤
    (κ.minutes w.state).countP Minute.isFetch + (κ.minutes w'.state).countP Minute.isCall
      + mark c' + k

/-- A step takes no more from the account of a page controller. -/
def Costs (κ : Charter A) (k : Int) (w w' : Workspace A) : Prop :=
  ∀ c, w.list? κ.index = some c → w.pool.Tidy → ∃ c', w.Bill κ k w' c c'

variable {κ : Charter A} {k k' : Int} {w w₀ w' w'' : Workspace A}
  {c c' c'' : PageController A.Listing A.View} {entries : List (Minute A.View)}

lemma Bill.trans (first : w.Bill κ k w' c c') (second : w'.Bill κ k' w'' c' c'') :
    w.Bill κ (k + k') w'' c c'' where
  here := second.here
  tidy := second.tidy
  kept task work about := second.kept task work about ∘ first.kept task work about
  same task work about := first.same task work about ∘ second.same task work about
  final := second.final ∘ first.final
  told := by
    have := first.told
    have := second.told
    omega
  spent := by
    have := first.spent
    have := second.spent
    omega

lemma Bill.mono (bill : w.Bill κ k w' c c') (le : k ≤ k') : w.Bill κ k' w' c c' :=
  { bill with spent := by have := bill.spent; omega }

lemma Costs.trans (first : w.Costs κ k w') (second : w'.Costs κ k' w'') :
    w.Costs κ (k + k') w'' := by
  intro c here tidy
  obtain ⟨c', bill⟩ := first c here tidy
  obtain ⟨c'', bill'⟩ := second c' bill.here bill.tidy
  exact ⟨c'', bill.trans bill'⟩

lemma Costs.mono (costs : w.Costs κ k w') (le : k ≤ k') : w.Costs κ k' w' :=
  fun c here tidy => (costs c here tidy).imp fun _ bill => bill.mono le

/-- The page controller is changed, and something is written down. -/
lemma Bill.of_notes (tidy : w.pool.Tidy) (here : w₀.list? κ.index = some c')
    (state : w₀.state = w.state) (pool : w₀.pool = w.pool) (notes : w₀.Notes κ entries w')
    (final : c.redirected = true → c'.redirected = true)
    (told : entries.countP Minute.isRedirect + mark c = mark c')
    (spent : (entries.countP Minute.isFetch : Int) + mark c ≤
      entries.countP Minute.isCall + mark c' + k) : w.Bill κ k w' c c' where
  here := notes.apart.list c' here
  tidy := notes.apart.tidy (by rwa [pool])
  kept task work about mem := (notes.apart.tasks task work about).mpr (by rwa [pool])
  same task work about mem := by
    rw [← pool]
    exact (notes.apart.tasks task work (Work.isAbout_of_reloads about)).mp mem
  final := final
  told := by
    rw [notes.minutes, state, List.countP_append]
    omega
  spent := by
    rw [notes.minutes, state, List.countP_append, List.countP_append]
    push_cast
    omega

/-- Something is written down, and the page controller is left alone. -/
lemma Costs.notes (notes : w.Notes κ entries w') (told : entries.countP Minute.isRedirect = 0)
    (spent : (entries.countP Minute.isFetch : Int) ≤ entries.countP Minute.isCall + k) :
    w.Costs κ k w' :=
  fun c here tidy => ⟨c, .of_notes tidy here rfl rfl notes id (by omega) (by omega)⟩

lemma Costs.aside (notes : w.Notes κ [] w') : w.Costs κ 0 w' := .notes notes rfl (Int.le_refl _)

lemma Costs.quiet (quiet : w.Quiet w') : w.Costs κ 0 w' := .aside quiet.notes

/-- A page controller that is changed without a word about its mark. -/
lemma Costs.setList (here : w.list? κ.index = some c) (same : c'.redirected = c.redirected) :
    w.Costs κ 0 (w.setList κ.index c') := by
  intro d here' tidy
  obtain rfl := Option.some.inj (here.symm.trans here')
  have still : (w.setList κ.index c').Notes κ [] (w.setList κ.index c') := (Quiet.refl _).notes
  have here₀ : (w.setList κ.index c').list? κ.index = some c' := list?_setList_self here
  exact ⟨c', .of_notes tidy here₀ rfl rfl still (fun marked => same.trans marked)
    (by simp [mark, same]) (by simp [mark, same])⟩

/-- A request of the controller waits in a task. -/
lemma Costs.spawn {s page fetch : Nat} (spawned : w.spawn (.load κ.index s page fetch) = .ok w') :
    w.Costs κ 0 w' := by
  obtain ⟨pool, added, rfl⟩ := spawn_eq_ok spawned
  intro c here tidy
  have tasks := (TaskPool.spawn?_eq_some added).1
  refine ⟨c, here, tidy.spawn added, fun task work about mem => ?_, fun task work about mem => ?_, id,
    rfl, Int.le_refl _⟩
  · show (task, work) ∈ pool.tasks
    rw [tasks]
    exact List.mem_append_left _ mem
  · rw [show ({ w with pool } : Workspace A).pool.tasks = _ from tasks] at mem
    refine (List.mem_append.mp mem).resolve_right fun new => ?_
    obtain ⟨-, rfl⟩ := Prod.mk.inj (List.mem_singleton.mp new)
    cases about

/-- What costs nothing may come first. -/
lemma Costs.before (first : w.Costs κ 0 w') (second : w'.Costs κ k w'') : w.Costs κ k w'' := by
  simpa using first.trans second

/-- Making a view costs nothing as long as what is done meanwhile costs nothing. -/
lemma Costs.makes {view : A.View} (makes : w.Makes κ (Costs κ 0) view w') : w.Costs κ 0 w' := by
  obtain ⟨w₁, w₂, begun, goes, done⟩ := makes
  have making : w.Costs κ 0 w₁ := .notes begun rfl (Int.le_refl _)
  exact making.before (goes.before (.notes done rfl (Int.le_refl _)))

/-! ### The calls of a page controller -/

/-- Whatever its leeway, a call of the application costs nothing. -/
abbrev Spares (κ : Charter A) : Leeway → Workspace A → Workspace A → Prop := fun _ => Costs κ 0

section Calls

variable {b : Behaviour A} (minuted : b.Minuted κ (Spares κ))
include minuted

/-- Showing something costs nothing. -/
lemma displays_costs : b.Displays κ.index (Costs κ 0) where
  renderError list message w := by
    rcases made : b.renderError κ.index list message w with ⟨w', _ | view⟩
    · exact .aside (minuted.renderNothing list message w w' made)
    · exact .makes (minuted.renderError list message w view w' made)
  releaseView view w := by
    obtain ⟨w₁, notes, goes⟩ := minuted.releaseView view w
    exact (Costs.notes notes rfl (Int.le_refl _)).before goes
  listen event w other := by
    obtain ⟨w₁, notes, goes⟩ := minuted.listen event w
    refine (Costs.notes notes ?_ ?_).before goes
    · cases event with
      | redirected page url => exact absurd rfl (other page url)
      | _ => rfl
    · exact Int.le_refl _

omit minuted in
lemma yielding_costs : Yielding κ.index (Costs κ 0) where
  trans := Costs.before
  quiet := .quiet
  setList here same _ := .setList here same

/-- A page that is loaded has to be paid. -/
lemma costs_load (w : Workspace A) (page : Nat) : w.Costs κ 1 (w.load b κ.index page) := by
  have displays := displays_costs minuted
  have asking : ∀ {w₁ w₂ : Workspace A} {fetch list} {c : PageController A.Listing A.View},
      w.list? κ.index = some c →
      ((w.setList κ.index (c.awaiting page)).releaseView b κ.index c.view).Quiet w₁ →
      b.request κ.index list page (b.listen κ.index (.loading page) w₁) = (w₂, fetch) →
      w.Costs κ 1 w₂ := by
    intro w₁ w₂ fetch list c here quiet asks
    have awaiting : w.Costs κ 0 (w.setList κ.index (c.awaiting page)) := .setList here rfl
    have released := awaiting.before (yielding_costs.release displays _ c.view)
    have told := displays.listen (.loading page) w₁ (by simp)
    obtain ⟨w₃, notes, goes⟩ := minuted.request list page (b.listen κ.index (.loading page) w₁)
    rw [asks] at goes
    have fetched : (b.listen κ.index (.loading page) w₁).Costs κ 1 w₃ :=
      .notes notes rfl (Int.le_refl _)
    exact (released.before (.quiet quiet)).before (told.before (fetched.trans goes))
  have loads := loads b w κ.index page
  generalize w.load b κ.index page = w' at loads
  cases loads with
  | idle idle => exact (Costs.quiet (.refl w)).mono (by omega)
  | asked here alive listed quiet asks spawned =>
    exact (asking here quiet asks).trans (.spawn spawned)
  | refused here alive listed quiet asks reported =>
    exact (asking here quiet asks).trans
      ((Costs.quiet reported).before (yielding_costs.showFailure displays _ page _))

/-- So has a list that is run. -/
lemma costs_runList (w : Workspace A) (list : A.Listing) (parameters : Parameters) :
    w.Costs κ 1 (w.runList b κ.index list parameters) := by
  have runs := runs b w κ.index list parameters
  generalize w.runList b κ.index list parameters = w' at runs
  cases runs with
  | idle quiet => exact (Costs.quiet quiet).mono (by omega)
  | loaded page here alive =>
    refine .before ?_ (costs_load minuted _ page)
    exact .setList here rfl

/-- So has a page that is changed. -/
lemma costs_changePage (w : Workspace A) (page : Nat) :
    w.Costs κ 1 (w.changePage b κ.index page) := by
  have changes := changes b w κ.index page
  generalize w.changePage b κ.index page = w' at changes
  cases changes with
  | idle quiet => exact (Costs.quiet quiet).mono (by omega)
  | loaded page quiet here =>
    refine (Costs.quiet quiet).before (.before ?_ (costs_load minuted _ page))
    exact .setList ((quiet.list? κ.index).trans here) rfl
  | pushed quiet spawned =>
    exact ((Costs.quiet quiet).before (.aside (.spawn rfl spawned))).mono (by omega)

end Calls

/-- What is customary costs nothing, since calls pay for themselves. -/
theorem customs_costs : Customs κ (Spares κ) where
  trans := Costs.before
  aside := .aside
  runList minuted _ _ _ _ notes list parameters := by
    have called : Costs κ (-1) _ _ := .notes notes rfl (Int.le_refl _)
    exact called.trans (costs_runList minuted _ list parameters)
  changePage minuted _ _ _ _ notes page := by
    have called : Costs κ (-1) _ _ := .notes notes rfl (Int.le_refl _)
    exact called.trans (costs_changePage minuted _ page)
  closeList minuted _ _ w := yielding_costs.closeList (displays_costs minuted) w
  showFailure minuted w page message :=
    yielding_costs.showFailure (displays_costs minuted) w page message

/-! ### Answers -/

variable {r : Reactions A}

/-- A page controller that is redirected pays with its mark. -/
lemma Bill.redirect (minuted : r.Minuted κ (Spares κ)) (here : w.list? κ.index = some c)
    (tidy : w.pool.Tidy) (unmarked : c.redirected = false) (page : Nat) (url : String)
    (records : List LogRecord) :
    ∃ c', w.Bill κ (-1) (r.listen κ.index (.redirected page url)
      ((w.setList κ.index { c with redirected := true }).report records)) c c' ∧
      c'.redirected = true := by
  obtain ⟨w₁, notes, goes⟩ := minuted.lists.listen (.redirected page url)
    ((w.setList κ.index { c with redirected := true }).report records)
  have here' : ((w.setList κ.index { c with redirected := true }).report records).list? κ.index =
      some { c with redirected := true } := list?_setList_self here
  -- The mark is set and the redirection told before anybody can do anything else.
  have marked : w.Bill κ (-1) w₁ c { c with redirected := true } :=
    .of_notes tidy here' rfl rfl notes (fun _ => rfl) (by simp [mark, unmarked, Minute.isRedirect])
      (by simp [mark, unmarked, Minute.isFetch, Minute.isCall])
  obtain ⟨c', bill⟩ := goes _ marked.here marked.tidy
  exact ⟨c', marked.trans bill, bill.final rfl⟩

/-- The answer to a request costs nothing, and if the navigator is to be sent to the last page there is
something left for that. -/
lemma bill_complete (minuted : r.Minuted κ (Spares κ)) (here : w.list? κ.index = some c)
    (tidy : w.pool.Tidy) (s page : Nat) (answer : Except FetchError PageResult)
    {sent : Option (String × Nat)}
    (completed : w.complete r.toBehaviour r.render κ.index s page answer = (w', sent)) :
    (sent = none ∧ ∃ c', w.Bill κ 0 w' c c') ∨
      c.redirected = false ∧ ∃ c', w.Bill κ (-1) w' c c' ∧ c'.redirected = true := by
  have displays := displays_costs minuted.lists
  have plain : w.Costs κ 0 w' → ∃ c', w.Bill κ 0 w' c c' := fun costs => costs c here tidy
  have completes : Completes r w κ.index s page c answer _ := completes here answer
  rw [completed] at completes
  cases completes with
  | stale records stale => exact .inl ⟨rfl, plain (.quiet ⟨rfl, rfl, rfl⟩)⟩
  | unlisted counts listed => exact .inl ⟨rfl, plain (.quiet (.refl w))⟩
  | failed counts => exact .inl ⟨rfl, plain (yielding_costs.showFailure displays w page _)⟩
  | redirected list records counts listed past told reaches =>
    obtain rfl := told
    exact .inr ⟨past.2.2, Bill.redirect minuted here tidy past.2.2 page _ records⟩
  | reloaded list records counts listed past told =>
    obtain rfl := told
    obtain ⟨c', bill, -⟩ := Bill.redirect minuted here tidy past.2.2 page _ records
    obtain ⟨c'', loaded⟩ := costs_load minuted.lists _ _ c' bill.here bill.tidy
    exact .inl ⟨rfl, c'', bill.trans loaded⟩
  | shown list counts listed current total =>
    have rendered := fun list context w => Costs.makes (minuted.render list context w)
    exact .inl ⟨rfl, plain (yielding_costs.showPage displays rendered here s list _)⟩

/-! ### The account at a moment -/

/-- The account of a page controller: requests, and tasks that may have to load the last page, are paid by
calls of the controller from within, by its mark, and by a budget. -/
structure Thrifty (κ : Charter A) (w : Workspace A) (budget : Int)
    (c : PageController A.Listing A.View) : Prop where
  here : w.list? κ.index = some c
  tidy : w.pool.Tidy
  told : (κ.minutes w.state).countP Minute.isRedirect = mark c
  spent : ((κ.minutes w.state).countP Minute.isFetch : Int) + w.pool.reloads κ.index ≤
    (κ.minutes w.state).countP Minute.isCall + mark c + budget

variable {budget budget' : Int} {task : Nat}

lemma Thrifty.bill (thrifty : w.Thrifty κ budget c) (bill : w.Bill κ k w' c c') :
    w'.Thrifty κ (budget + k) c' where
  here := bill.here
  tidy := bill.tidy
  told := by
    have := thrifty.told
    have := bill.told
    omega
  spent := by
    have := thrifty.spent
    have := bill.spent
    have := TaskPool.reloads_eq κ.index thrifty.tidy bill.tidy fun task work about =>
      ⟨bill.same task work about, bill.kept task work (Work.isAbout_of_reloads about)⟩
    omega

lemma Thrifty.costs (thrifty : w.Thrifty κ budget c) (costs : w.Costs κ k w') :
    ∃ c', w'.Thrifty κ (budget + k) c' ∧ (c.redirected = true → c'.redirected = true) := by
  obtain ⟨c', bill⟩ := costs c thrifty.here thrifty.tidy
  exact ⟨c', thrifty.bill bill, bill.final⟩

/-- What costs nothing leaves the account as it is. -/
lemma Thrifty.spare (thrifty : w.Thrifty κ budget c) (costs : w.Costs κ 0 w') :
    ∃ c', w'.Thrifty κ budget c' ∧ w.Bill κ 0 w' c c' := by
  obtain ⟨c', bill⟩ := costs c thrifty.here thrifty.tidy
  exact ⟨c', by simpa using thrifty.bill bill, bill⟩

lemma Thrifty.mono (thrifty : w.Thrifty κ budget c) (le : budget ≤ budget') :
    w.Thrifty κ budget' c :=
  { thrifty with spent := by have := thrifty.spent; omega }

/-- The tasks change, and nothing else. -/
lemma Thrifty.pool {pool : TaskPool} (thrifty : w.Thrifty κ budget c) (tidy : pool.Tidy)
    (reloads : (pool.reloads κ.index : Int) + budget ≤ w.pool.reloads κ.index + budget') :
    ({ w with pool } : Workspace A).Thrifty κ budget' c where
  here := thrifty.here
  tidy := tidy
  told := thrifty.told
  spent := by
    have := thrifty.spent
    dsimp only
    omega

/-- A task that ends takes nothing with it. -/
lemma Thrifty.remove (thrifty : w.Thrifty κ budget c) (task : Nat) :
    ({ w with pool := w.pool.remove task } : Workspace A).Thrifty κ budget c := by
  have le := TaskPool.reloads_remove_le κ.index w.pool task
  exact thrifty.pool thrifty.tidy.remove (by omega)

/-! ### Turns -/

section Turns

variable (candid : r.Candid κ)
include candid

/-- A task that has run a navigation ends or waits; a page that it loads then is paid by its end. -/
lemma Thrifty.settle {done : Workspace A × Option Outcome} (thrifty : done.1.Thrifty κ budget c)
    (task : Nat) (sequel : Sequel)
    (mem : (Work.navigate sequel).reloads κ.index = true →
      (task, .navigate sequel) ∈ done.1.pool.tasks) :
    ∃ c', (Workspace.settle r task sequel done).Thrifty κ budget c' ∧
      (c.redirected = true → c'.redirected = true) := by
  have minuted := (candid _ customs_costs).lists
  obtain ⟨w, _ | outcome⟩ := done
  · exact ⟨c, thrifty, id⟩
  · have free : w.Costs κ 0 (w.conclude r outcome sequel) →
        ∃ c', (Workspace.settle r task sequel (w, some outcome)).Thrifty κ budget c' ∧
          (c.redirected = true → c'.redirected = true) := by
      intro costs
      obtain ⟨c', thrifty', bill⟩ := thrifty.spare costs
      exact ⟨c', thrifty'.remove task, bill.final⟩
    rcases conclude_cases w outcome sequel with quiet | ⟨i, page, w₁, rfl, quiet, same⟩
    · exact free (.quiet quiet)
    · by_cases own : i = κ.index
      · subst own
        have costs : w.Costs κ 1 (w.conclude r outcome (.reload κ.index page)) := by
          rw [same]
          exact (Costs.quiet quiet).before (costs_load minuted w₁ page)
        obtain ⟨c', bill⟩ := costs c thrifty.here thrifty.tidy
        have about : (Work.navigate (.reload κ.index page)).reloads κ.index = true := by
          simp [Work.reloads]
        -- The page that was loaded is paid by the task, which is still there.
        have there := bill.kept task _ (Work.isAbout_of_reloads about) (mem about)
        have ends := TaskPool.reloads_remove κ.index bill.tidy there
        rw [about, Bool.toNat_true] at ends
        refine ⟨c', ?_, bill.final⟩
        exact (thrifty.bill bill).pool bill.tidy.remove (by omega)
      · refine free ?_
        rw [same]
        exact (Costs.quiet quiet).before
          ((customs_costs.pliable own).load (minuted.elsewhere i own) w₁ page)

/-- A task that runs a navigation may have to load the last page afterwards. -/
lemma Thrifty.navigateIn (thrifty : w.Thrifty κ budget c) (fuel task : Nat) (kind : Kind)
    (url : String) (sequel : Sequel)
    (mem : (Work.navigate sequel).reloads κ.index = true → ∃ work, (task, work) ∈ w.pool.tasks) :
    ∃ c', (w.navigateIn r fuel task kind url sequel).Thrifty κ
      (budget + ((Work.navigate sequel).reloads κ.index).toNat) c' ∧
      (c.redirected = true → c'.redirected = true) := by
  let w₁ : Workspace A := { w with pool := w.pool.set task (.navigate sequel) }
  have le : (w.pool.set task (.navigate sequel)).reloads κ.index ≤
      w.pool.reloads κ.index + ((Work.navigate sequel).reloads κ.index).toNat := by
    rcases about : (Work.navigate sequel).reloads κ.index with _ | _
    · exact TaskPool.reloads_set_le κ.index w.pool task about
    · obtain ⟨work, mem⟩ := mem about
      rw [← about]
      exact TaskPool.reloads_set κ.index thrifty.tidy mem _
  have set : w₁.Thrifty κ (budget + ((Work.navigate sequel).reloads κ.index).toNat) c :=
    thrifty.pool thrifty.tidy.set (by omega)
  have ran : w₁.Costs κ 0 (w₁.navigate r fuel kind url).1 :=
    (customs_costs.serves (candid _ customs_costs)).navigate fuel w₁ kind url
  obtain ⟨c₁, thrifty₁, bill⟩ := set.spare ran
  obtain ⟨c₂, thrifty₂, final⟩ := thrifty₁.settle candid task sequel
    fun about => by
      obtain ⟨work, mem⟩ := mem about
      exact bill.kept task _ (Work.isAbout_of_reloads about)
        (List.mem_map.mpr ⟨(task, work), mem, if_pos rfl⟩)
  exact ⟨c₂, thrifty₂, final ∘ bill.final⟩

/-- The navigator is sent to the last page. The mark pays for that, and it was not set before. -/
lemma Thrifty.sent {s page fetch last : Nat} {url : String} {answer : Except FetchError PageResult}
    (thrifty : w.Thrifty κ budget c) (fuel : Nat)
    (mem : (task, .load κ.index s page fetch) ∈ w.pool.tasks)
    (completed : w.complete r.toBehaviour r.render κ.index s page answer = (w', some (url, last))) :
    c.redirected = false ∧
      ∃ c', (w'.navigateIn r fuel task .replace url (.reload κ.index last)).Thrifty κ budget c' ∧
        c'.redirected = true := by
  rcases bill_complete (candid _ customs_costs) thrifty.here thrifty.tidy s page answer completed with
    ⟨none, -⟩ | ⟨unmarked, c₁, bill, marked⟩
  · cases none
  -- The answer was taken by a task about the controller, so the task is still there.
  · have there := bill.kept task _ (by simp [Work.isAbout]) mem
    obtain ⟨c₂, thrifty₂, final⟩ := (thrifty.bill bill).navigateIn candid fuel task .replace url
      (.reload κ.index last) fun _ => ⟨_, there⟩
    have charged : ((Work.navigate (.reload κ.index last)).reloads κ.index).toNat = 1 := by
      simp [Work.reloads]
    exact ⟨unmarked, c₂, thrifty₂.mono (by omega), final marked⟩

/-- The turn of a task is free. -/
lemma Thrifty.poll (thrifty : w.Thrifty κ budget c) (fuel task : Nat) :
    ∃ c', (w.poll r fuel task).Thrifty κ budget c' ∧
      (c.redirected = true → c'.redirected = true) := by
  have minuted := candid _ customs_costs
  have polls := polls r fuel task w
  generalize w.poll r fuel task = w' at polls
  cases polls with
  | idle => exact ⟨c, thrifty, id⟩
  | finished quiet =>
    obtain ⟨c', thrifty', bill⟩ := thrifty.spare (.quiet quiet)
    exact ⟨c', thrifty'.remove task, bill.final⟩
  | @starts work kind url sequel found plain =>
    have other : (Work.navigate sequel).reloads κ.index = false := by
      cases sequel with
      | reload i page => exact absurd rfl (plain i page)
      | _ => rfl
    obtain ⟨c', thrifty', final⟩ := thrifty.navigateIn candid fuel task kind url sequel
      fun _ => ⟨_, found⟩
    exact ⟨c', thrifty'.mono (by simp [other]), final⟩
  | @resumed sequel found =>
    have ran : w.Costs κ 0 (w.resume r fuel).1 := (customs_costs.serves minuted).goOn fuel w
    obtain ⟨c₁, thrifty₁, bill⟩ := thrifty.spare ran
    obtain ⟨c₂, thrifty₂, final⟩ := thrifty₁.settle candid task sequel
      fun about => bill.kept task _ (Work.isAbout_of_reloads about) found
    exact ⟨c₂, thrifty₂, final ∘ bill.final⟩
  | @answered _ i s page fetch answer found answered handles =>
    have taken : (w.takeAnswer fetch).Thrifty κ budget c :=
      ⟨thrifty.here, thrifty.tidy, thrifty.told, thrifty.spent⟩
    by_cases own : i = κ.index
    · subst own
      cases handles with
      | gone dead => exact ⟨c, taken.remove task, id⟩
      | @done w' sent alive completed ends =>
        obtain ⟨c', thrifty', final⟩ : ∃ c', w'.Thrifty κ budget c' ∧
            (c.redirected = true → c'.redirected = true) := by
          rcases bill_complete minuted taken.here taken.tidy s page answer completed with
            ⟨-, c', bill⟩ | ⟨-, c', bill, -⟩
          · exact ⟨c', (taken.bill bill).mono (by omega), bill.final⟩
          · exact ⟨c', (taken.bill bill).mono (by omega), bill.final⟩
        exact ⟨c', thrifty'.remove task, final⟩
      | sent alive completed =>
        obtain ⟨unmarked, c', thrifty', marked⟩ :=
          taken.sent candid fuel (TaskPool.mem_of_lookup found) completed
        exact ⟨c', thrifty', fun _ => marked⟩
    · have completed : (w.takeAnswer fetch).Costs κ 0
          ((w.takeAnswer fetch).complete r.toBehaviour r.render i s page answer).1 :=
        (customs_costs.pliable own).complete (minuted.lists.elsewhere i own)
          (minuted.renderElsewhere i own) _ s page answer
      obtain ⟨c', thrifty', bill⟩ := taken.spare completed
      cases handles with
      | gone dead => exact ⟨c, taken.remove task, id⟩
      | done alive completes ends =>
        rw [completes] at thrifty'
        exact ⟨c', thrifty'.remove task, bill.final⟩
      | @sent w' url last alive completes =>
        rw [completes] at thrifty'
        have other : (Work.navigate (.reload i last)).reloads κ.index = false := by
          simpa [Work.reloads] using own
        obtain ⟨c'', thrifty'', final'⟩ := thrifty'.navigateIn candid fuel task .replace url
          (.reload i last)
          fun about => absurd (other.symm.trans about) nofun
        exact ⟨c'', thrifty''.mono (by simp [other]), final' ∘ bill.final⟩

/-- A turn that calls the controller from outside adds to the budget. -/
theorem Thrifty.turn (thrifty : w.Thrifty κ budget c) {u : Turn A} (polite : u.Candid κ) :
    ∃ c', (w.turn r u).Thrifty κ (budget + (u.calls κ.index).toNat) c' ∧
      (c.redirected = true → c'.redirected = true) := by
  have minuted := candid _ customs_costs
  have paid : ∀ {w'}, u.calls κ.index = true → w.Costs κ 1 w' →
      ∃ c', w'.Thrifty κ (budget + (u.calls κ.index).toNat) c' ∧
        (c.redirected = true → c'.redirected = true) := by
    intro w' calls costs
    rw [calls]
    exact thrifty.costs costs
  rcases customs_costs.turn_cases minuted w polite with
    costs | ⟨list, parameters, rfl⟩ | ⟨page, rfl⟩ | ⟨fuel, task, rfl⟩ | rfl
  · exact thrifty.costs (costs.mono (by omega))
  · exact paid (by simp [Turn.calls]) (costs_runList minuted.lists w list parameters)
  · exact paid (by simp [Turn.calls]) (costs_changePage minuted.lists w page)
  · obtain ⟨c', thrifty', final⟩ := thrifty.poll candid fuel task
    exact ⟨c', thrifty'.mono (by omega), final⟩
  · have none : (w.pool.close.reloads κ.index : Int) = 0 := rfl
    have closed : w.closePool.Thrifty κ budget c := ⟨thrifty.here, ⟨nofun, .nil⟩, thrifty.told, by
      have := thrifty.spent
      simp only [closePool, none]
      omega⟩
    exact ⟨c, closed.mono (by omega), id⟩

/-- The account in the course of a run. -/
theorem Thrifty.after (thrifty : w.Thrifty κ budget c) (turns : List (Turn A))
    (polite : ∀ u ∈ turns, u.Candid κ) :
    ∃ c', (w.after r turns).Thrifty κ (budget + turns.countP (·.calls κ.index)) c' ∧
      (c.redirected = true → c'.redirected = true) := by
  induction turns generalizing w c budget with
  | nil => exact ⟨c, thrifty.mono (by simp), id⟩
  | cons u rest ih =>
    obtain ⟨c₁, thrifty₁, final⟩ := thrifty.turn candid (polite u (.head _))
    obtain ⟨c₂, thrifty₂, final'⟩ := ih thrifty₁ fun v mem => polite v (.tail _ mem)
    refine ⟨c₂, thrifty₂.mono ?_, final' ∘ final⟩
    rw [List.countP_cons]
    cases u.calls κ.index <;> simp +arith

omit candid

/-- In a turn the navigator is sent to the last page for a page controller: a task takes the answer to a
request, which says that the page is past the last one, and the navigator is to go to a URL instead. -/
def Sends (r : Reactions A) (w : Workspace A) (index : Nat) (u : Turn A) (url : String) : Prop :=
  ∃ fuel task s page fetch answer w' last, u = .task fuel task ∧
    w.pool.tasks.lookup task = some (.load index s page fetch) ∧
    w.answers.lookup fetch = some answer ∧ (w.takeAnswer fetch).listAlive index = true ∧
    (w.takeAnswer fetch).complete r.toBehaviour r.render index s page answer =
      (w', some (url, last))

/-- Then the task runs the navigation. -/
lemma poll_sends {index s page fetch last : Nat} {url : String}
    {answer : Except FetchError PageResult}
    (found : w.pool.tasks.lookup task = some (.load index s page fetch))
    (answered : w.answers.lookup fetch = some answer)
    (alive : (w.takeAnswer fetch).listAlive index = true)
    (completed : (w.takeAnswer fetch).complete r.toBehaviour r.render index s page answer =
      (w', some (url, last))) :
    w.poll r fuel task = w'.navigateIn r fuel task .replace url (.reload index last) := by
  have handles : Handles r fuel task (w.takeAnswer fetch) index s page answer (w.poll r fuel task) :=
    poll_load found answered
  generalize w.poll r fuel task = w'' at handles
  cases handles with
  | gone dead => cases dead.symm.trans alive
  | done alive' completed' ends =>
    obtain ⟨rfl, rfl⟩ := Prod.mk.inj (completed'.symm.trans completed)
    rcases ends with none | dead
    · cases none
    · rcases here : (w.takeAnswer fetch).list? index with _ | c
      · unfold complete at completed
        rw [here] at completed
        cases completed
      · have completes : Completes r (w.takeAnswer fetch) index s page c answer _ :=
          completes here answer
        rw [completed] at completes
        cases dead.symm.trans (completes.navigatorAlive rfl)
  | sent alive' completed' =>
    obtain ⟨rfl, same⟩ := Prod.mk.inj (completed'.symm.trans completed)
    obtain ⟨rfl, rfl⟩ := Prod.mk.inj (Option.some.inj same)
    rfl

include candid in
/-- The navigator is only sent to the last page while the mark is not set, and it is set then. -/
lemma Thrifty.sends (thrifty : w.Thrifty κ budget c) {u : Turn A} {url : String}
    (sends : w.Sends r κ.index u url) :
    c.redirected = false ∧ ∃ c', (w.turn r u).Thrifty κ budget c' ∧ c'.redirected = true := by
  obtain ⟨fuel, task, s, page, fetch, answer, w', last, rfl, found, answered, alive, completed⟩ := sends
  have taken : (w.takeAnswer fetch).Thrifty κ budget c :=
    ⟨thrifty.here, thrifty.tidy, thrifty.told, thrifty.spent⟩
  rw [Workspace.turn, poll_sends found answered alive completed]
  exact taken.sent candid fuel (TaskPool.mem_of_lookup found) completed

end Turns

/-! ### Results -/

variable {turns : List (Turn A)}

/-- A page controller that nobody has used owes nothing. -/
lemma Unused.thrifty (unused : w.Unused κ.index) (blank : κ.minutes w.state = []) :
    ∃ c, w.Thrifty κ 0 c := by
  obtain ⟨pageKey, made⟩ := unused.made
  have none : w.pool.reloads κ.index = 0 := by
    refine List.countP_eq_zero.mpr fun e mem reloads => ?_
    cases (Work.isAbout_of_reloads reloads).symm.trans (unused.idle e mem)
  exact ⟨{ pageKey }, made, unused.tidy, by simp [blank, mark], by simp [blank, none, mark]⟩

/-- A page controller asks for pages by itself once at most. Let an application drive it in any way: lists
are run, pages are changed, errors are shown and it is ended, answers with any number of pages arrive and
are taken in any order, the navigator has whatever outcome, and whatever is called meanwhile may do all
this in its turn. Then it is redirected at most once; the navigator is sent to the last page at most once;
and there is at most one request more than there were calls to run a list or to change the page, from
within and from outside. -/
theorem reloading_bounded (candid : r.Candid κ) (unused : w.Unused κ.index)
    (blank : κ.minutes w.state = []) (polite : ∀ u ∈ turns, u.Candid κ) :
    let minutes := κ.minutes (w.after r turns).state
    minutes.countP Minute.isRedirect ≤ 1 ∧
      (∀ before u middle v behind url url', turns = before ++ u :: (middle ++ v :: behind) →
        (w.after r before).Sends r κ.index u url →
        ¬ (w.after r (before ++ u :: middle)).Sends r κ.index v url') ∧
      minutes.countP Minute.isFetch ≤
        minutes.countP Minute.isCall + turns.countP (·.calls κ.index) + 1 := by
  dsimp only
  obtain ⟨c₀, thrifty₀⟩ := unused.thrifty blank
  obtain ⟨c, thrifty, -⟩ := thrifty₀.after candid turns polite
  have mark_le : mark c ≤ 1 := Bool.toNat_le _
  refine ⟨Nat.le_trans (Nat.le_of_eq thrifty.told) mark_le, ?_, ?_⟩
  · rintro before u middle v behind url url' rfl sends again
    obtain ⟨c₁, thrifty₁, -⟩ := thrifty₀.after candid before fun x mem =>
      polite x (by simp [mem])
    obtain ⟨-, c₂, thrifty₂, marked⟩ := thrifty₁.sends candid sends
    obtain ⟨c₃, thrifty₃, final⟩ := thrifty₂.after candid middle fun x mem =>
      polite x (by simp [mem])
    -- Between the two turns the mark stays.
    rw [after_append] at again
    cases (thrifty₃.sends candid again).1.symm.trans (final marked)
  · have := thrifty.spent
    omega

/-- A list shrinks with every answer. The controller asks for its tenth page, the navigator is sent to the
third one and has no such route, so that one is asked for; of a list of two pages the last one is shown. -/
theorem reloading_bounded_shrinking :
    let κ : Charter Diary.application :=
      { index := 0, minutes := id, render := .everything, failure := .everything,
        release := .everything }
    let answer (total : Nat) : Except FetchError PageResult :=
      .ok { items := [], totalPages := total, claimedPage := 1 }
    let before : List (Turn Diary.application) :=
      [.run 0 (none : Option Nat) (Parameters.empty.insert "page" "10"), .deliver 0 (answer 3)]
    let behind : List (Turn Diary.application) := [.deliver 1 (answer 2), .task 5 1]
    let turns := before ++ .task 5 0 :: behind
    let minutes := κ.minutes ((Diary.desk true {}).after Diary.reactions turns).state
    ((Diary.desk true {}).after Diary.reactions before).Sends Diary.reactions 0 (.task 5 0) "/3" ∧
      minutes.countP Minute.isFetch = 2 ∧ minutes.countP Minute.isRedirect ≤ 1 ∧
      minutes.countP Minute.isFetch ≤
        minutes.countP Minute.isCall + turns.countP (·.calls κ.index) + 1 := by
  intro κ answer before behind turns minutes
  have unused : (Diary.desk true {}).Unused 0 := ⟨⟨"page", rfl⟩, nofun, nofun, .nil⟩
  obtain ⟨redirects, -, fetches⟩ := reloading_bounded (κ := κ)
    (Diary.candid_reactions rfl rfl nofun) unused rfl
    (show ∀ u ∈ turns, u.Candid κ by simp [turns, before, behind, Turn.Candid])
  refine ⟨⟨5, 0, 1, 10, 0, answer 3, _, 3, rfl, by decide, rfl, by decide, Prod.ext rfl ?_⟩, by decide,
    redirects, fetches⟩
  decide

end Workspace

end Wayfinder
