/-
How a page controller goes on.

Whatever an application does to a page controller in its calls, however deep they are nested, it only
goes on: its number never falls, every request that is made has a number above the numbers before it,
and the status after it is the status before it or is backed by what has happened since
(`Workspace.Backed`): a page is loading because the request with the latest number is on its way, or it
is ready because the answer with that number was taken. This is customary in the sense of `Customary`,
so it holds of courteous applications and of all that the navigator does with them.

* `Workspace.Follows`: the controller, its requests and its tasks, apart from its status.
* `Workspace.Backed`: what a new status rests on.
* `customary_goes`: going on is customary.
* `load_renews`, `showFailure_renews`: a page that begins to load, and a failure that is shown.
-/
import Wayfinder.Proofs.Courtesy

namespace Wayfinder

variable {A : Application}

namespace Workspace

/-- What becomes of a page controller and its tasks, except for those that are spent. -/
structure Follows (index : Nat) (spent : List Nat) (w w' : Workspace A)
    (c c' : PageController A.Listing A.View) : Prop where
  /-- The controller is still there. -/
  here : w'.list? index = some c'
  /-- Numbers of requests never fall. -/
  sequence : c.sequence ≤ c'.sequence
  /-- A list is kept to the end. -/
  listed : c.list.isSome = true → c'.list.isSome = true ∨ c'.status = .disposed
  /-- The end is final. -/
  disposed : c.status = .disposed → c'.status = .disposed
  /-- Numbers of tasks never fall. -/
  next : w.pool.next ≤ w'.pool.next
  /-- The tasks are tidy. -/
  tidy : w'.pool.Tidy
  /-- Its tasks go on. -/
  kept : ∀ {task work}, (task, work) ∈ w.pool.tasks → work.isAbout index = true → task ∉ spent →
    (task, work) ∈ w'.pool.tasks
  /-- New requests have new numbers. -/
  fresh : ∀ {task s page fetch}, (task, .load index s page fetch) ∈ w'.pool.tasks →
    (task, .load index s page fetch) ∈ w.pool.tasks ∨
      w.pool.next ≤ task ∧ c.sequence < s ∧ s ≤ c'.sequence
  /-- No two new requests have the same number. -/
  single : ∀ {task task' s page page' fetch fetch'}, w.pool.next ≤ task → w.pool.next ≤ task' →
    (task, .load index s page fetch) ∈ w'.pool.tasks →
    (task', .load index s page' fetch') ∈ w'.pool.tasks → page = page' ∧ fetch = fetch'

/-- What a status rests on that came about since the numbers were `n` for requests and `next` for tasks,
and these answers were taken. -/
inductive Backed (index n next : Nat) (answered : Nat → Nat → PageResult → Prop) (w : Workspace A)
    (c : PageController A.Listing A.View) : Prop
  /-- The latest request is on its way. -/
  | loading {page task fetch : Nat} (status : c.status = .loading page)
      (listed : c.list.isSome = true) (newer : n < c.sequence) (since : next ≤ task)
      (outstanding : (task, .load index c.sequence page fetch) ∈ w.pool.tasks)
  /-- The answer to the latest request was taken. -/
  | ready {page : Nat} {result : PageResult} (taken : answered c.sequence page result)
      (status : c.status =
        .ready (PageController.clampPage page result.totalPages) result.totalPages)
  /-- A failure was to be shown. -/
  | failed {message : String} (status : c.status = .failed message)
  /-- The controller was to end. -/
  | disposed (status : c.status = .disposed) (newer : n < c.sequence)

/-- A page controller that has neither asked for a page nor changed its status. -/
def Stays (c c' : PageController A.Listing A.View) : Prop :=
  c'.status = c.status ∧ c'.sequence = c.sequence

/-- A page controller goes on: its status stays, or it is backed by what has happened. -/
def Onward (index : Nat) (spent : List Nat) (answered : Nat → Nat → PageResult → Prop)
    (w w' : Workspace A) (c : PageController A.Listing A.View) : Prop :=
  ∃ c', w.Follows index spent w' c c' ∧
    (Stays c c' ∨ w'.Backed index c.sequence w.pool.next answered c')

/-- A page controller comes to a new status. -/
def Renews (index : Nat) (answered : Nat → Nat → PageResult → Prop) (w w' : Workspace A)
    (c : PageController A.Listing A.View) : Prop :=
  ∃ c', w.Follows index [] w' c c' ∧ w'.Backed index c.sequence w.pool.next answered c'

/-- No answer. -/
abbrev noAnswer : Nat → Nat → PageResult → Prop := fun _ _ _ => False

/-- A page controller goes on, where there is one, without an answer and with all its tasks. -/
def Goes (index : Nat) (w w' : Workspace A) : Prop :=
  ∀ c, w.list? index = some c → w.pool.Tidy → w.Onward index [] noAnswer w' c

/-! ### One after the other -/

variable {index n next : Nat} {spent : List Nat} {answered : Nat → Nat → PageResult → Prop}
  {w w' w'' : Workspace A} {c c' c'' : PageController A.Listing A.View}

lemma Follows.refl (here : w.list? index = some c) (tidy : w.pool.Tidy) :
    w.Follows index spent w c c where
  here := here
  sequence := Nat.le_refl _
  listed := .inl
  disposed := id
  next := Nat.le_refl _
  tidy := tidy
  kept mem _ _ := mem
  fresh := .inl
  single old _ mem _ := absurd (tidy.below _ mem) (Nat.not_lt.mpr old)

lemma Follows.trans (tidy : w.pool.Tidy) (first : w.Follows index spent w' c c')
    (second : w'.Follows index spent w'' c' c'') : w.Follows index spent w'' c c'' where
  here := second.here
  sequence := Nat.le_trans first.sequence second.sequence
  listed h := by
    rcases first.listed h with h | h
    · exact second.listed h
    · exact .inr (second.disposed h)
  disposed h := second.disposed (first.disposed h)
  next := Nat.le_trans first.next second.next
  tidy := second.tidy
  kept mem about unspent := second.kept (first.kept mem about unspent) about unspent
  fresh mem := by
    have le := first.sequence
    have le' := second.sequence
    have tasks := first.next
    rcases second.fresh mem with mem | ⟨since, newer, last⟩
    · rcases first.fresh mem with mem | ⟨since, newer, last⟩
      · exact .inl mem
      · exact .inr ⟨since, newer, by omega⟩
    · exact .inr ⟨by omega, by omega, by omega⟩
  single {task task' s page page' fetch fetch'} since since' mem mem' := by
    -- A request that was there halfway has a number that was given out by then.
    have halfway : ∀ {task s page fetch}, w.pool.next ≤ task →
        (task, .load index s page fetch) ∈ w'.pool.tasks → s ≤ c'.sequence := by
      intro task s page fetch since mem
      rcases first.fresh mem with mem | ⟨-, -, last⟩
      · exact absurd (tidy.below _ mem) (Nat.not_lt.mpr since)
      · exact last
    rcases second.fresh mem with old | ⟨new, newer, -⟩ <;>
      rcases second.fresh mem' with old' | ⟨new', newer', -⟩
    · exact first.single since since' old old'
    · exact absurd (halfway since old) (Nat.not_le.mpr newer')
    · exact absurd (halfway since' old') (Nat.not_le.mpr newer)
    · exact second.single new new' mem mem'

/-- What has happened since has also happened since an earlier moment. -/
lemma Backed.since {n' next' : Nat} {answered' : Nat → Nat → PageResult → Prop} (number : n' ≤ n)
    (task : next' ≤ next) (answers : ∀ s page result, answered s page result → answered' s page result)
    (backed : w.Backed index n next answered c) : w.Backed index n' next' answered' c := by
  cases backed with
  | loading status listed newer since outstanding =>
    exact .loading status listed (by omega) (by omega) outstanding
  | ready taken status => exact .ready (answers _ _ _ taken) status
  | failed status => exact .failed status
  | disposed status newer => exact .disposed status (by omega)

/-- What a status rests on is not lost by tasks that are added. -/
lemma Backed.add (backed : w.Backed index n next answered c)
    (tasks : w.pool.tasks ⊆ w'.pool.tasks) : w'.Backed index n next answered c := by
  cases backed with
  | loading status listed newer since outstanding =>
    exact .loading status listed newer since (tasks outstanding)
  | ready taken status => exact .ready taken status
  | failed status => exact .failed status
  | disposed status newer => exact .disposed status newer

/-- What a status rests on stays while the status stays. -/
lemma Backed.stay (backed : w.Backed index n next answered c)
    (follows : w.Follows index spent w' c c') (stays : Stays c c') (old : ∀ t ∈ spent, t < next) :
    w'.Backed index n next answered c' := by
  obtain ⟨same, number⟩ := stays
  cases backed with
  | loading status listed newer since outstanding =>
    -- The request has a new task, and only old ones are spent.
    have unspent := fun mem => Nat.not_lt.mpr since (old _ mem)
    have listed : c'.list.isSome = true := by
      refine (follows.listed listed).resolve_right fun disposed => ?_
      rw [same, status] at disposed
      cases disposed
    have outstanding := follows.kept outstanding (by simp [Work.isAbout]) unspent
    rw [← number] at outstanding
    exact .loading (same.trans status) listed (by omega) since outstanding
  | ready taken status => exact .ready (by rwa [number]) (same.trans status)
  | failed status => exact .failed (same.trans status)
  | disposed status newer => exact .disposed (same.trans status) (by omega)

lemma Onward.trans (tidy : w.pool.Tidy) (old : ∀ t ∈ spent, t < w.pool.next)
    (first : w.Onward index spent answered w' c)
    (second : ∀ {c'}, w.Follows index spent w' c c' → w'.Onward index spent answered w'' c') :
    w.Onward index spent answered w'' c := by
  obtain ⟨c', follows, status⟩ := first
  obtain ⟨c'', follows', status'⟩ := second follows
  refine ⟨c'', follows.trans tidy follows', ?_⟩
  rcases status' with stays' | backed'
  · rcases status with stays | backed
    · exact .inl ⟨stays'.1.trans stays.1, stays'.2.trans stays.2⟩
    · exact .inr (backed.stay follows' stays' old)
  · exact .inr (backed'.since follows.sequence follows.next fun _ _ _ => id)

/-- More tasks may be spent, and more answers taken. -/
lemma Onward.widen {spent' : List Nat} {answered' : Nat → Nat → PageResult → Prop}
    (onward : w.Onward index spent answered w' c) (more : spent ⊆ spent')
    (answers : ∀ s page result, answered s page result → answered' s page result) :
    w.Onward index spent' answered' w' c := by
  obtain ⟨c', follows, status⟩ := onward
  exact ⟨c', { follows with kept := fun mem about unspent => follows.kept mem about (unspent ∘ @more _) },
    status.imp_right (·.since (Nat.le_refl _) (Nat.le_refl _) answers)⟩

lemma Onward.unanswered (onward : w.Onward index spent noAnswer w' c) :
    w.Onward index spent answered w' c :=
  onward.widen (List.Subset.refl _) nofun

/-- A page controller that goes on with all its tasks and without an answer goes on. -/
lemma Onward.plain (onward : w.Onward index [] noAnswer w' c) : w.Onward index spent answered w' c :=
  onward.widen (List.nil_subset _) nofun

lemma Renews.onward (renews : w.Renews index answered w' c) : w.Onward index [] answered w' c := by
  obtain ⟨c', follows, backed⟩ := renews
  exact ⟨c', follows, .inr backed⟩

lemma Renews.plain (renews : w.Renews index noAnswer w' c) : w.Renews index answered w' c := by
  obtain ⟨c', follows, backed⟩ := renews
  exact ⟨c', follows, backed.since (Nat.le_refl _) (Nat.le_refl _) nofun⟩

/-- A new status may be followed by anything. -/
lemma Renews.goes (tidy : w.pool.Tidy) (renews : w.Renews index answered w' c)
    (goes : w'.Goes index w'') : w.Renews index answered w'' c := by
  obtain ⟨c', follows, backed⟩ := renews
  obtain ⟨c'', follows', status⟩ := goes c' follows.here follows.tidy
  refine ⟨c'', follows.trans tidy follows', ?_⟩
  rcases status with stays | backed'
  · exact backed.stay follows' stays (by simp)
  · exact backed'.since follows.sequence follows.next nofun

/-- A new status may come after anything. -/
lemma Follows.renews (tidy : w.pool.Tidy) (follows : w.Follows index [] w' c c')
    (renews : w'.Renews index answered w'' c') : w.Renews index answered w'' c := by
  obtain ⟨c'', follows', backed⟩ := renews
  exact ⟨c'', follows.trans tidy follows',
    backed.since follows.sequence follows.next fun _ _ _ => id⟩

/-! ### Leaving the controller alone, and changing it -/

/-- A page controller that is left alone. -/
lemma Apart.follows (apart : w.Apart index w') (here : w.list? index = some c) (tidy : w.pool.Tidy) :
    w.Follows index spent w' c c where
  here := apart.list c here
  sequence := Nat.le_refl _
  listed := .inl
  disposed := id
  next := apart.next
  tidy := apart.tidy tidy
  kept mem about _ := (apart.tasks _ _ about).mpr mem
  fresh mem := .inl ((apart.tasks _ _ (by simp [Work.isAbout])).mp mem)
  single old _ mem _ := by
    have mem := (apart.tasks _ _ (by simp [Work.isAbout])).mp mem
    exact absurd (tidy.below _ mem) (Nat.not_lt.mpr old)

lemma Apart.goes (apart : w.Apart index w') : w.Goes index w' :=
  fun c here tidy => ⟨c, apart.follows here tidy, .inl ⟨rfl, rfl⟩⟩

/-- A page controller that is changed. -/
lemma Follows.setList (here : w.list? index = some c) (tidy : w.pool.Tidy)
    (sequence : c.sequence ≤ c'.sequence)
    (listed : c.list.isSome = true → c'.list.isSome = true ∨ c'.status = .disposed)
    (disposed : c.status = .disposed → c'.status = .disposed) :
    w.Follows index spent (w.setList index c') c c' :=
  { Follows.refl here tidy with
    here := list?_setList_self here
    sequence := sequence
    listed := listed
    disposed := disposed
    fresh := .inl }

/-- A page controller that is changed without a word about its status. -/
lemma Goes.setList {i : Nat} (here : w.list? i = some c) (stays : Stays c c')
    (listed : c.list.isSome = true → c'.list.isSome = true) : w.Goes index (w.setList i c') := by
  by_cases other : i = index
  · subst other
    intro d here' tidy
    obtain rfl := Option.some.inj (here.symm.trans here')
    refine ⟨c', .setList here tidy (Nat.le_of_eq stays.2.symm) (fun h => .inl (listed h))
      (fun h => stays.1.trans h), .inl stays⟩
  · exact (Apart.setList other).goes

lemma Goes.refl (w : Workspace A) : w.Goes index w :=
  fun c here tidy => ⟨c, .refl here tidy, .inl ⟨rfl, rfl⟩⟩

lemma Goes.trans (first : w.Goes index w') (second : w'.Goes index w'') : w.Goes index w'' := by
  intro c here tidy
  exact (first c here tidy).trans tidy (by simp) fun follows => second _ follows.here follows.tidy

/-- A step that leaves all lists and tasks as they are. -/
lemma Goes.still (lists : w'.lists = w.lists) (pool : w'.pool = w.pool) : w.Goes index w' :=
  (Apart.of_eq lists pool).goes

lemma Onward.still (here : w.list? index = some c) (tidy : w.pool.Tidy) (lists : w'.lists = w.lists)
    (pool : w'.pool = w.pool) : w.Onward index spent answered w' c :=
  (Goes.still lists pool c here tidy).plain

/-! ### The calls of page controllers -/

variable {b : Behaviour A}

lemma goes_releaseView (within : b.Within (Goes index)) (w : Workspace A) (i : Nat)
    (view : Option A.View) : w.Goes index (w.releaseView b i view) := by
  cases view with
  | none => exact .refl w
  | some view => exact within.releaseView i view w

lemma goes_contentRendered (w : Workspace A) (i : Nat) : w.Goes index (w.contentRendered i) := by
  unfold contentRendered
  split
  · exact .still rfl rfl
  · exact .refl w

/-- The view for a failure is made and put in its place. -/
lemma goes_installFailure (within : b.Within (Goes index)) (w : Workspace A) (i : Nat)
    (list : Option A.Listing) (message : String) :
    let made := match list with
      | some list => b.renderError i list message w
      | none => (w, none)
    w.Goes index (match made.1.list? i with
      | some c => made.1.setList i (c.installFailure made.2)
      | none => made.1) := by
  intro made
  have rendered : w.Goes index made.1 := by
    cases list with
    | none => exact .refl w
    | some list => exact within.renderError i list message w
  refine rendered.trans ?_
  split
  · rename_i c here
    exact .setList here ⟨rfl, rfl⟩ id
  · exact .refl _

/-- What happens once a page controller has failed. -/
lemma goes_showFailure_of_failed {i : Nat} (within : b.Within (Goes index))
    (here : w.list? i = some c) (alive : c.status ≠ .disposed) (page : Nat) (message : String) :
    (w.setList i { c with status := .failed message, view := none }).Goes index
      (w.showFailure b i page message) := by
  have begun : (w.list? i).bind (·.beginFailure message) =
      some ({ c with status := .failed message, view := none }, c.list, c.view) := by
    rw [here, Option.bind_some, PageController.beginFailure, if_neg alive]
  unfold showFailure
  dsimp only
  split
  · rename_i none
    cases begun.symm.trans none
  · rename_i failed list previous found
    obtain ⟨rfl, rfl, rfl⟩ : failed = _ ∧ list = _ ∧ previous = _ := by
      simpa using Option.some.inj (found.symm.trans begun)
    refine .trans ?_ (goes_contentRendered _ i)
    refine .trans ?_ (within.listen i _ _)
    refine .trans ?_ (goes_installFailure within _ i c.list message)
    refine .trans ?_ (goes_releaseView within _ i c.view)
    exact .still rfl rfl

/-- A failure is shown by a page controller that is not at its end. -/
lemma showFailure_renews (within : b.Within (Goes index)) (here : w.list? index = some c)
    (tidy : w.pool.Tidy) (alive : c.status ≠ .disposed) (page : Nat) (message : String) :
    w.Renews index noAnswer (w.showFailure b index page message) c := by
  have begun : w.Renews index noAnswer
      (w.setList index { c with status := .failed message, view := none }) c :=
    ⟨_, .setList here tidy (Nat.le_refl _) .inl (fun h => absurd h alive), .failed rfl⟩
  exact begun.goes tidy (goes_showFailure_of_failed within here alive page message)

lemma showFailure_eq_report {i : Nat} (page : Nat) (message : String)
    (ended : ∀ c, w.list? i = some c → c.status = .disposed) :
    ∃ records, w.showFailure b i page message = w.report records := by
  unfold showFailure
  dsimp only
  split
  · exact ⟨_, rfl⟩
  · rename_i failed list previous found
    obtain ⟨c, here, begun⟩ := Option.bind_eq_some_iff.mp found
    rw [PageController.beginFailure, if_pos (ended c here)] at begun
    cases begun

lemma goes_showFailure (within : b.Within (Goes index)) (w : Workspace A) (i page : Nat)
    (message : String) : w.Goes index (w.showFailure b i page message) := by
  by_cases ended : ∀ c, w.list? i = some c → c.status = .disposed
  · obtain ⟨records, same⟩ := showFailure_eq_report (b := b) page message ended
    rw [same]
    exact .still rfl rfl
  · obtain ⟨c, here, alive⟩ : ∃ c, w.list? i = some c ∧ c.status ≠ .disposed := by
      simpa using ended
    by_cases other : i = index
    · subst other
      intro d here' tidy
      obtain rfl := Option.some.inj (here.symm.trans here')
      exact (showFailure_renews within here tidy alive page message).onward
    · exact (Apart.setList other).goes.trans
        (goes_showFailure_of_failed within here alive page message)

/-- A page controller ends. -/
lemma goes_closeList (within : b.Within (Goes index)) (w : Workspace A) (i : Nat) :
    w.Goes index (w.closeList b i) := by
  unfold closeList
  split
  · exact .refl w
  · rename_i d view closed
    obtain ⟨c, here, begun⟩ := Option.bind_eq_some_iff.mp closed
    unfold PageController.close at begun
    split at begun
    · cases begun
    · rename_i alive
      obtain ⟨rfl, rfl⟩ := Prod.mk.inj (Option.some.inj begun)
      let ended : PageController A.Listing A.View :=
        { c with sequence := c.sequence + 1, status := .disposed, list := none, view := none }
      have ends : w.Goes index (w.setList i ended) := by
        by_cases other : i = index
        · subst other
          intro d here' tidy
          obtain rfl := Option.some.inj (here.symm.trans here')
          have renews : w.Renews i noAnswer (w.setList i ended) c :=
            ⟨ended, .setList here tidy (Nat.le_succ _) (fun _ => .inr rfl) (fun _ => rfl),
              .disposed rfl (Nat.lt_succ_self _)⟩
          exact renews.onward
        · exact (Apart.setList other).goes
      refine ends.trans (.trans ?_ (goes_releaseView within _ i c.view))
      exact .still rfl rfl

/-! ### Loading a page -/

/-- A page is asked for. Whatever happened between the number and the request: the other requests since
then have later numbers. -/
lemma Follows.ask {pool : TaskPool} {page fetch : Nat} (here : w.list? index = some c)
    (tidy : w.pool.Tidy) (number : c'.sequence = c.sequence + 1)
    (listed : c.list.isSome = true → c'.list.isSome = true) (alive : c.status ≠ .disposed)
    (follows : (w.setList index c').Follows index [] w' c' c'')
    (added : w'.pool.spawn? (.load index c'.sequence page fetch) = some pool) :
    w.Follows index [] { w' with pool } c c'' := by
  have begun : w.Follows index [] (w.setList index c') c c' :=
    .setList here tidy (by omega) (fun h => .inl (listed h)) (fun h => absurd h alive)
  have base := begun.trans tidy follows
  obtain ⟨tasks, next⟩ := TaskPool.spawn?_eq_some added
  have split : ∀ {task s page' fetch'}, (task, .load index s page' fetch') ∈ pool.tasks →
      (task, .load index s page' fetch') ∈ w'.pool.tasks ∨
        task = w'.pool.next ∧ s = c'.sequence ∧ page' = page ∧ fetch' = fetch := by
    intro task s page' fetch' mem
    rw [tasks] at mem
    rcases List.mem_append.mp mem with mem | mem
    · exact .inl mem
    · obtain ⟨rfl, same⟩ := Prod.mk.inj (List.mem_singleton.mp mem)
      obtain ⟨-, rfl, rfl, rfl⟩ := Work.load.inj same
      exact .inr ⟨rfl, rfl, rfl, rfl⟩
  have later : ∀ {task s page' fetch'}, w.pool.next ≤ task →
      (task, .load index s page' fetch') ∈ w'.pool.tasks → c'.sequence < s := by
    intro task s page' fetch' since mem
    rcases follows.fresh mem with mem | ⟨-, newer, -⟩
    · exact absurd (tidy.below _ mem) (Nat.not_lt.mpr since)
    · exact newer
  refine { base with next := ?_, tidy := follows.tidy.spawn added, kept := ?_, fresh := ?_, single := ?_ }
  · show w.pool.next ≤ pool.next
    have := base.next
    omega
  · intro task work mem about unspent
    show (task, work) ∈ pool.tasks
    rw [tasks]
    exact List.mem_append_left _ (base.kept mem about unspent)
  · intro task s page' fetch' mem
    rcases split mem with mem | ⟨rfl, rfl, rfl, rfl⟩
    · exact base.fresh mem
    · have := base.next
      have := follows.sequence
      exact .inr ⟨by omega, by omega, by omega⟩
  · intro task task' s p p' f f' since since' mem mem'
    rcases split mem with old | ⟨rfl, rfl, rfl, rfl⟩ <;>
      rcases split mem' with old' | ⟨rfl, same, rfl, rfl⟩
    · exact base.single since since' old old'
    · exact absurd (later since old) (by omega)
    · exact absurd (later since' old') (Nat.lt_irrefl _)
    · exact ⟨rfl, rfl⟩

/-- A page is asked for after the calls that come before the request. Without tasks it has failed. -/
lemma load_eq {i page : Nat} {job : PageController.Load A.Listing A.View}
    (within : b.Within (Goes index)) (begun : (w.list? i).bind (·.beginLoad page) = some (c, job)) :
    ∃ w' fetch, (w.setList i c).Goes index w' ∧
      (∀ w'', w'.spawn (.load i job.sequence page fetch) = .ok w'' → w.load b i page = w'') ∧
      (∀ reason, w'.spawn (.load i job.sequence page fetch) = .error reason →
        ∃ records, w.load b i page =
          (w'.report records).showFailure b i page "Could not start loading the page.") := by
  unfold load
  rw [begun]
  dsimp only
  refine ⟨_, _, ?_, fun w'' added => by rw [added], fun reason refused => ⟨_, by rw [refused]⟩⟩
  refine .trans ?_ (within.request i _ _ _)
  refine .trans ?_ (within.listen i _ _)
  refine .trans (goes_releaseView within _ i job.previous) ?_
  split
  · exact .still rfl rfl
  · exact .still rfl rfl

/-- What a page controller is at as long as it loads a page. -/
lemma beginLoad_eq_some {page : Nat} {job : PageController.Load A.Listing A.View}
    (begun : c.beginLoad page = some (c', job)) :
    c.status ≠ .disposed ∧ c.list.isSome = true ∧ job.sequence = c'.sequence ∧
      c'.sequence = c.sequence + 1 ∧ c'.status = .loading page ∧ c'.list = c.list := by
  unfold PageController.beginLoad at begun
  split at begun
  · cases begun
  · rename_i alive
    obtain ⟨list, listed, made⟩ := Option.map_eq_some_iff.mp begun
    obtain ⟨rfl, rfl⟩ := Prod.mk.inj made
    exact ⟨alive, by rw [listed]; rfl, rfl, rfl, rfl, rfl⟩

/-- A page that begins to load gives its controller a new status. -/
lemma load_renews {page : Nat} {job : PageController.Load A.Listing A.View}
    (within : b.Within (Goes index)) (here : w.list? index = some c) (tidy : w.pool.Tidy)
    (begun : c.beginLoad page = some (c', job)) :
    w.Renews index noAnswer (w.load b index page) c := by
  obtain ⟨alive, listed, numbered, number, status, same⟩ := beginLoad_eq_some begun
  have begun' : (w.list? index).bind (·.beginLoad page) = some (c', job) := by
    rw [here]
    exact begun
  obtain ⟨w₁, fetch, goes, asked, failed⟩ := load_eq within begun'
  obtain ⟨c₁, follows, status₁⟩ := goes c' (list?_setList_self here) tidy
  have base : w.Follows index [] w₁ c c₁ :=
    Follows.trans tidy (.setList here tidy (by omega) (fun h => .inl (by rwa [same]))
      (fun h => absurd h alive)) follows
  have since : w₁.Backed index c'.sequence w.pool.next noAnswer c₁ →
      w₁.Backed index c.sequence w.pool.next noAnswer c₁ :=
    .since (by omega) (Nat.le_refl _) fun _ _ _ => id
  rcases spawned : w₁.spawn (.load index job.sequence page fetch) with reason | w₂
  · obtain ⟨records, shown⟩ := failed reason spawned
    have reported : w₁.Follows index [] (w₁.report records) c₁ c₁ :=
      Apart.follows (.of_eq rfl rfl) base.here base.tidy
    rw [shown]
    by_cases ended : c₁.status = .disposed
    · -- Somebody has ended the controller meanwhile, which is a new status too.
      have renews : w.Renews index noAnswer w₁ c := by
        rcases status₁ with stays | backed
        · cases (stays.1.trans status).symm.trans ended
        · exact ⟨c₁, base, since backed⟩
      have reports : w₁.Goes index (w₁.report records) := .still rfl rfl
      exact renews.goes tidy (reports.trans (goes_showFailure within _ _ _ _))
    · have renews := showFailure_renews within (w := w₁.report records) base.here base.tidy ended page
        "Could not start loading the page."
      exact (base.trans tidy reported).renews tidy renews
  · rw [asked w₂ spawned]
    obtain ⟨pool, added, rfl⟩ := spawn_eq_ok spawned
    rw [numbered] at added
    obtain ⟨tasks, -⟩ := TaskPool.spawn?_eq_some added
    have follows' := Follows.ask here tidy number (fun h => by rwa [same]) alive follows added
    refine ⟨c₁, follows', ?_⟩
    rcases status₁ with ⟨stays, latest⟩ | backed
    · -- Nothing came between the number and the request, so this is the latest request.
      have listed₁ : c₁.list.isSome = true := by
        refine (base.listed listed).resolve_right fun ended => ?_
        cases (stays.trans status).symm.trans ended
      have outstanding : (w₁.pool.next, .load index c₁.sequence page fetch) ∈ pool.tasks := by
        rw [tasks, latest]
        exact List.mem_append_right _ (List.mem_singleton.mpr rfl)
      exact .loading (stays.trans status) listed₁ (by omega) base.next outstanding
    · -- Something did come between them: that is the new status, and the request is out of date.
      refine (since backed).add ?_
      show _ ⊆ pool.tasks
      rw [tasks]
      exact List.subset_append_left ..

lemma goes_load (within : b.Within (Goes index)) (w : Workspace A) (i page : Nat) :
    w.Goes index (w.load b i page) := by
  rcases begun : (w.list? i).bind (·.beginLoad page) with _ | ⟨c', job⟩
  · unfold load
    rw [begun]
    exact .refl w
  · by_cases other : i = index
    · subst other
      intro c here tidy
      rw [here] at begun
      exact (load_renews within here tidy begun).onward
    · obtain ⟨w', fetch, goes, asked, failed⟩ := load_eq within begun
      refine (Apart.setList other).goes.trans (goes.trans ?_)
      rcases spawned : w'.spawn (.load i job.sequence page fetch) with reason | w''
      · obtain ⟨records, shown⟩ := failed reason spawned
        have reports : w'.Goes index (w'.report records) := .still rfl rfl
        rw [shown]
        exact reports.trans (goes_showFailure within _ _ _ _)
      · rw [asked w'' spawned]
        exact (Apart.spawn (by simpa [Work.isAbout] using other) spawned).goes

/-- A page controller with a list that is told to load a page comes to a new status, whatever happens
before it does so. -/
lemma Goes.load_renews (within : b.Within (Goes index)) (goes : w.Goes index w')
    (here : w.list? index = some c) (tidy : w.pool.Tidy) (alive : c.status ≠ .disposed)
    (listed : c.list.isSome = true) (page : Nat) :
    w.Renews index noAnswer (w'.load b index page) c := by
  obtain ⟨c', follows, status⟩ := goes c here tidy
  rcases begun : c'.beginLoad page with _ | ⟨d, job⟩
  · have ended : c'.status = .disposed := by
      rcases follows.listed listed with listed' | ended
      · obtain ⟨list, listed'⟩ := Option.isSome_iff_exists.mp listed'
        rw [PageController.beginLoad, listed'] at begun
        split at begun
        · assumption
        · cases begun
      · exact ended
    have renews : w.Renews index noAnswer w' c := by
      rcases status with stays | backed
      · exact absurd (stays.1.symm.trans ended) alive
      · exact ⟨c', follows, backed⟩
    exact renews.goes tidy (goes_load within w' index page)
  · exact follows.renews tidy (Workspace.load_renews within follows.here follows.tidy begun)

/-- A page controller is run. -/
lemma goes_runList (within : b.Within (Goes index)) (w : Workspace A) (i : Nat) (list : A.Listing)
    (parameters : Parameters) : w.Goes index (w.runList b i list parameters) := by
  unfold runList
  split
  · exact .refl w
  · rename_i c here
    split
    · exact .still rfl rfl
    · rename_i c' page started
      unfold PageController.start at started
      split at started
      · cases started
      · obtain ⟨rfl, rfl⟩ := Prod.mk.inj (Option.some.inj started)
        have taken : w.Goes index (w.setList i { c with list := some list, parameters }) :=
          .setList here ⟨rfl, rfl⟩ fun _ => rfl
        exact taken.trans (goes_load within _ i _)

/-- The page of a page controller is changed. -/
lemma goes_changePage (within : b.Within (Goes index)) (w : Workspace A) (i page : Nat) :
    w.Goes index (w.changePage b i page) := by
  have switch : ∀ {w : Workspace A} {c d} (n : Nat), w.list? i = some c →
      w.Goes index ((w.setList i (((w.list? i).getD d).setPage n)).load b i n) := by
    intro w c d n here
    have put : w.Goes index (w.setList i (c.setPage n)) := .setList here ⟨rfl, rfl⟩ id
    rw [here]
    exact put.trans (goes_load within _ i n)
  unfold changePage
  dsimp only
  split
  · exact .refl w
  · rename_i c list found
    obtain ⟨d, here, -⟩ := Option.bind_eq_some_iff.mp found
    split
    · -- The address has changed in place, or it cannot; the lists and the tasks are still the same.
      have moved : w.Goes index
          { w with navigator := (w.navigator.inPlace true (b.urlForPage list (max 1 page))).1 }.takeReports :=
        .still rfl rfl
      refine moved.trans ?_
      split
      · exact switch _ here
      · exact .still rfl rfl
      · split
        · rename_i added
          refine .trans ?_ (Apart.spawn rfl added).goes
          exact .still rfl rfl
        · exact .still rfl rfl
    · exact switch _ here

/-- Going on is customary. -/
theorem customary_goes (index : Nat) : Customary index (Goes (A := A) index) where
  refl := Goes.refl
  trans := Goes.trans
  apart := Apart.goes
  runList := goes_runList
  changePage := goes_changePage
  showFailure := goes_showFailure
  closeList := goes_closeList

end Workspace

end Wayfinder
