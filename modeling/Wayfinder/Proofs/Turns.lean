/-
Turns of a workspace.

From outside, a workspace is driven in turns: calls of page controllers, answers that arrive, tasks that
go on, and deeds of anybody else. `Workspace.after` is the workspace after some turns in any order; a
task may have its turn at any time, so answers are taken in any order too. In every turn a page
controller goes on.

* `Turn`, `Workspace.turn`, `Workspace.after`: turns, and runs of them.
* `Workspace.Takes`: a turn takes the answer to a request.
* `turn_onward`: what one turn does to a page controller.
* `runTasks_eq_after`: letting the tasks run is turns of tasks.
-/
import Wayfinder.Proofs.Answers
import Mathlib.Data.List.Nodup

namespace Wayfinder

variable {A : Application}

/-- What drives a workspace. -/
inductive Turn (A : Application) where
  /-- A page controller is run. -/
  | run (index : Nat) (list : A.Listing) (parameters : Parameters)
  /-- The page of a page controller is changed. -/
  | changePage (index page : Nat)
  /-- A page controller is to show an error. -/
  | showError (index : Nat) (message : String)
  /-- A page controller is ended. -/
  | close (index : Nat)
  /-- A task has its turn. -/
  | task (fuel task : Nat)
  /-- The answer to a request arrives. -/
  | deliver (fetch : Nat) (answer : Except FetchError PageResult)
  /-- All tasks are given up. -/
  | closeTasks
  /-- Somebody else does something. -/
  | other (deed : Workspace A → Workspace A)

namespace Turn

/-- Whoever does something else does it to a page controller only in ways that are open to everybody. -/
def Courteous (index : Nat) : Turn A → Prop
  | other deed => Workspace.Courteous index deed
  | _ => True

/-- The tasks that are spent in a turn. -/
def spent (w : Workspace A) : Turn A → List Nat
  | .task _ t => [t]
  | .closeTasks => w.pool.tasks.map Prod.fst
  | _ => []

end Turn

namespace Workspace

/-- The workspace after a turn. -/
def turn (r : Reactions A) (w : Workspace A) : Turn A → Workspace A
  | .run index list parameters => w.runList r.toBehaviour index list parameters
  | .changePage index page => w.changePage r.toBehaviour index page
  | .showError index message => w.showFailure r.toBehaviour index 0 message
  | .close index => w.closeList r.toBehaviour index
  | .task fuel task => w.poll r fuel task
  | .deliver fetch answer => w.deliver fetch answer
  | .closeTasks => w.closePool
  | .other deed => deed w

/-- The workspace after some turns. -/
def after (r : Reactions A) (w : Workspace A) (turns : List (Turn A)) : Workspace A :=
  turns.foldl (turn r) w

/-- A turn takes the answer to a request of a page controller. -/
def Takes (w : Workspace A) (index : Nat) (u : Turn A) (s page : Nat) (result : PageResult) : Prop :=
  ∃ fuel task fetch, u = .task fuel task ∧
    w.pool.tasks.lookup task = some (.load index s page fetch) ∧
    w.answers.lookup fetch = some (.ok result)

end Workspace

/-! ### Tasks that change -/

/-- What is looked up is there. -/
lemma TaskPool.mem_of_lookup {tasks : List (Nat × Work)} {task : Nat} {work : Work}
    (found : tasks.lookup task = some work) : (task, work) ∈ tasks := by
  obtain ⟨before, after, rfl, -⟩ := List.lookup_eq_some_iff.mp found
  exact List.mem_append_right _ (.head _)

/-- A task that is woken is the task that it was. -/
@[simp] lemma TaskPool.tasks_wake (p : TaskPool) (task : Nat) : (p.wake task).tasks = p.tasks := by
  unfold TaskPool.wake
  split <;> rfl

@[simp] lemma TaskPool.next_wake (p : TaskPool) (task : Nat) : (p.wake task).next = p.next := by
  unfold TaskPool.wake
  split <;> rfl

namespace TaskPool.Tidy

variable {p : TaskPool} {task : Nat} {work work' : Work}

/-- A task with a number is the only one that has it. -/
lemma unique (tidy : p.Tidy) (mem : (task, work) ∈ p.tasks) (mem' : (task, work') ∈ p.tasks) :
    work = work' :=
  (Prod.mk.inj (List.inj_on_of_nodup_map tidy.distinct mem mem' rfl)).2

lemma set (tidy : p.Tidy) : (p.set task work).Tidy := by
  have same : (p.set task work).tasks.map Prod.fst = p.tasks.map Prod.fst := by
    simp only [TaskPool.set, List.map_map]
    refine List.map_congr_left fun e _ => ?_
    by_cases h : e.1 = task <;> simp [h]
  refine ⟨fun e mem => ?_, by rw [same]; exact tidy.distinct⟩
  have mem := List.mem_map_of_mem (f := Prod.fst) mem
  rw [same] at mem
  obtain ⟨e', mem, h⟩ := List.mem_map.mp mem
  rw [← h]
  exact tidy.below e' mem

lemma remove (tidy : p.Tidy) : (p.remove task).Tidy :=
  ⟨fun e mem => tidy.below e (List.mem_filter.mp mem).1,
    tidy.distinct.sublist (List.filter_sublist.map _)⟩

end TaskPool.Tidy

namespace Workspace

variable {index task fuel : Nat} {answered : Nat → Nat → PageResult → Prop} {w : Workspace A}
  {c : PageController A.Listing A.View}

/-- A task that runs a navigation from now on. -/
lemma Follows.setTask (here : w.list? index = some c) (tidy : w.pool.Tidy) (task : Nat)
    (sequel : Sequel) :
    w.Follows index [task] { w with pool := w.pool.set task (.navigate sequel) } c c :=
  { (Follows.refl here tidy : w.Follows index [task] w c c) with
    here := here
    tidy := tidy.set
    kept := fun {t work} mem _ unspent => by
      have other : t ≠ task := by simpa using unspent
      exact List.mem_map.mpr ⟨(t, work), mem, by simp [other]⟩
    fresh := fun {t s page fetch} mem => by
      obtain ⟨e, mem, same⟩ := List.mem_map.mp mem
      split at same
      · cases (Prod.mk.inj same).2
      · exact .inl (same ▸ mem)
    single := fun {t t' s page page' fetch fetch'} since _ mem _ => by
      obtain ⟨e, mem, same⟩ := List.mem_map.mp mem
      split at same
      · cases (Prod.mk.inj same).2
      · exact absurd (tidy.below _ (same ▸ mem)) (Nat.not_lt.mpr since) }

/-- A task that ends. -/
lemma Follows.removeTask (here : w.list? index = some c) (tidy : w.pool.Tidy) (task : Nat) :
    w.Follows index [task] { w with pool := w.pool.remove task } c c :=
  { (Follows.refl here tidy : w.Follows index [task] w c c) with
    here := here
    tidy := tidy.remove
    kept := fun {t work} mem _ unspent => by
      have other : t ≠ task := by simpa using unspent
      exact List.mem_filter.mpr ⟨mem, by simpa using other⟩
    fresh := fun mem => .inl (List.mem_filter.mp mem).1
    single := fun since _ mem _ =>
      absurd (tidy.below _ (List.mem_filter.mp mem).1) (Nat.not_lt.mpr since) }

/-! ### Turns of tasks -/

variable {r : Reactions A}

/-- What a task does with the outcome of its navigation. -/
lemma goes_conclude (within : r.Within (Goes index)) (w : Workspace A) (outcome : Outcome)
    (sequel : Sequel) : w.Goes index (w.conclude r outcome sequel) := by
  cases sequel with
  | report number => exact .still rfl rfl
  | ignore => exact .refl w
  | reload i page =>
    rw [conclude]
    split
    · exact .refl w
    · dsimp only
      split
      · refine .trans ?_ (goes_load within.lists _ i page)
        exact .still rfl rfl
      · exact .still rfl rfl

/-- A task has run a navigation. -/
lemma settle_onward (within : r.Within (Goes index)) {done : Workspace A × Option Outcome}
    (here : done.1.list? index = some c) (tidy : done.1.pool.Tidy) (old : task < done.1.pool.next)
    (sequel : Sequel) : done.1.Onward index [task] noAnswer (settle r task sequel done) c := by
  obtain ⟨w, _ | outcome⟩ := done
  · exact .still here tidy rfl rfl
  · refine ((goes_conclude within w outcome sequel c here tidy).plain).trans tidy
      (by simpa using old) fun {c'} follows => ?_
    exact ⟨c', .removeTask follows.here follows.tidy task, .inl ⟨rfl, rfl⟩⟩

/-- A task runs a navigation that was asked for. -/
lemma navigateIn_onward (within : r.Within (Goes index)) (here : w.list? index = some c)
    (tidy : w.pool.Tidy) (old : task < w.pool.next) (kind : Kind) (url : String) (sequel : Sequel) :
    w.Onward index [task] noAnswer (w.navigateIn r fuel task kind url sequel) c := by
  let w₁ : Workspace A := { w with pool := w.pool.set task (.navigate sequel) }
  have set : w.Onward index [task] noAnswer w₁ c :=
    ⟨c, .setTask here tidy task sequel, .inl ⟨rfl, rfl⟩⟩
  have old₁ : task < w₁.pool.next := old
  refine set.trans tidy (by simpa using old) fun {c'} follows => ?_
  have ran := (customary_goes index).navigate within fuel w₁ kind url c' follows.here follows.tidy
  refine ran.plain.trans follows.tidy (by simpa using old₁) fun follows' => ?_
  exact settle_onward within follows'.here follows'.tidy (Nat.lt_of_lt_of_le old₁ follows'.next) sequel

/-- A task that ends is spent. -/
lemma removeTask_onward (here : w.list? index = some c) (tidy : w.pool.Tidy) :
    w.Onward index [task] noAnswer { w with pool := w.pool.remove task } c :=
  ⟨c, .removeTask here tidy task, .inl ⟨rfl, rfl⟩⟩

/-- The answer to a request is no longer there. -/
def takeAnswer (w : Workspace A) (fetch : Nat) : Workspace A :=
  { w with answers := w.answers.filter (·.1 ≠ fetch) }

/-- What becomes of a task that takes the answer to a request of a page controller, once the answer waits
no longer. -/
inductive Handles (r : Reactions A) (fuel task : Nat) (w : Workspace A) (i s page : Nat)
    (answer : Except FetchError PageResult) : Workspace A → Prop
  /-- The controller is gone. -/
  | gone (dead : w.listAlive i = false) :
      Handles r fuel task w i s page answer { w with pool := w.pool.remove task }
  /-- The answer is all. -/
  | done {w' : Workspace A} {sent : Option (String × Nat)} (alive : w.listAlive i = true)
      (completed : w.complete r.toBehaviour r.render i s page answer = (w', sent))
      (ends : sent = none ∨ w'.navigatorAlive = false) :
      Handles r fuel task w i s page answer { w' with pool := w'.pool.remove task }
  /-- The navigator is asked to go to the last page. -/
  | sent {w' : Workspace A} {url : String} {last : Nat} (alive : w.listAlive i = true)
      (completed : w.complete r.toBehaviour r.render i s page answer = (w', some (url, last))) :
      Handles r fuel task w i s page answer
        (w'.navigateIn r fuel task .replace url (.reload i last))

/-- A task that waits for an answer takes it. -/
lemma poll_load {i s page fetch : Nat} {answer : Except FetchError PageResult}
    (found : w.pool.tasks.lookup task = some (.load i s page fetch))
    (answered : w.answers.lookup fetch = some answer) :
    Handles r fuel task (w.takeAnswer fetch) i s page answer (w.poll r fuel task) := by
  unfold poll
  rw [found]
  dsimp only
  rw [answered]
  dsimp only
  split
  · rename_i alive
    split
    · rename_i completed
      exact .done alive completed (.inl rfl)
    · rename_i completed
      split
      · exact .sent alive completed
      · rename_i dead
        exact .done alive completed (.inr (by simpa using dead))
  · rename_i dead
    exact .gone (Bool.not_eq_true _ ▸ dead)

/-- Without the answer it goes on waiting. -/
lemma poll_load_waiting {i s page fetch : Nat}
    (found : w.pool.tasks.lookup task = some (.load i s page fetch))
    (waiting : w.answers.lookup fetch = none) : w.poll r fuel task = w := by
  unfold poll
  rw [found]
  dsimp only
  rw [waiting]

/-- A turn of a task that waits for an answer. -/
lemma poll_load_onward {i s page fetch : Nat} (within : r.Within (Goes index))
    (here : w.list? index = some c) (tidy : w.pool.Tidy)
    (found : w.pool.tasks.lookup task = some (.load i s page fetch)) :
    w.Onward index [task] (w.Takes index (.task fuel task)) (w.poll r fuel task) c := by
  have old : task < w.pool.next := tidy.below _ (TaskPool.mem_of_lookup found)
  rcases answered : w.answers.lookup fetch with _ | answer
  · rw [poll_load_waiting found answered]
    exact .still here tidy rfl rfl
  · have taken : w.Onward index [task] (w.Takes index (.task fuel task)) (w.takeAnswer fetch) c :=
      .still here tidy rfl rfl
    have old' : ∀ t ∈ [task], t < w.pool.next := by simpa using old
    -- The answer is taken while the task is still there; what the task does next comes after that.
    have completed : w.Onward index [task] (w.Takes index (.task fuel task))
        ((w.takeAnswer fetch).complete r.toBehaviour r.render i s page answer).1 c := by
      refine taken.trans tidy old' fun follows => ?_
      refine (complete_onward within follows.here follows.tidy i s page answer ?_).widen
        (List.nil_subset _) fun _ _ _ => id
      rintro rfl result rfl
      exact ⟨fuel, task, fetch, rfl, found, answered⟩
    have handles : Handles r fuel task (w.takeAnswer fetch) i s page answer (w.poll r fuel task) :=
      poll_load found answered
    generalize w.poll r fuel task = w' at handles
    cases handles with
    | gone dead =>
      exact taken.trans tidy old' fun follows =>
        (removeTask_onward follows.here follows.tidy).unanswered
    | done alive completes ends =>
      rw [completes] at completed
      exact completed.trans tidy old' fun follows =>
        (removeTask_onward follows.here follows.tidy).unanswered
    | sent alive completes =>
      rw [completes] at completed
      exact completed.trans tidy old' fun follows =>
        (navigateIn_onward within follows.here follows.tidy (Nat.lt_of_lt_of_le old follows.next)
          .replace _ _).unanswered

/-- A turn of a task. -/
lemma poll_onward (within : r.Within (Goes index)) (here : w.list? index = some c)
    (tidy : w.pool.Tidy) (fuel task : Nat) :
    w.Onward index [task] (w.Takes index (.task fuel task)) (w.poll r fuel task) c := by
  rcases found : w.pool.tasks.lookup task with _ | work
  · unfold poll
    rw [found]
    exact .still here tidy rfl rfl
  · have old : task < w.pool.next := tidy.below _ (TaskPool.mem_of_lookup found)
    have old' : ∀ t ∈ [task], t < w.pool.next := by simpa using old
    cases work with
    | load i s page fetch => exact poll_load_onward within here tidy found
    | call number call =>
      unfold poll
      rw [found]
      dsimp only
      split
      · exact (navigateIn_onward within here tidy old _ _ _).unanswered
      · let w₁ : Workspace A := { w with finished := w.finished ++ [(number, none)] }
        have finished : w.Onward index [task] noAnswer w₁ c := .still here tidy rfl rfl
        refine (finished.trans tidy old' fun follows => ?_).unanswered
        exact removeTask_onward follows.here follows.tidy
    | push url =>
      unfold poll
      rw [found]
      exact (navigateIn_onward within here tidy old _ _ _).unanswered
    | navigate sequel =>
      unfold poll
      rw [found]
      have ran := (customary_goes index).resume within fuel w c here tidy
      refine (ran.plain.trans tidy old' fun follows => ?_).unanswered
      exact settle_onward within follows.here follows.tidy (Nat.lt_of_lt_of_le old follows.next) sequel

/-! ### Turns of all kinds -/

/-- An answer that arrives. -/
lemma Apart.deliver (w : Workspace A) (fetch : Nat) (answer : Except FetchError PageResult) :
    w.Apart index (w.deliver fetch answer) := by
  unfold Workspace.deliver
  dsimp only
  split
  · exact .of_eq rfl rfl
  · exact .of_tasks rfl (TaskPool.tasks_wake ..) (TaskPool.next_wake ..)

/-- All tasks are given up. -/
lemma closePool_onward (here : w.list? index = some c) (tidy : w.pool.Tidy) :
    w.Onward index (w.pool.tasks.map Prod.fst) answered w.closePool c :=
  ⟨c, { (Follows.refl here tidy : w.Follows index (w.pool.tasks.map Prod.fst) w c c) with
    here := here
    tidy := ⟨nofun, .nil⟩
    kept := fun mem _ unspent => absurd (List.mem_map_of_mem mem) unspent
    fresh := nofun
    single := nofun }, .inl ⟨rfl, rfl⟩⟩

/-- In every turn a page controller goes on. -/
theorem turn_onward (courteous : r.Courteous index) (here : w.list? index = some c)
    (tidy : w.pool.Tidy) {u : Turn A} (polite : u.Courteous index) :
    w.Onward index (u.spent w) (w.Takes index u) (w.turn r u) c := by
  have within := courteous _ (customary_goes index)
  cases u with
  | run i list parameters => exact (goes_runList within.lists w i list parameters c here tidy).plain
  | changePage i page => exact (goes_changePage within.lists w i page c here tidy).plain
  | showError i message => exact (goes_showFailure within.lists w i 0 message c here tidy).plain
  | close i => exact (goes_closeList within.lists w i c here tidy).plain
  | task fuel task => exact poll_onward within here tidy fuel task
  | deliver fetch answer => exact ((Apart.deliver w fetch answer).goes c here tidy).plain
  | closeTasks => exact closePool_onward here tidy
  | other deed => exact (polite _ (customary_goes index) w c here tidy).plain

/-! ### Runs of the tasks -/

lemma after_append (w : Workspace A) (turns turns' : List (Turn A)) :
    w.after r (turns ++ turns') = (w.after r turns).after r turns' :=
  List.foldl_append

/-- The next task is taken from those that can go on. -/
def takeTask (w : Workspace A) : Workspace A :=
  match w.pool.next? with
  | none => w
  | some (task, pool) => { w with pool, current := some task }

/-- No task runs. -/
def restTasks (w : Workspace A) : Workspace A := { w with current := none }

lemma courteous_takeTask : Courteous (A := A) index takeTask := by
  intro R customary w
  unfold takeTask
  split
  · exact customary.refl w
  · rename_i task pool found
    have same : pool.tasks = w.pool.tasks ∧ pool.next = w.pool.next := by
      unfold TaskPool.next? at found
      split at found
      · cases found
      · obtain ⟨-, rfl⟩ := Prod.mk.inj (Option.some.inj found)
        exact ⟨rfl, rfl⟩
    exact customary.apart (.of_tasks rfl same.1 same.2)

/-- Letting the tasks run until none can go on is a run of turns. -/
theorem runTasks_eq_after (r : Reactions A) (fuel : Nat) (w : Workspace A) :
    ∃ turns : List (Turn A), (∀ u ∈ turns, ∀ index, u.Courteous index) ∧
      w.runTasks r fuel = w.after r turns := by
  induction fuel generalizing w with
  | zero => exact ⟨[], nofun, rfl⟩
  | succ fuel ih =>
    rcases found : w.pool.next? with _ | ⟨task, pool⟩
    · refine ⟨[], nofun, ?_⟩
      rw [runTasks, found]
      rfl
    · obtain ⟨turns, polite, ran⟩ := ih (w.takeTask.poll r fuel task).restTasks
      refine ⟨.other takeTask :: .task fuel task :: .other restTasks :: turns, ?_, ?_⟩
      · intro u mem index
        simp only [List.mem_cons] at mem
        rcases mem with rfl | rfl | rfl | mem
        · exact courteous_takeTask
        · trivial
        · exact fun R customary w => customary.still rfl rfl
        · exact polite u mem index
      · rw [runTasks, found]
        refine Eq.trans ?_ ran
        simp only [takeTask, found, restTasks]

end Workspace

end Wayfinder
