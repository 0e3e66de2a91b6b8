/-
What an application can do to a page controller.

The application may do anything to the workspace when it is called, but it cannot reach into a page
controller: it has to run it, change its page, have it show an error or end it, and each of these may
call the application again. `Customary` collects what such conduct keeps to, as relations between the
workspace before and after; `Courteous` is an application that keeps to all of them, however deep its
calls are nested. Whatever is customary then holds of everything the navigator and the tasks do too.

* `Workspace.Apart`: a page controller and its tasks are left alone.
* `Customary`, `Reactions.Courteous`: what an application can do.
* `Behaviour.Serves`, `Reactions.Serves`: a relation goes along what the navigator wants done, and then
  along all of its work: `flush`, `attach`, `advance`, `resume`, `navigate`, `callNow`.
-/
import Wayfinder.Workspace.Tasks
import Mathlib.Tactic.Lemma

namespace Wayfinder

/-- Whether a task is about the page controller with an index: it waits for one of its pages, or it runs
the navigation that the controller has been sent on. -/
def Work.isAbout (index : Nat) : Work → Bool
  | .load i _ _ _ => i == index
  | .navigate (.reload i _) => i == index
  | _ => false

/-- The tasks have numbers of their own, and the next task gets a new one. -/
structure TaskPool.Tidy (p : TaskPool) : Prop where
  /-- Every number has been given out. -/
  below : ∀ e ∈ p.tasks, e.1 < p.next
  /-- No two tasks have the same number. -/
  distinct : (p.tasks.map Prod.fst).Nodup

variable {A : Application}

/-- A page controller and its tasks are left alone. -/
structure Workspace.Apart (index : Nat) (w w' : Workspace A) : Prop where
  /-- The controller is as it was. -/
  list : ∀ c, w.list? index = some c → w'.list? index = some c
  /-- So are its tasks. -/
  tasks : ∀ task work, work.isAbout index = true →
    ((task, work) ∈ w'.pool.tasks ↔ (task, work) ∈ w.pool.tasks)
  /-- No number is given out twice. -/
  next : w.pool.next ≤ w'.pool.next
  /-- The tasks stay tidy. -/
  tidy : w.pool.Tidy → w'.pool.Tidy

/-- Nothing happens to the page controllers, to the tasks, and to what the application remembers. -/
structure Workspace.Quiet (w w' : Workspace A) : Prop where
  state : w'.state = w.state
  lists : w'.lists = w.lists
  pool : w'.pool = w.pool

/-- Nothing happens to the navigator, to the page controllers and to the tasks. -/
structure Workspace.Unmoved (w w' : Workspace A) : Prop where
  navigator : w'.navigator = w.navigator
  lists : w'.lists = w.lists
  pool : w'.pool = w.pool

/-- All calls of the lists and controllers go along a relation. -/
structure Behaviour.Within (R : Workspace A → Workspace A → Prop) (b : Behaviour A) : Prop where
  request : ∀ i list page w, R w (b.request i list page w).1
  renderError : ∀ i list message w, R w (b.renderError i list message w).1
  releaseView : ∀ i view w, R w (b.releaseView i view w)
  listen : ∀ i event w, R w (b.listen i event w)
  disposeFeature : ∀ c w, R w (b.disposeFeature c w)
  showError : ∀ c message w, R w (b.showError c message w)

/-- What goes along a relation goes along a weaker one. -/
lemma Behaviour.Within.mono {R R' : Workspace A → Workspace A → Prop} {b : Behaviour A}
    (within : b.Within R) (weaker : ∀ {w w'}, R w w' → R' w w') : b.Within R' where
  request i list page w := weaker (within.request i list page w)
  renderError i list message w := weaker (within.renderError i list message w)
  releaseView i view w := weaker (within.releaseView i view w)
  listen i event w := weaker (within.listen i event w)
  disposeFeature c w := weaker (within.disposeFeature c w)
  showError c message w := weaker (within.showError c message w)

/-- All calls of an application go along a relation. -/
structure Reactions.Within (R : Workspace A → Workspace A → Prop) (r : Reactions A) : Prop where
  lists : r.toBehaviour.Within R
  render : ∀ i list context w, R w (r.render i list context w).1
  run : ∀ m w, R w (r.run m w).1
  resume : ∀ m w, R w (r.resume m w).1

/-- A relation holds between the workspace before and after whatever can be done to a page controller
from outside: leaving it alone, and the calls of page controllers by an application that goes along the
relation itself. -/
structure Customary (index : Nat) (R : Workspace A → Workspace A → Prop) : Prop where
  refl : ∀ w, R w w
  trans : ∀ {w w' w''}, R w w' → R w' w'' → R w w''
  apart : ∀ {w w'}, w.Apart index w' → R w w'
  runList : ∀ {b : Behaviour A}, b.Within R → ∀ w i list parameters,
    R w (w.runList b i list parameters)
  changePage : ∀ {b : Behaviour A}, b.Within R → ∀ w i page, R w (w.changePage b i page)
  showFailure : ∀ {b : Behaviour A}, b.Within R → ∀ w i page message,
    R w (w.showFailure b i page message)
  closeList : ∀ {b : Behaviour A}, b.Within R → ∀ w i, R w (w.closeList b i)

/-- An application does to a page controller only what can be done from outside. -/
def Reactions.Courteous (index : Nat) (r : Reactions A) : Prop :=
  ∀ R, Customary index R → r.Within R

/-- So does a deed of somebody else. -/
def Workspace.Courteous (index : Nat) (f : Workspace A → Workspace A) : Prop :=
  ∀ R, Customary index R → ∀ w, R w (f w)

/-! ### Leaving a page controller alone -/

namespace Workspace

variable {index : Nat} {w w' w'' : Workspace A}

/-- Nothing happens to a page controller as long as the lists and the tasks stay the same. -/
lemma Apart.of_tasks (lists : w'.lists = w.lists) (tasks : w'.pool.tasks = w.pool.tasks)
    (next : w'.pool.next = w.pool.next) : w.Apart index w' where
  list c h := by rwa [list?, lists]
  tasks _ _ _ := by rw [tasks]
  next := Nat.le_of_eq next.symm
  tidy h := ⟨by rw [tasks, next]; exact h.below, by rw [tasks]; exact h.distinct⟩

lemma Apart.of_eq (lists : w'.lists = w.lists) (pool : w'.pool = w.pool) : w.Apart index w' :=
  .of_tasks lists (congrArg _ pool) (congrArg _ pool)

lemma Apart.trans (first : w.Apart index w') (second : w'.Apart index w'') : w.Apart index w'' where
  list c here := second.list c (first.list c here)
  tasks task work about := (second.tasks task work about).trans (first.tasks task work about)
  next := Nat.le_trans first.next second.next
  tidy := second.tidy ∘ first.tidy

lemma Unmoved.trans (first : w.Unmoved w') (second : w'.Unmoved w'') : w.Unmoved w'' where
  navigator := second.navigator.trans first.navigator
  lists := second.lists.trans first.lists
  pool := second.pool.trans first.pool

lemma Unmoved.refl (w : Workspace A) : w.Unmoved w := ⟨rfl, rfl, rfl⟩

lemma list?_setList_self {c d : PageController A.Listing A.View} (h : w.list? index = some c) :
    (w.setList index d).list? index = some d := by
  simp only [list?, setList, List.getElem?_modify_eq] at h ⊢
  obtain ⟨desk, found, -⟩ := Option.map_eq_some_iff.mp h
  rw [found]
  rfl

lemma list?_setList_ne {i : Nat} {d : PageController A.Listing A.View} (other : i ≠ index) :
    (w.setList i d).list? index = w.list? index := by
  simp only [list?, setList, List.getElem?_modify_ne _ _ other]

/-- Another page controller can be changed. -/
lemma Apart.setList {i : Nat} {d : PageController A.Listing A.View} (other : i ≠ index) :
    w.Apart index (w.setList i d) where
  list c h := by rwa [list?_setList_ne other]
  tasks _ _ _ := Iff.rfl
  next := Nat.le_refl _
  tidy h := h

end Workspace

/-- A task that is added has a number of its own. -/
lemma TaskPool.Tidy.spawn {p p' : TaskPool} {work : Work} (tidy : p.Tidy)
    (added : p.spawn? work = some p') : p'.Tidy := by
  unfold TaskPool.spawn? at added
  split at added
  · obtain rfl := Option.some.inj added
    constructor
    · intro e mem
      rcases List.mem_append.mp mem with mem | mem
      · exact Nat.lt_succ_of_lt (tidy.below e mem)
      · obtain rfl := List.mem_singleton.mp mem
        exact Nat.lt_succ_self _
    · have new : p.next ∉ p.tasks.map Prod.fst := by
        intro mem
        obtain ⟨e, mem, same⟩ := List.mem_map.mp mem
        exact absurd (tidy.below e mem) (by omega)
      rw [List.map_append, List.nodup_append]
      refine ⟨tidy.distinct, by simp, fun a mem b mem' => ?_⟩
      obtain rfl : b = p.next := by simpa using mem'
      rintro rfl
      exact new mem
  · cases added

/-- What a task that is added does to the tasks. -/
lemma TaskPool.spawn?_eq_some {p p' : TaskPool} {work : Work} (added : p.spawn? work = some p') :
    p'.tasks = p.tasks ++ [(p.next, work)] ∧ p'.next = p.next + 1 := by
  unfold TaskPool.spawn? at added
  split at added
  · obtain rfl := Option.some.inj added
    exact ⟨rfl, rfl⟩
  · cases added

/-- What becomes of a workspace in which a task was added. -/
lemma Workspace.spawn_eq_ok {w w' : Workspace A} {work : Work} (added : w.spawn work = .ok w') :
    ∃ pool, w.pool.spawn? work = some pool ∧ w' = { w with pool } := by
  unfold Workspace.spawn at added
  split at added
  · rename_i pool found
    exact ⟨pool, found, (Except.ok.inj added).symm⟩
  · cases added

/-- A task about something else can be added. -/
lemma Workspace.Apart.spawn {index : Nat} {w w' : Workspace A} {work : Work}
    (other : work.isAbout index = false) (added : w.spawn work = .ok w') : w.Apart index w' := by
  obtain ⟨pool, found, rfl⟩ := Workspace.spawn_eq_ok added
  obtain ⟨tasks, next⟩ := TaskPool.spawn?_eq_some found
  refine ⟨fun c h => h, fun task work' about => ?_, ?_, fun tidy => tidy.spawn found⟩
  · show (task, work') ∈ pool.tasks ↔ _
    rw [tasks, List.mem_append, List.mem_singleton]
    constructor
    · rintro (mem | same)
      · exact mem
      · obtain ⟨-, rfl⟩ := Prod.mk.inj same
        rw [other] at about
        cases about
    · exact .inl
  · show w.pool.next ≤ pool.next
    omega

/-! ### The work of the navigator -/

/-- A relation goes along what the navigator wants done. -/
structure Behaviour.Serves (R : Workspace A → Workspace A → Prop) (b : Behaviour A) : Prop where
  refl : ∀ w, R w w
  trans : ∀ {w w' w''}, R w w' → R w' w'' → R w w''
  quiet : ∀ {w w'}, w.Quiet w' → R w w'
  perform : ∀ w effect, R w (w.perform b effect)

/-- A relation goes along what the navigator wants done and what its middlewares do. -/
structure Reactions.Serves (R : Workspace A → Workspace A → Prop) (r : Reactions A) : Prop where
  lists : r.toBehaviour.Serves R
  run : ∀ m w, R w (r.run m w).1
  resume : ∀ m w, R w (r.resume m w).1

namespace Behaviour.Serves

variable {R : Workspace A → Workspace A → Prop} {b : Behaviour A} (serves : b.Serves R)
include serves

/-- All that the navigator wants done. -/
lemma flush (w : Workspace A) : R w (w.flush b) := by
  have performed : ∀ (effects : List (Effect (Controller A.Feature))) (w : Workspace A),
      R w (effects.foldl (Workspace.perform b) w) := by
    intro effects
    induction effects with
    | nil => exact serves.refl
    | cons effect rest ih =>
      intro w
      exact serves.trans (serves.perform w effect) (ih _)
  have collected : R w { w with navigator := w.navigator.collect.1 } :=
    serves.quiet ⟨rfl, rfl, rfl⟩
  exact serves.trans collected (performed w.navigator.collect.2 _)

lemma attach (w : Workspace A) (c : Controller A.Feature) : R w (w.attach b c) := by
  unfold Workspace.attach
  split
  · rename_i context _
    rcases context.attach c with ⟨context', _ | previous⟩
    · exact serves.quiet ⟨rfl, rfl, rfl⟩
    · have put : R w { w with detached := some context' } := serves.quiet ⟨rfl, rfl, rfl⟩
      exact serves.trans put (serves.perform _ _)
  · have put : R w { w with navigator := w.navigator.attach c } := serves.quiet ⟨rfl, rfl, rfl⟩
    exact serves.trans put (serves.flush _)

end Behaviour.Serves

namespace Reactions.Serves

variable {R : Workspace A → Workspace A → Prop} {r : Reactions A} (serves : r.Serves R)
include serves

lemma stepped (w : Workspace A)
    (p : Navigator.Progress A.Middleware (Controller A.Feature) A.Past) :
    R w (w.stepped r p).1 := by
  have taken : R w { w with navigator := p.1 } := serves.lists.quiet ⟨rfl, rfl, rfl⟩
  exact serves.lists.trans taken (serves.lists.flush _)

/-- Running the navigation in progress. -/
lemma advance (fuel : Nat) (w : Workspace A) : R w (w.advance r fuel).1 := by
  have trans := @serves.lists.trans
  induction fuel generalizing w with
  | zero =>
    rw [Workspace.advance]
    exact serves.lists.refl w
  | succ fuel ih =>
    unfold Workspace.advance
    dsimp only
    -- After a step there is an outcome, or the navigation runs on.
    split
    · have went := serves.stepped w w.navigator.resume
      rcases step : w.stepped r w.navigator.resume with ⟨w', _ | outcome⟩ <;> rw [step] at went
      · exact trans went (ih w')
      · exact went
    · rename_i m _ _
      have ran := serves.run m w
      rcases step : r.run m w with ⟨w', _ | action⟩ <;> rw [step] at ran
      · exact ran
      · have answered := serves.stepped w' (w'.navigator.answer action)
        dsimp only
        rcases step : w'.stepped r (w'.navigator.answer action) with ⟨w'', _ | outcome⟩ <;>
          rw [step] at answered
        · exact trans ran (trans answered (ih w''))
        · exact trans ran answered
    · exact serves.lists.refl w

/-- Going on with a navigation whose middleware has waited. -/
lemma goOn (fuel : Nat) (w : Workspace A) : R w (w.resume r fuel).1 := by
  have trans := @serves.lists.trans
  unfold Workspace.resume
  split
  · exact serves.lists.refl w
  · rename_i m _
    have ran := serves.resume m w
    rcases step : r.resume m w with ⟨w', _ | action⟩ <;> rw [step] at ran
    · exact ran
    · have answered := serves.stepped w' (w'.navigator.answer action)
      dsimp only
      rcases step : w'.stepped r (w'.navigator.answer action) with ⟨w'', _ | outcome⟩ <;>
        rw [step] at answered
      · exact trans ran (trans answered (serves.advance fuel w''))
      · exact trans ran answered

/-- Asking for a navigation and running it. -/
lemma navigate (fuel : Nat) (w : Workspace A) (kind : Kind) (url : String) :
    R w (w.navigate r fuel kind url).1 := by
  unfold Workspace.navigate
  have asked := serves.stepped w (w.navigator.request kind url)
  rcases step : w.stepped r (w.navigator.request kind url) with ⟨w', _ | outcome⟩ <;>
    rw [step] at asked
  · exact serves.lists.trans asked (serves.advance fuel w')
  · exact asked

/-- A call outside of all tasks. -/
lemma callNow (fuel : Nat) (w : Workspace A) (call : Call) : R w (w.callNow r fuel call).1 := by
  unfold Workspace.callNow
  split
  · exact serves.lists.refl w
  · rename_i kind url _
    have gone := serves.navigate fuel w kind url
    rcases step : w.navigate r fuel kind url with ⟨w', _ | outcome⟩ <;> rw [step] at gone
    · have given : R w' { w' with navigator := w'.navigator.abandon } :=
        serves.lists.quiet ⟨rfl, rfl, rfl⟩
      exact serves.lists.trans gone given
    · exact gone

end Reactions.Serves

namespace Customary

variable {index : Nat} {R : Workspace A → Workspace A → Prop} (customary : Customary index R)
include customary

/-- A step that leaves all lists and tasks as they are. -/
lemma still {w w' : Workspace A} (lists : w'.lists = w.lists) (pool : w'.pool = w.pool) : R w w' :=
  customary.apart (.of_eq lists pool)

/-- What the navigator wants done. -/
lemma perform {b : Behaviour A} (within : b.Within R) (w : Workspace A)
    (effect : Effect (Controller A.Feature)) : R w (w.perform b effect) := by
  rcases effect with record | (c | i) | ⟨c | i, message⟩
  · exact customary.still rfl rfl
  · exact within.disposeFeature c w
  · exact customary.closeList within w i
  · exact within.showError c message w
  · exact customary.showFailure within w i 0 message

/-- What is customary goes along what the navigator wants done. -/
lemma lists {b : Behaviour A} (within : b.Within R) : b.Serves R where
  refl := customary.refl
  trans := customary.trans
  quiet quiet := customary.still quiet.lists quiet.pool
  perform := customary.perform within

/-- It goes along all of the navigator's work. -/
lemma serves {r : Reactions A} (within : r.Within R) : r.Serves R :=
  ⟨customary.lists within.lists, within.run, within.resume⟩

lemma flush {b : Behaviour A} (within : b.Within R) (w : Workspace A) : R w (w.flush b) :=
  (customary.lists within).flush w

lemma attach {b : Behaviour A} (within : b.Within R) (w : Workspace A) (c : Controller A.Feature) :
    R w (w.attach b c) :=
  (customary.lists within).attach w c

lemma resume {r : Reactions A} (within : r.Within R) (fuel : Nat) (w : Workspace A) :
    R w (w.resume r fuel).1 :=
  (customary.serves within).goOn fuel w

lemma navigate {r : Reactions A} (within : r.Within R) (fuel : Nat) (w : Workspace A) (kind : Kind)
    (url : String) : R w (w.navigate r fuel kind url).1 :=
  (customary.serves within).navigate fuel w kind url

lemma callNow {r : Reactions A} (within : r.Within R) (fuel : Nat) (w : Workspace A) (call : Call) :
    R w (w.callNow r fuel call).1 :=
  (customary.serves within).callNow fuel w call

end Customary

/-- Whoever calls the navigator of a courteous application is courteous. -/
lemma Reactions.Courteous.callNow {index : Nat} {r : Reactions A} (courteous : r.Courteous index)
    (fuel : Nat) (call : Call) : Workspace.Courteous index fun w => (w.callNow r fuel call).1 :=
  fun R customary w => customary.callNow (courteous R customary) fuel w call

end Wayfinder
