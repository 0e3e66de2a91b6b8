/-
Detours to the last page.

A page controller whose answer is past the last page of its list makes a detour: the task that has
taken the answer asks the navigator to go to the last page, and waits until the navigation comes to an
outcome. Then it looks at the outcome and at whether the controller is still there, and at nothing else.
So what the controller was asked for in the meantime is left alone only if the navigator has gone there
or has queued the request, or if nobody holds the controller any more; otherwise the last page is asked
for over it, as if nothing had happened.

* `Workspace.Straight`: no detour is added, which is customary.
* `Workspace.Diverts`, `Workspace.Decides`: the turns in which a detour begins and ends.
* `sent_before`: every detour began with the answer to a request that was the latest one then.
* `detour_outcome`: what the end of a detour does.
-/
import Wayfinder.Proofs.LastRequest
import Wayfinder.Proofs.Thrift

namespace Wayfinder

variable {A : Application}

namespace Workspace

/-- No page controller with the index is sent on a detour. -/
def Straight (index : Nat) (w w' : Workspace A) : Prop :=
  ∀ task last, (task, .navigate (.reload index last)) ∈ w'.pool.tasks →
    (task, .navigate (.reload index last)) ∈ w.pool.tasks

/-- The turn of a task sends a page controller on a detour to the last page of its list: the task takes
the answer to the latest request, whose number is `n`. -/
structure Diverts (w : Workspace A) (index n last fuel task : Nat)
    (c : PageController A.Listing A.View) : Prop where
  /-- The controller is there. -/
  here : w.list? index = some c
  /-- It has a list. -/
  listed : c.list.isSome = true
  /-- The request is the latest one. -/
  counts : c.isStale n = false
  /-- It is the first detour of the controller. -/
  first : c.redirected = false
  /-- The answer says that the page is past the last one. -/
  past : ∃ page result, w.Takes index (.task fuel task) n page result ∧ result.totalPages = last ∧
    0 < last ∧ last < page

/-- The turn of a task brings the detour of a page controller to an outcome; `w'` is the workspace once
the navigation has come to it. -/
inductive Decides (r : Reactions A) (fuel task : Nat) (w : Workspace A) (index last : Nat)
    (w' : Workspace A) (outcome : Outcome) : Prop
  /-- The navigation had waited. -/
  | resumed (found : w.pool.tasks.lookup task = some (.navigate (.reload index last)))
      (ran : w.resume r fuel = (w', some outcome))
  /-- The navigation was asked for just now. -/
  | asked {s page fetch : Nat} {answer : Except FetchError PageResult} {url : String}
      {w₁ : Workspace A} (found : w.pool.tasks.lookup task = some (.load index s page fetch))
      (answered : w.answers.lookup fetch = some answer)
      (alive : (w.takeAnswer fetch).listAlive index = true)
      (completed : (w.takeAnswer fetch).complete r.toBehaviour r.render index s page answer =
        (w₁, some (url, last)))
      (ran : { w₁ with pool := w₁.pool.set task (.navigate (.reload index last)) }.navigate r fuel
        .replace url = (w', some outcome))

variable {r : Reactions A} {b : Behaviour A} {w w' w'' : Workspace A} {index i : Nat}
  {c c' : PageController A.Listing A.View} {turns : List (Turn A)}

/-! ### No detours -/

namespace Straight

lemma of_subset (tasks : w'.pool.tasks ⊆ w.pool.tasks) : w.Straight index w' :=
  fun _ _ mem => tasks mem

lemma refl (w : Workspace A) : w.Straight index w := .of_subset (List.Subset.refl _)

lemma trans (first : w.Straight index w') (second : w'.Straight index w'') : w.Straight index w'' :=
  fun task last mem => first task last (second task last mem)

lemma quiet (quiet : w.Quiet w') : w.Straight index w' :=
  .of_subset (by rw [quiet.pool]; exact List.Subset.refl _)

lemma setList (w : Workspace A) (i : Nat) (c : PageController A.Listing A.View) :
    w.Straight index (w.setList i c) :=
  .refl w

/-- A task that is added is none that is on a detour. -/
lemma spawn {work : Work} (other : ∀ last, work ≠ .navigate (.reload index last))
    (added : w.spawn work = .ok w') : w.Straight index w' := by
  obtain ⟨pool, found, rfl⟩ := spawn_eq_ok added
  obtain ⟨tasks, -⟩ := TaskPool.spawn?_eq_some found
  intro task last mem
  replace mem : _ ∈ pool.tasks := mem
  rw [tasks] at mem
  rcases List.mem_append.mp mem with mem | mem
  · exact mem
  · obtain ⟨-, same⟩ := Prod.mk.inj (List.mem_singleton.mp mem)
    exact absurd same.symm (other last)

/-- A task is at something else from now on, or it ends. -/
lemma set {task : Nat} {work : Work} (other : ∀ last, work ≠ .navigate (.reload index last)) :
    w.Straight index { w with pool := w.pool.set task work } := by
  intro t last mem
  obtain ⟨e, mem, same⟩ := List.mem_map.mp mem
  split at same
  · exact absurd (Prod.mk.inj same).2 (other last)
  · exact same ▸ mem

lemma remove (task : Nat) : w.Straight index { w with pool := w.pool.remove task } :=
  .of_subset (List.filter_subset_self _)

lemma yielding : Yielding i (Straight (A := A) index) where
  trans := trans
  quiet := quiet
  setList {w} _ c' _ _ _ := setList w i c'

lemma displays (within : b.Within (Straight index)) (i : Nat) : b.Displays i (Straight index) :=
  ⟨within.renderError i, within.releaseView i, fun event w _ => within.listen i event w⟩

/-- A page that is asked for is waited for by a task of its own. -/
lemma load (within : b.Within (Straight index)) (w : Workspace A) (i page : Nat) :
    w.Straight index (w.load b i page) := by
  have displays := displays within i
  have asking : ∀ {w₁ w₂ fetch list} {c : PageController A.Listing A.View},
      ((w.setList i (c.awaiting page)).releaseView b i c.view).Quiet w₁ →
      b.request i list page (b.listen i (.loading page) w₁) = (w₂, fetch) → w.Straight index w₂ := by
    intro w₁ w₂ fetch list c begun asks
    have released := yielding.release displays (w.setList i (c.awaiting page)) c.view
    have asked := within.request i list page (b.listen i (.loading page) w₁)
    rw [asks] at asked
    exact (setList w i _).trans (released.trans ((quiet begun).trans
      ((within.listen i (.loading page) w₁).trans asked)))
  have loads := loads b w i page
  generalize w.load b i page = w' at loads
  cases loads with
  | idle idle => exact .refl w
  | asked here alive listed begun asks spawned =>
    exact (asking begun asks).trans (spawn (by simp) spawned)
  | refused here alive listed begun asks reported =>
    exact (asking begun asks).trans ((quiet reported).trans (yielding.showFailure displays _ page _))

/-- Nothing that can be done to page controllers from outside sends one on a detour. -/
theorem customary (index : Nat) : Customary index (Straight (A := A) index) where
  refl := .refl
  trans := .trans
  apart apart task last mem := (apart.tasks task _ (by simp [Work.isAbout])).mp mem
  runList {b} within w i list parameters := by
    have runs := runs b w i list parameters
    generalize w.runList b i list parameters = w' at runs
    cases runs with
    | idle same => exact quiet same
    | loaded page here alive => exact (setList w i _).trans (load within _ i page)
  changePage {b} within w i page := by
    have changes := changes b w i page
    generalize w.changePage b i page = w' at changes
    cases changes with
    | idle same => exact quiet same
    | loaded page same here => exact (quiet same).trans ((setList _ i _).trans (load within _ i page))
    | pushed same spawned => exact (quiet same).trans (spawn (by simp) spawned)
  showFailure within w i page message := yielding.showFailure (displays within i) w page message
  closeList within w i := yielding.closeList (displays within i) w

/-! ### Tasks -/

/-- An answer that is taken. The task that takes it is sent on its way only afterwards. -/
lemma complete (within : r.Within (Straight index)) (w : Workspace A) (i s page : Nat)
    (answer : Except FetchError PageResult) :
    w.Straight index (w.complete r.toBehaviour r.render i s page answer).1 := by
  have displays := displays within.lists i
  rcases here : w.list? i with _ | c
  · unfold Workspace.complete
    rw [here]
    exact .refl w
  have told : ∀ event records,
      w.Straight index (r.listen i event ((w.setList i { c with redirected := true }).report records)) :=
    fun event records =>
      (setList w i { c with redirected := true }).trans (within.lists.listen i event _)
  have completes : Completes r w i s page c answer _ := completes here answer
  generalize w.complete r.toBehaviour r.render i s page answer = done at completes
  cases completes with
  | stale records stale => exact .refl w
  | unlisted counts listed => exact .refl w
  | failed counts => exact yielding.showFailure displays w page _
  | redirected list records counts listed past told' reaches =>
    obtain rfl := told'
    exact told _ records
  | reloaded list records counts listed past told' =>
    obtain rfl := told'
    exact (told _ records).trans (load within.lists _ i _)
  | shown list counts listed current total =>
    exact yielding.showPage displays (within.render i) here s list _

/-- A task that has run a navigation. -/
lemma settle (within : r.Within (Straight index)) (task : Nat) (sequel : Sequel)
    (done : Workspace A × Option Outcome) : done.1.Straight index (settle r task sequel done) := by
  obtain ⟨w, _ | outcome⟩ := done
  · exact .refl w
  · have concluded : w.Straight index (w.conclude r outcome sequel) := by
      rcases conclude_cases (r := r) w outcome sequel with same | ⟨i, page, w₁, -, same, loaded⟩
      · exact quiet same
      · rw [loaded]
        exact (quiet same).trans (load within.lists w₁ i page)
    exact concluded.trans (remove task)

/-- A task that runs a navigation is the only one that may be on a new detour. -/
lemma navigateIn (within : r.Within (Straight index)) (fuel task : Nat) (w : Workspace A) (kind : Kind)
    (url : String) (sequel : Sequel) :
    Straight index { w with pool := w.pool.set task (.navigate sequel) }
      (w.navigateIn r fuel task kind url sequel) := by
  have ran := (customary index).navigate within fuel
    { w with pool := w.pool.set task (.navigate sequel) } kind url
  exact ran.trans (settle within task sequel _)

end Straight

/-- In the turn of a task, a page controller is sent on a detour by nothing but an answer past the last
page, which the task takes. -/
lemma poll_diverts (within : r.Within (Straight index)) {fuel task t last : Nat}
    (mem : (t, .navigate (.reload index last)) ∈ (w.poll r fuel task).pool.tasks) :
    (t, .navigate (.reload index last)) ∈ w.pool.tasks ∨
      t = task ∧ ∃ n c, w.Diverts index n last fuel task c := by
  have polls := polls r fuel task w
  generalize w.poll r fuel task = w' at polls mem
  cases polls with
  | idle => exact .inl mem
  | finished same => exact .inl (((Straight.quiet same).trans (.remove task)) t last mem)
  | starts found plain =>
    have other : ∀ last, Work.navigate _ ≠ .navigate (.reload index last) :=
      fun last same => plain _ _ (Work.navigate.inj same)
    exact .inl (((Straight.set other).trans (.navigateIn within fuel task _ _ _ _)) t last mem)
  | resumed found =>
    have ran := (Straight.customary index).resume within fuel w
    exact .inl ((ran.trans (.settle within task _ _)) t last mem)
  | @answered _ i s page fetch answer found answered handles =>
    have completed := Straight.complete within (w.takeAnswer fetch) i s page answer
    cases handles with
    | gone dead => exact .inl (Straight.remove (w := w.takeAnswer fetch) task t last mem)
    | done alive same ends =>
      rw [same] at completed
      exact .inl ((completed.trans (.remove task)) t last mem)
    | @sent w₁ url last' alive same =>
      rw [same] at completed
      have set := Straight.navigateIn within fuel task w₁ .replace url (.reload i last') t last mem
      obtain ⟨e, mem', put⟩ := List.mem_map.mp set
      split at put
      · -- The task itself has been sent, so the answer was past the last page.
        obtain ⟨rfl, sent⟩ := Prod.mk.inj put
        obtain ⟨rfl, rfl⟩ := Sequel.reload.inj (Work.navigate.inj sent)
        rcases here : (w.takeAnswer fetch).list? i with _ | c
        · simp [Workspace.complete, here] at same
        · have completes : Completes r (w.takeAnswer fetch) i s page c answer _ := completes here answer
          rw [same] at completes
          cases completes with
          | redirected list records counts listed past told reaches =>
            exact .inr ⟨rfl, s, c, here, by rw [listed]; rfl, counts, past.2.2, page, _,
              ⟨fuel, _, fetch, rfl, found, answered⟩, rfl, past.1, past.2.1⟩
      · exact .inl (completed t last (put ▸ mem'))

/-- In any turn, a page controller is sent on a detour by nothing else. -/
lemma turn_diverts (courteous : r.Courteous index) {u : Turn A} (polite : u.Courteous index)
    {task last : Nat} (mem : (task, .navigate (.reload index last)) ∈ (w.turn r u).pool.tasks) :
    (task, .navigate (.reload index last)) ∈ w.pool.tasks ∨
      ∃ fuel n c, u = .task fuel task ∧ w.Diverts index n last fuel task c := by
  have customary := Straight.customary (A := A) index
  have within := courteous _ customary
  cases u with
  | run i list parameters => exact .inl (customary.runList within.lists w i list parameters _ _ mem)
  | changePage i page => exact .inl (customary.changePage within.lists w i page _ _ mem)
  | showError i message => exact .inl (customary.showFailure within.lists w i 0 message _ _ mem)
  | close i => exact .inl (customary.closeList within.lists w i _ _ mem)
  | task fuel t =>
    rcases poll_diverts within mem with old | ⟨rfl, n, c, diverts⟩
    · exact .inl old
    · exact .inr ⟨fuel, n, c, rfl, diverts⟩
  | deliver fetch answer => exact .inl (customary.apart (Apart.deliver w fetch answer) _ _ mem)
  | closeTasks => cases mem
  | other deed => exact .inl (polite _ customary w _ _ mem)

/-- A page controller that is on a detour was sent on it in an earlier turn of the same task. -/
lemma sent_before (courteous : r.Courteous index) (unused : w.Unused index)
    (polite : ∀ u ∈ turns, u.Courteous index) {task last : Nat}
    (mem : (task, .navigate (.reload index last)) ∈ (w.after r turns).pool.tasks) :
    ∃ before fuel rest n c, turns = before ++ .task fuel task :: rest ∧
      (w.after r before).Diverts index n last fuel task c := by
  -- From the end: the task was on its detour before the last turn, or the last turn sends it.
  induction turns using List.reverseRecOn with
  | nil =>
    have about := unused.idle _ mem
    simp [Work.isAbout] at about
  | append_singleton turns u ih =>
    rw [after_append] at mem
    rcases turn_diverts courteous (polite u (by simp)) mem with old | ⟨fuel, n, c, rfl, diverts⟩
    · obtain ⟨before, fuel, rest, n, c, rfl, diverts⟩ :=
        ih (fun v mem => polite v (List.mem_append_left _ mem)) old
      exact ⟨before, fuel, rest ++ [u], n, c, by simp, diverts⟩
    · exact ⟨turns, fuel, [], n, c, rfl, diverts⟩

/-! ### The end of a detour -/

/-- What a page controller never loses, but by its end. -/
structure Persists (c c' : PageController A.Listing A.View) : Prop where
  /-- Its number does not fall. -/
  sequence : c.sequence ≤ c'.sequence
  /-- A list is kept to the end. -/
  listed : c.list.isSome = true → c'.list.isSome = true ∨ c'.status = .disposed
  /-- The end is final. -/
  disposed : c.status = .disposed → c'.status = .disposed

lemma Follows.persists {spent : List Nat} (follows : w.Follows index spent w' c c') : Persists c c' :=
  ⟨follows.sequence, follows.listed, follows.disposed⟩

lemma Persists.trans {c'' : PageController A.Listing A.View} (first : Persists c c')
    (second : Persists c' c'') : Persists c c'' where
  sequence := Nat.le_trans first.sequence second.sequence
  listed h := by
    rcases first.listed h with listed | ended
    · exact second.listed listed
    · exact .inr (second.disposed ended)
  disposed := second.disposed ∘ first.disposed

/-- A page controller persists in every run. -/
lemma persists_after (courteous : r.Courteous index) (here : w.list? index = some c)
    (tidy : w.pool.Tidy) (polite : ∀ u ∈ turns, u.Courteous index) :
    ∃ c', (w.after r turns).list? index = some c' ∧ (w.after r turns).pool.Tidy ∧ Persists c c' := by
  induction turns generalizing w c with
  | nil => exact ⟨c, here, tidy, Nat.le_refl _, .inl, id⟩
  | cons u turns ih =>
    obtain ⟨c₁, follows, -⟩ := turn_onward courteous here tidy (polite u (.head _))
    obtain ⟨c', here', tidy', persists⟩ :=
      ih follows.here follows.tidy fun v mem => polite v (.tail _ mem)
    exact ⟨c', here', tidy', follows.persists.trans persists⟩

/-- A page that is asked for has a number of its own, above all numbers before. -/
lemma load_newer (within : b.Within (Goes index)) (here : w.list? index = some c)
    (tidy : w.pool.Tidy) (alive : c.status ≠ .disposed) (listed : c.list.isSome = true) (page : Nat) :
    ∃ c', (w.load b index page).list? index = some c' ∧ c.sequence < c'.sequence := by
  obtain ⟨list, listed⟩ := Option.isSome_iff_exists.mp listed
  have begun : (w.list? index).bind (·.beginLoad page) =
      some (c.awaiting page, { sequence := c.sequence + 1, list, previous := c.view }) := by
    rw [here, Option.bind_some, PageController.beginLoad, if_neg alive, listed, Option.map_some,
      PageController.awaiting, listed]
  have rises : c.sequence < (c.awaiting page).sequence := Nat.lt_succ_self _
  obtain ⟨w₁, fetch, goes, asked, failed⟩ := load_eq within begun
  obtain ⟨c₁, follows, -⟩ := goes _ (list?_setList_self here) tidy
  have newer := Nat.lt_of_lt_of_le rises follows.sequence
  rcases spawned : w₁.spawn (.load index (c.sequence + 1) page fetch) with reason | w₂
  · obtain ⟨records, shown⟩ := failed reason spawned
    have shows := goes_showFailure within (w₁.report records) index page
      "Could not start loading the page."
    obtain ⟨c', follows', -⟩ := shows c₁ follows.here follows.tidy
    rw [shown]
    exact ⟨c', follows'.here, Nat.lt_of_lt_of_le newer follows'.sequence⟩
  · rw [asked w₂ spawned]
    obtain ⟨pool, -, rfl⟩ := spawn_eq_ok spawned
    exact ⟨c₁, follows.here, newer⟩

/-- The turn that brings a detour to an outcome is the end of the navigation and what follows from its
outcome. -/
lemma Decides.poll {fuel task last : Nat} {outcome : Outcome}
    (decides : w.Decides r fuel task index last w' outcome) :
    w.poll r fuel task = settle r task (.reload index last) (w', some outcome) := by
  cases decides with
  | resumed found ran =>
    unfold Workspace.poll
    rw [found]
    exact congrArg (settle r task _) ran
  | asked found answered alive completed ran =>
    rw [poll_sends found answered alive completed]
    exact congrArg (settle r task _) ran

/-- The end of a detour: the page controller was sent on it before, and has persisted since. -/
lemma Decides.persists {fuel task last : Nat} {outcome : Outcome} (courteous : r.Courteous index)
    (unused : w.Unused index) (polite : ∀ u ∈ turns, u.Courteous index)
    (decides : (w.after r turns).Decides r fuel task index last w' outcome) :
    ∃ before t rest n d c, turns ++ [.task fuel task] = before ++ .task t task :: rest ∧
      (w.after r before).Diverts index n last t task d ∧ w'.list? index = some c ∧ w'.pool.Tidy ∧
      Persists d c := by
  have within := courteous _ (customary_goes index)
  obtain ⟨pageKey, made⟩ := unused.made
  obtain ⟨c₁, here₁, tidy₁, -⟩ := persists_after courteous made unused.tidy polite
  cases decides with
  | resumed found ran =>
    -- The run is cut where the task was sent: up to there nothing matters, from there on all persists.
    obtain ⟨before, t, rest, n, d, rfl, diverts⟩ :=
      sent_before courteous unused polite (TaskPool.mem_of_lookup found)
    obtain ⟨d', here', tidy', -⟩ := persists_after courteous made unused.tidy fun u mem =>
      polite u (List.mem_append_left _ mem)
    obtain rfl := Option.some.inj (diverts.here.symm.trans here')
    obtain ⟨c₂, here₂, -, persists⟩ := persists_after courteous here' tidy' fun u mem =>
      polite u (List.mem_append_right before mem)
    rw [← after_append] at here₂
    obtain rfl := Option.some.inj (here₁.symm.trans here₂)
    obtain ⟨c, follows, -⟩ := (customary_goes index).resume within fuel _ c₁ here₁ tidy₁
    rw [ran] at follows
    exact ⟨before, t, rest ++ [.task fuel task], n, d, c, by simp, diverts, follows.here, follows.tidy,
      persists.trans follows.persists⟩
  | @asked s page fetch answer url w₁ found answered alive completed ran =>
    have here₁' : ((w.after r turns).takeAnswer fetch).list? index = some c₁ := here₁
    have completes : Completes r ((w.after r turns).takeAnswer fetch) index s page c₁ answer _ :=
      completes here₁' answer
    rw [completed] at completes
    cases completes with
    | @redirected result _ list records counts listed past told reaches =>
      -- The same turn has taken the answer, so only the navigation lies between.
      have diverts : (w.after r turns).Diverts index s _ fuel task c₁ :=
        ⟨here₁, by rw [listed]; rfl, counts, past.2.2, page, _,
          ⟨fuel, task, fetch, rfl, found, answered⟩, rfl, past.1, past.2.1⟩
      obtain ⟨c₂, follows, -⟩ := goes_redirected within here₁' list records c₁ here₁' tidy₁
      rw [← told] at follows
      let w₂ : Workspace A :=
        { w₁ with pool := w₁.pool.set task (.navigate (.reload index result.totalPages)) }
      obtain ⟨c, follows', -⟩ :=
        (customary_goes index).navigate within fuel w₂ .replace _ c₂ follows.here follows.tidy.set
      rw [ran] at follows'
      exact ⟨turns, fuel, [], s, c₁, c, rfl, diverts, follows'.here, follows'.tidy,
        follows.persists.trans follows'.persists⟩

/-! ### Results -/

/-- What the end of a detour does. Let a courteous application drive a page controller in any way, and
let the turn of a task bring a detour of the controller to an outcome. Then an earlier turn of that task,
or the same one, has taken the answer to the request that was the latest one then, number `n`; whatever
the controller was asked for since, its number is now that or a higher one.

If the navigator has gone to the last page or has queued the request, the task ends, and that is all. If
it has not, this is written into the log; nothing else happens if nobody holds the controller or if it is
at its end. But in all other cases the last page is asked for, also if a newer request was made in the
meantime: the number of the controller rises once more, so that the answer to the newer request will come
too late. -/
theorem detour_outcome (courteous : r.Courteous index) (unused : w.Unused index)
    (polite : ∀ u ∈ turns, u.Courteous index) {fuel task last : Nat} {outcome : Outcome}
    (decides : (w.after r turns).Decides r fuel task index last w' outcome) :
    let w'' := w.after r (turns ++ [.task fuel task])
    let taken := outcome.isSuccess || outcome.isQueued
    ∃ before t rest n d c, turns ++ [.task fuel task] = before ++ .task t task :: rest ∧
      (w.after r before).Diverts index n last t task d ∧ w'.list? index = some c ∧ n ≤ c.sequence ∧
      (taken = true → w'' = { w' with pool := w'.pool.remove task }) ∧
      (taken = false → ∃ records,
        (w'.listAlive index = false ∨ c.status = .disposed →
          w'' = { w'.report records with pool := w'.pool.remove task }) ∧
        (w'.listAlive index = true → c.status ≠ .disposed →
          ∃ w₁ c', Loads r.toBehaviour (w'.report records) index last w₁ ∧
            w'' = { w₁ with pool := w₁.pool.remove task } ∧
            w''.list? index = some c' ∧ c.sequence < c'.sequence)) := by
  intro w'' taken
  have within := courteous _ (customary_goes index)
  obtain ⟨before, t, rest, n, d, c, split, diverts, here, tidy, persists⟩ :=
    decides.persists courteous unused polite
  have latest : n = d.sequence := by
    have counts := diverts.counts
    simp only [PageController.isStale, Bool.or_eq_false_iff, bne_eq_false_iff_eq] at counts
    exact counts.2.symm
  have ends : w'' = settle r task (.reload index last) (w', some outcome) := by
    have last_turn : w'' = (w.after r turns).poll r fuel task := after_append ..
    rw [last_turn, decides.poll]
  refine ⟨before, t, rest, n, d, c, split, diverts, here, latest ▸ persists.sequence,
    fun content => ?_, fun refused => ?_⟩
  · rw [ends, settle, conclude, if_pos content]
  · obtain ⟨records, same⟩ : ∃ records, w'.conclude r outcome (.reload index last) =
        if w'.listAlive index then (w'.report records).load r.toBehaviour index last
        else w'.report records := by
      rw [conclude, if_neg (Bool.eq_false_iff.mp refused)]
      exact ⟨_, rfl⟩
    refine ⟨records, fun spared => ?_, fun held alive => ?_⟩
    · have idle : w'.conclude r outcome (.reload index last) = w'.report records := by
        rw [same]
        rcases spared with gone | ended
        · rw [if_neg (Bool.eq_false_iff.mp gone)]
        · have none : ((w'.report records).list? index).bind (·.beginLoad last) = none := by
            rw [show (w'.report records).list? index = some c from here, Option.bind_some,
              PageController.beginLoad, if_pos ended]
          rw [load, none, ite_self]
      rw [ends, settle, idle]
      rfl
    · have listed := (persists.listed diverts.listed).resolve_right alive
      have here' : (w'.report records).list? index = some c := here
      obtain ⟨c', newest, newer⟩ := load_newer within.lists here' tidy alive listed last
      have result : w'' = { (w'.report records).load r.toBehaviour index last with
          pool := ((w'.report records).load r.toBehaviour index last).pool.remove task } := by
        rw [ends, settle, same, if_pos held]
      exact ⟨_, c', loads _ _ index last, result, by rw [result]; exact newest, newer⟩

/-- A list is run again while its detour to the last page waits at a gate. When the exit chain refuses
the detour, the last page is asked for over the page of the newer run. -/
theorem detour_outcome_overtaken :
    let s : Setup Session.Middleware (Controller Session.Recorder) Session.Past :=
      { routes := [{ (Route.catchAll : Route Session.Middleware) with
          exit := [{ number := 0, deed := .gate "prompt", times := some 1 },
            { number := 1, deed := .deny "stay" }] }]
        history := {} }
    let list : Session.Listing := { script := {}, parameters := .empty, run := 0 }
    let run (page : String) : Turn Session.application :=
      .run 0 list (Parameters.empty.insert "page" page)
    let turns : List (Turn Session.application) :=
      [.other fun w => (w.callNow Session.reactions 9 (.start "/items")).1, run "10",
        .deliver 0 (.ok { items := [], totalPages := 3, claimedPage := 10 }), .task 9 0, run "2"]
    ∃ n, s.build = .ok n ∧
      let w := (Session.newList (Session.desk n {}) "items").1
      ((w.after Session.reactions turns).list? 0).map (fun c => (c.sequence, c.status)) =
        some (2, .loading 2) ∧
      ∃ w' w₁ records, (w.after Session.reactions turns).Decides Session.reactions 9 0 0 3 w'
          (.blocked "stay" none) ∧
        Loads Session.behaviour (w'.report records) 0 3 w₁ ∧
        ((w.after Session.reactions (turns ++ [.task 9 0])).list? 0).map
          (fun c => (c.sequence, c.status)) = some (3, .loading 3) := by
  intro s list run turns
  refine ⟨_, rfl, ?_⟩
  intro w
  have unused : w.Unused 0 := ⟨⟨"page", rfl⟩, nofun, nofun, .nil⟩
  have polite : ∀ u ∈ turns, u.Courteous 0 := by
    have start := (Session.courteous_reactions 0).callNow 9 (.start "/items")
    simpa [turns, run, Turn.Courteous] using start
  let w₀ := w.after Session.reactions turns
  have refused : (w₀.resume Session.reactions 9).2 = some (.blocked "stay" none) := by decide
  have status : ((w₀.resume Session.reactions 9).1.list? 0).map (·.status) = some (.loading 2) := by
    decide
  have held : (w₀.resume Session.reactions 9).1.listAlive 0 = true := by decide
  -- From here on the workspace after the navigation is known by these facts only.
  rcases ran : w₀.resume Session.reactions 9 with ⟨w', outcome⟩
  rw [ran] at refused status held
  obtain rfl : outcome = some (.blocked "stay" none) := refused
  have decides : w₀.Decides Session.reactions 9 0 0 3 w' (.blocked "stay" none) :=
    .resumed (by decide) ran
  obtain ⟨-, -, -, -, -, c, -, -, here, -, -, overrides⟩ :=
    detour_outcome (Session.courteous_reactions 0) unused polite decides
  obtain ⟨records, -, loads⟩ := overrides rfl
  have alive : c.status ≠ .disposed := by
    rw [here] at status
    intro ended
    cases ended.symm.trans (Option.some.inj status)
  obtain ⟨w₁, -, loads, -⟩ := loads held alive
  exact ⟨by decide, w', w₁, records, decides, loads, by decide⟩

/-- A list of an active page is run again while its detour to the last page waits in the exit chain. The
chain refuses the detour, and the page of the newer run is loaded no more: page three is asked for in
its place. -/
theorem newer_request_overridden :
    let s : Setup Session.Middleware (Controller Session.Recorder) Session.Past :=
      { routes := [{ (Route.catchAll : Route Session.Middleware) with
          entry := [{ number := 0, deed := .set "page" "10" },
            { number := 1, deed := .list "items" { start := "/items/" } }]
          exit := [{ number := 2, deed := .gate "prompt", times := some 1 },
            { number := 3, deed := .deny "stay" }] }]
        history := {} }
    let before : List (Session.Step × Bool) :=
      [(.call [.start "/items/page=10"], false),
        (.reply 10 (.ok { items := [], totalPages := 3, claimedPage := 10 }), false),
        (.runList 0 { start := "/items/" } (Parameters.empty.insert "page" "2"), false)]
    ∃ n, s.build = .ok n ∧
      let w := (Session.run (Session.desk n {}) before).1
      let w' := (Session.run w [(.openGate "prompt", false)]).1
      w.navigator.phase = .exiting ∧ w.state.pending.map (·.2.2) = [2] ∧
        (w.list? 0).map (fun c => (c.sequence, c.status)) = some (2, .loading 2) ∧
        w'.navigator.phase = .idle ∧ w'.state.pending.map (·.2.2) = [2, 3] ∧
        (w'.list? 0).map (fun c => (c.sequence, c.status)) = some (3, .loading 3) := by
  intro s before
  exact ⟨_, rfl, by decide, by decide, by decide, by decide, by decide, by decide⟩

end Workspace

end Wayfinder
