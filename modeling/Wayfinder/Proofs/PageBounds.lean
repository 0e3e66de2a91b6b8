/-
Pages within bounds.

A page controller counts its pages from one, whatever the parameters, the application or earlier answers
say (`Workspace.Positive`). When it takes an answer, the number of pages in the answer bounds the page
that was asked for: the first time it is past the last one the controller goes to that instead, and
otherwise the page that is shown, the number in the parameters, the status and the event are all the
same page within the bounds (`pages_within_bounds`).

* `Workspace.Counts`, `customs_counts`: whatever is customary, pages are counted from one.
* `Workspace.LeadsToLast`, `Workspace.Renders`: what an answer can lead to.
* `complete_ok`: which of them it leads to.
-/
import Wayfinder.Proofs.Paging

namespace Wayfinder

variable {A : Application}

/-- The page that a task about a page controller waits for, or may have to load. -/
def Work.page? (index : Nat) : Work → Option Nat
  | .load i _ page _ => if i = index then some page else none
  | .navigate (.reload i page) => if i = index then some page else none
  | _ => none

lemma Work.isAbout_of_page? {index page : Nat} {work : Work}
    (found : work.page? index = some page) : work.isAbout index = true := by
  cases work with
  | load i s page fetch =>
    obtain ⟨own, -⟩ := Option.ite_none_right_eq_some.mp found
    exact beq_iff_eq.mpr own
  | navigate sequel =>
    cases sequel with
    | reload i page =>
      obtain ⟨own, -⟩ := Option.ite_none_right_eq_some.mp found
      exact beq_iff_eq.mpr own
    | _ => cases found
  | _ => cases found

namespace Workspace

variable {κ : Charter A} {w w' w'' : Workspace A} {c c' : PageController A.Listing A.View}
  {entries : List (Minute A.View)} {b : Behaviour A} {r : Reactions A}

/-! ### Pages are counted from one -/

/-- Every page that a page controller has asked for, or that a task waits for or may have to load, has a
number from one on, and there is such a task only if the controller has a list or needs none any more. -/
structure Positive (κ : Charter A) (c : PageController A.Listing A.View) (w : Workspace A) : Prop where
  here : w.list? κ.index = some c
  fetched : ∀ page, .fetched page ∈ κ.minutes w.state → 1 ≤ page
  tasks : ∀ task work page, (task, work) ∈ w.pool.tasks → work.page? κ.index = some page →
    1 ≤ page ∧ c.Listed

/-- Pages go on being counted from one, and a list is not lost. -/
def Counts (κ : Charter A) (w w' : Workspace A) : Prop :=
  ∀ c, w.Positive κ c → ∃ c', w'.Positive κ c' ∧ (c.Listed → c'.Listed)

lemma Counts.trans (first : w.Counts κ w') (second : w'.Counts κ w'') : w.Counts κ w'' := by
  intro c positive
  obtain ⟨c', positive', listed⟩ := first c positive
  obtain ⟨c'', positive'', listed'⟩ := second c' positive'
  exact ⟨c'', positive'', listed' ∘ listed⟩

/-- Something is written down, and the controller is left alone. -/
lemma Counts.notes (notes : w.Notes κ entries w')
    (pages : ∀ page, .fetched page ∈ entries → 1 ≤ page) : w.Counts κ w' := by
  intro c positive
  refine ⟨c, ⟨notes.apart.list c positive.here, fun page mem => ?_,
    fun task work page mem asks => ?_⟩, id⟩
  · rw [notes.minutes, List.mem_append] at mem
    exact mem.elim (positive.fetched page) (pages page)
  · have mem := (notes.apart.tasks task work (Work.isAbout_of_page? asks)).mp mem
    exact positive.tasks task work page mem asks

lemma Counts.aside (notes : w.Notes κ [] w') : w.Counts κ w' := .notes notes nofun

lemma Counts.quiet (quiet : w.Quiet w') : w.Counts κ w' := .aside quiet.notes

/-- The controller is changed and keeps its list. -/
lemma Counts.setList (here : w.list? κ.index = some c) (listed : c.Listed → c'.Listed) :
    w.Counts κ (w.setList κ.index c') := by
  intro d positive
  obtain rfl := Option.some.inj (here.symm.trans positive.here)
  refine ⟨c', ⟨list?_setList_self here, positive.fetched, fun task work page mem asks => ?_⟩, listed⟩
  obtain ⟨one_le, old⟩ := positive.tasks task work page mem asks
  exact ⟨one_le, listed old⟩

/-- A task waits for a page. -/
lemma Positive.spawn {s page fetch : Nat} (positive : w.Positive κ c) (listed : c.Listed)
    (one_le : 1 ≤ page) (spawned : w.spawn (.load κ.index s page fetch) = .ok w') :
    w'.Positive κ c := by
  obtain ⟨pool, added, rfl⟩ := spawn_eq_ok spawned
  obtain ⟨tasks, -⟩ := TaskPool.spawn?_eq_some added
  refine ⟨positive.here, positive.fetched, fun task work page' mem asks => ?_⟩
  rw [show ({ w with pool } : Workspace A).pool.tasks = _ from tasks] at mem
  rcases List.mem_append.mp mem with old | new
  · exact positive.tasks task work page' old asks
  · obtain ⟨-, rfl⟩ := Prod.mk.inj (List.mem_singleton.mp new)
    obtain ⟨-, same⟩ := Option.ite_none_right_eq_some.mp asks
    exact ⟨Option.some.inj same ▸ one_le, listed⟩

lemma Counts.makes {view : A.View} (makes : w.Makes κ (Counts κ) view w') : w.Counts κ w' := by
  obtain ⟨w₁, w₂, begun, goes, done⟩ := makes
  have making : w.Counts κ w₁ := .notes begun (by simp)
  exact making.trans (goes.trans (.notes done (by simp)))

section Calls

variable (minuted : b.Minuted κ fun _ => Counts κ)
include minuted

lemma displays_counts : b.Displays κ.index (Counts κ) where
  renderError list message w := by
    rcases made : b.renderError κ.index list message w with ⟨w', _ | view⟩
    · exact .aside (minuted.renderNothing list message w w' made)
    · exact .makes (minuted.renderError list message w view w' made)
  releaseView view w := by
    obtain ⟨w₁, notes, goes⟩ := minuted.releaseView view w
    exact (Counts.notes notes (by simp)).trans goes
  listen event w _ := by
    obtain ⟨w₁, notes, goes⟩ := minuted.listen event w
    exact (Counts.notes notes (by simp)).trans goes

omit minuted in
lemma yielding_counts : Yielding κ.index (Counts κ) where
  trans := Counts.trans
  quiet := .quiet
  setList here _ listed := .setList here listed

/-- A page that is loaded is one from one on. -/
lemma counts_load (w : Workspace A) {page : Nat} (one_le : 1 ≤ page) :
    w.Counts κ (w.load b κ.index page) := by
  have displays := displays_counts minuted
  have asking : ∀ {w₁ w₂ : Workspace A} {fetch list} {c : PageController A.Listing A.View},
      w.list? κ.index = some c →
      ((w.setList κ.index (c.awaiting page)).releaseView b κ.index c.view).Quiet w₁ →
      b.request κ.index list page (b.listen κ.index (.loading page) w₁) = (w₂, fetch) →
      c.status ≠ .disposed → w.Counts κ w₂ := by
    intro w₁ w₂ fetch list c here quiet asks alive
    have awaiting : w.Counts κ (w.setList κ.index (c.awaiting page)) :=
      .setList here fun listed => .inl (listed.resolve_right alive)
    have released := awaiting.trans (yielding_counts.release displays _ c.view)
    have told := displays.listen (.loading page) w₁ (by simp)
    obtain ⟨w₃, notes, goes⟩ := minuted.request list page (b.listen κ.index (.loading page) w₁)
    rw [asks] at goes
    have fetched : (b.listen κ.index (.loading page) w₁).Counts κ w₃ := by
      refine .notes notes fun page' mem => ?_
      obtain rfl := Minute.fetched.inj (List.mem_singleton.mp mem)
      exact one_le
    exact (released.trans (.quiet quiet)).trans (told.trans (fetched.trans goes))
  have loads := loads b w κ.index page
  generalize w.load b κ.index page = w' at loads
  cases loads with
  | idle idle => exact .quiet (.refl w)
  | asked here alive listed quiet asks spawned =>
    intro c positive
    obtain rfl := Option.some.inj (here.symm.trans positive.here)
    -- Whatever was called meanwhile, the controller still has a list or has ended.
    obtain ⟨c₁, positive₁, kept⟩ := asking here quiet asks alive _ positive
    have listed₁ := kept (.inl (by rw [listed]; rfl))
    exact ⟨c₁, positive₁.spawn listed₁ one_le spawned, fun _ => listed₁⟩
  | refused here alive listed quiet asks reported =>
    exact (asking here quiet asks alive).trans
      ((Counts.quiet reported).trans (yielding_counts.showFailure displays _ page _))

lemma counts_runList (w : Workspace A) (list : A.Listing) (parameters : Parameters) :
    w.Counts κ (w.runList b κ.index list parameters) := by
  have runs := runs b w κ.index list parameters
  generalize w.runList b κ.index list parameters = w' at runs
  cases runs with
  | idle quiet => exact .quiet quiet
  | loaded page here alive one_le =>
    refine .trans ?_ (counts_load minuted _ one_le)
    exact .setList here fun _ => .inl rfl

lemma counts_changePage (w : Workspace A) (page : Nat) :
    w.Counts κ (w.changePage b κ.index page) := by
  have changes := changes b w κ.index page
  generalize w.changePage b κ.index page = w' at changes
  cases changes with
  | idle quiet => exact .quiet quiet
  | loaded page quiet here one_le =>
    refine (Counts.quiet quiet).trans (.trans ?_ (counts_load minuted _ one_le))
    exact .setList ((quiet.list? κ.index).trans here) id
  | pushed quiet spawned => exact (Counts.quiet quiet).trans (.aside (.spawn rfl spawned))

end Calls

/-- Whatever is customary, pages are counted from one. -/
theorem customs_counts : Customs κ fun _ => Counts κ where
  trans := Counts.trans
  aside := .aside
  runList minuted _ _ _ _ notes list parameters :=
    (Counts.notes notes (by simp)).trans (counts_runList minuted _ list parameters)
  changePage minuted _ _ _ _ notes page :=
    (Counts.notes notes (by simp)).trans (counts_changePage minuted _ page)
  closeList minuted _ _ w := yielding_counts.closeList (displays_counts minuted) w
  showFailure minuted w page message :=
    yielding_counts.showFailure (displays_counts minuted) w page message

/-- The answer to a request leaves it so, and the last page that the navigator is sent to is one from one
on, too. -/
lemma counts_complete (minuted : r.Minuted κ fun _ => Counts κ) (here : w.list? κ.index = some c)
    (s page : Nat) (answer : Except FetchError PageResult) {sent : Option (String × Nat)}
    (completed : w.complete r.toBehaviour r.render κ.index s page answer = (w', sent)) :
    w.Counts κ w' ∧ ∀ url last, sent = some (url, last) → 1 ≤ last ∧ c.Listed := by
  have displays := displays_counts minuted.lists
  have told : ∀ page' url records, w.Counts κ (r.listen κ.index (.redirected page' url)
      ((w.setList κ.index { c with redirected := true }).report records)) := by
    intro page' url records
    let w₁ := w.setList κ.index { c with redirected := true }
    have marked : w.Counts κ w₁ := .setList here id
    have reported : w₁.Counts κ (w₁.report records) := .quiet ⟨rfl, rfl, rfl⟩
    obtain ⟨w₂, notes, goes⟩ := minuted.lists.listen (.redirected page' url) (w₁.report records)
    exact marked.trans (reported.trans ((Counts.notes notes (by simp)).trans goes))
  have completes : Completes r w κ.index s page c answer _ := completes here answer
  rw [completed] at completes
  cases completes with
  | stale records stale => exact ⟨.quiet ⟨rfl, rfl, rfl⟩, nofun⟩
  | unlisted counts listed => exact ⟨.quiet (.refl w), nofun⟩
  | failed counts => exact ⟨yielding_counts.showFailure displays w page _, nofun⟩
  | redirected list records counts listed past told' reaches =>
    obtain rfl := told'
    refine ⟨told _ _ records, fun url last same => ?_⟩
    obtain ⟨-, rfl⟩ := Prod.mk.inj (Option.some.inj same)
    exact ⟨past.1, .inl (by rw [listed]; rfl)⟩
  | reloaded list records counts listed past told' =>
    obtain rfl := told'
    exact ⟨(told _ _ records).trans (counts_load minuted.lists _ past.1), nofun⟩
  | shown list counts listed current total =>
    have rendered := fun list context w => Counts.makes (minuted.render list context w)
    exact ⟨yielding_counts.showPage displays rendered here s list _, nofun⟩

/-! ### Turns -/

/-- A task that ends takes its page with it. -/
lemma Positive.remove (positive : w.Positive κ c) (task : Nat) :
    ({ w with pool := w.pool.remove task } : Workspace A).Positive κ c :=
  ⟨positive.here, positive.fetched, fun t work page mem =>
    positive.tasks t work page (List.mem_filter.mp mem).1⟩

/-- A task runs a navigation from now on. -/
lemma Positive.set (positive : w.Positive κ c) (task : Nat) {work : Work}
    (about : ∀ page, work.page? κ.index = some page → 1 ≤ page ∧ c.Listed) :
    ({ w with pool := w.pool.set task work } : Workspace A).Positive κ c := by
  refine ⟨positive.here, positive.fetched, fun t work' page mem asks => ?_⟩
  obtain ⟨e, mem, same⟩ := List.mem_map.mp mem
  split at same
  · obtain ⟨-, rfl⟩ := Prod.mk.inj same
    exact about page asks
  · exact positive.tasks t work' page (same ▸ mem) asks

section Turns

variable (candid : r.Candid κ)
include candid

/-- A task has run a navigation, and loads the last page if it has to. -/
lemma Positive.settle {done : Workspace A × Option Outcome} (positive : done.1.Positive κ c)
    (task : Nat) (sequel : Sequel)
    (about : ∀ page, (Work.navigate sequel).page? κ.index = some page → 1 ≤ page) :
    ∃ c', (Workspace.settle r task sequel done).Positive κ c' := by
  have minuted := (candid _ customs_counts).lists
  obtain ⟨w, _ | outcome⟩ := done
  · exact ⟨c, positive⟩
  · have concludes : w.Counts κ (w.conclude r outcome sequel) := by
      rcases conclude_cases w outcome sequel with quiet | ⟨i, page, w₁, rfl, quiet, same⟩
      · exact .quiet quiet
      · rw [same]
        by_cases own : i = κ.index
        · subst own
          exact (Counts.quiet quiet).trans
            (counts_load minuted w₁ (about page (if_pos rfl)))
        · exact (Counts.quiet quiet).trans
            ((customs_counts.pliable own).load (minuted.elsewhere i own) w₁ page)
    obtain ⟨c', positive', -⟩ := concludes c positive
    exact ⟨c', positive'.remove task⟩

lemma Positive.navigateIn (positive : w.Positive κ c) (fuel task : Nat) (kind : Kind) (url : String)
    (sequel : Sequel)
    (about : ∀ page, (Work.navigate sequel).page? κ.index = some page → 1 ≤ page ∧ c.Listed) :
    ∃ c', (w.navigateIn r fuel task kind url sequel).Positive κ c' := by
  let w₁ : Workspace A := { w with pool := w.pool.set task (.navigate sequel) }
  have ran : w₁.Counts κ (w₁.navigate r fuel kind url).1 :=
    (customs_counts.serves (candid _ customs_counts)).navigate fuel w₁ kind url
  obtain ⟨c₁, positive₁, -⟩ := ran c (positive.set task about)
  exact positive₁.settle candid task sequel fun page asks => (about page asks).1

/-- The answer to a request of any controller leaves it so, too. -/
lemma counts_complete_any (here : w.list? κ.index = some c) {i s page : Nat}
    {answer : Except FetchError PageResult} {sent : Option (String × Nat)}
    (completed : w.complete r.toBehaviour r.render i s page answer = (w', sent)) :
    w.Counts κ w' ∧ ∀ url last, sent = some (url, last) →
      ∀ page, (Work.navigate (.reload i last)).page? κ.index = some page → 1 ≤ page ∧ c.Listed := by
  have minuted := candid _ customs_counts
  by_cases own : i = κ.index
  · subst own
    obtain ⟨counts, last⟩ := counts_complete minuted here s page answer completed
    refine ⟨counts, fun url n sent page asks => ?_⟩
    obtain ⟨-, same⟩ := Option.ite_none_right_eq_some.mp asks
    exact Option.some.inj same ▸ last url n sent
  · have kept := (customs_counts.pliable own).complete (minuted.lists.elsewhere i own)
      (minuted.renderElsewhere i own) w s page answer
    rw [completed] at kept
    refine ⟨kept, fun url n sent page asks => ?_⟩
    obtain ⟨same, -⟩ := Option.ite_none_right_eq_some.mp asks
    exact absurd same own

lemma Positive.poll (positive : w.Positive κ c) (fuel task : Nat) :
    ∃ c', (w.poll r fuel task).Positive κ c' := by
  have minuted := candid _ customs_counts
  have polls := polls r fuel task w
  generalize w.poll r fuel task = w' at polls
  cases polls with
  | idle => exact ⟨c, positive⟩
  | finished quiet =>
    obtain ⟨c', positive', -⟩ := Counts.quiet quiet c positive
    exact ⟨c', positive'.remove task⟩
  | @starts work kind url sequel found plain =>
    refine positive.navigateIn candid fuel task kind url sequel fun page asks => ?_
    cases sequel with
    | reload i page => exact absurd rfl (plain i page)
    | _ => cases asks
  | @resumed sequel found =>
    have ran : w.Counts κ (w.resume r fuel).1 := (customs_counts.serves minuted).goOn fuel w
    obtain ⟨c₁, positive₁, -⟩ := ran c positive
    exact positive₁.settle candid task sequel
      fun page asks => (positive.tasks task _ page found asks).1
  | @answered _ i s page fetch answer found answered handles =>
    have taken : (w.takeAnswer fetch).Positive κ c :=
      ⟨positive.here, positive.fetched, positive.tasks⟩
    cases handles with
    | gone dead => exact ⟨c, taken.remove task⟩
    | done alive completed ends =>
      obtain ⟨completes, -⟩ := counts_complete_any candid taken.here completed
      obtain ⟨c', positive', -⟩ := completes c taken
      exact ⟨c', positive'.remove task⟩
    | @sent w' url n alive completed =>
      obtain ⟨completes, last⟩ := counts_complete_any candid taken.here completed
      obtain ⟨c', positive', listed⟩ := completes c taken
      refine positive'.navigateIn candid fuel task .replace url (.reload i n) fun page asks => ?_
      obtain ⟨one_le, old⟩ := last url n rfl page asks
      exact ⟨one_le, listed old⟩

/-- One turn. -/
theorem Positive.turn (positive : w.Positive κ c) {u : Turn A} (polite : u.Candid κ) :
    ∃ c', (w.turn r u).Positive κ c' := by
  have minuted := candid _ customs_counts
  have goes : ∀ {w'}, w.Counts κ w' → ∃ c', w'.Positive κ c' := fun counts =>
    (counts c positive).imp fun _ => And.left
  rcases customs_counts.turn_cases minuted w polite with
    counts | ⟨list, parameters, rfl⟩ | ⟨page, rfl⟩ | ⟨fuel, task, rfl⟩ | rfl
  · exact goes counts
  · exact goes (counts_runList minuted.lists w list parameters)
  · exact goes (counts_changePage minuted.lists w page)
  · exact positive.poll candid fuel task
  · exact ⟨c, positive.here, positive.fetched, nofun⟩

/-- All turns. -/
theorem Positive.after (positive : w.Positive κ c) (turns : List (Turn A))
    (polite : ∀ u ∈ turns, u.Candid κ) : ∃ c', (w.after r turns).Positive κ c' := by
  induction turns generalizing w c with
  | nil => exact ⟨c, positive⟩
  | cons u rest ih =>
    obtain ⟨c₁, positive₁⟩ := positive.turn candid (polite u (.head _))
    exact ih positive₁ fun v mem => polite v (.tail _ mem)

end Turns

/-- A page controller that nobody has used has not asked for any page. -/
lemma Unused.positive (unused : w.Unused κ.index) (blank : κ.minutes w.state = []) :
    ∃ c, w.Positive κ c := by
  obtain ⟨pageKey, made⟩ := unused.made
  refine ⟨{ pageKey }, made, by simp [blank], fun task work page mem asks => ?_⟩
  cases (Work.isAbout_of_page? asks).symm.trans (unused.idle _ mem)

end Workspace

/-! ### What an answer leads to -/

/-- An application keeps out of the affairs of a page controller while that loads or shows a page: its
calls are written down and leave the controller alone. -/
structure Reactions.Aloof (κ : Charter A) (r : Reactions A) : Prop where
  lists : r.toBehaviour.Aloof κ
  render : ∀ list context (w : Workspace A),
    w.Notes κ [.making, .made (r.render κ.index list context w).2]
      (r.render κ.index list context w).1

namespace Diary

instance : DecidableEq application.View := inferInstanceAs (DecidableEq Nat)

/-- Make the view of a page, and nothing else. -/
def makePage (index : Nat) (_ : Option Nat) (_ : PageContext) (w : Workspace application) :
    Workspace application × Nat :=
  make index (note index .making w)

/-- An application whose lists are content with the pages that they show. -/
def plainReactions : Reactions application :=
  { behaviour with render := makePage, run := nofun, resume := nofun }

variable {κ : Charter application}

lemma notes_makePage (own : κ.index = 0) (here : κ.minutes = id) (list : Option Nat)
    (context : PageContext) (w : Workspace application) :
    w.Notes κ [.making, .made (makePage κ.index list context w).2]
      (makePage κ.index list context w).1 := by
  rw [own]
  have making := notes_note here .making w
  have made := notes_note here (.made (makePage 0 list context w).2) (note 0 .making w)
  refine ⟨making.apart.trans made.apart, made.minutes.trans ?_⟩
  rw [making.minutes, List.append_assoc]
  rfl

lemma aloof_plainReactions (own : κ.index = 0) (here : κ.minutes = id) : plainReactions.Aloof κ :=
  ⟨aloof_behaviour own here, notes_makePage own here⟩

theorem candid_plainReactions (own : κ.index = 0) (here : κ.minutes = id) :
    plainReactions.Candid κ := by
  intro R customs
  refine ⟨behaviour_minuted customs own here, fun list context w => ?_,
    fun i other list context w => ?_, nofun, nofun⟩
  · rw [own]
    exact ⟨_, _, notes_note here .making w, customs.refl _, notes_note here _ _⟩
  · exact customs.trans (aside_note customs own other .everything .making w)
      (aside_note customs own other .everything _ _)

end Diary

/-- The same answer, except that it claims to be another page. -/
def PageResult.claiming (result : PageResult) (claimed : Nat) : PageResult :=
  { result with claimedPage := claimed }

namespace PageController

variable {ρ ν : Type}

/-- The page that is shown in place of one that was asked for. -/
lemma clampPage_eq {page : Nat} (one_le : 1 ≤ page) (total : Nat) :
    clampPage page total = min page (max 1 total) := by
  rw [clampPage]
  omega

/-- What is given to the owner of the list to make the view of a page. -/
def contextFor (c : PageController ρ ν) (page : Nat) (result : PageResult) : PageContext where
  items := result.items
  currentPage := clampPage page result.totalPages
  totalPages := result.totalPages
  parameters := c.parameters.insert c.pageKey (toString (clampPage page result.totalPages))

end PageController

namespace Workspace

variable {κ : Charter A} {w w' w'' : Workspace A} {c c' : PageController A.Listing A.View}
  {entries : List (Minute A.View)} {b : Behaviour A} {r : Reactions A}

/-- In the turn of a task a page controller is led to the last page of its list: this is told, the view
that is shown stays and no other is made. If the controller reaches the navigator then, that is to go to
the URL in place of the current one, and the task loads the last page if this fails; otherwise the
controller asks for the last page at once. -/
inductive LeadsToLast (r : Reactions A) (κ : Charter A) (fuel task : Nat) (w : Workspace A)
    (c : PageController A.Listing A.View) (page last : Nat) (url : String) : Workspace A → Prop
  /-- The navigator goes there. -/
  | sent {w₁ : Workspace A}
      (told : w.Becomes κ { c with redirected := true } [.told (.redirected page url)] w₁)
      (reaches : w₁.reachesNavigator κ.index = true) :
      LeadsToLast r κ fuel task w c page last url
        (w₁.navigateIn r fuel task .replace url (.reload κ.index last))
  /-- The last page is asked for. -/
  | loaded {w₁ w₂ : Workspace A}
      (told : w.Becomes κ { c with redirected := true } [.told (.redirected page url)] w₁)
      (apart : w₁.reachesNavigator κ.index = false)
      (asks : w₁.Asks κ last { c with redirected := true } w₂) :
      LeadsToLast r κ fuel task w c page last url { w₂ with pool := w₂.pool.remove task }

/-- In the turn of a task a page controller shows a page: the view that was shown is released, the view
of the page is made, and then it is shown, with the numbers that it was made with. -/
inductive Renders (r : Reactions A) (κ : Charter A) (task : Nat) (w : Workspace A)
    (c : PageController A.Listing A.View) (list : A.Listing) (context : PageContext) :
    Workspace A → Prop
  | shown {w₁ w₂ w₃ : Workspace A} {view : A.View}
      (released : w.Becomes κ { c with view := none } (c.view.toList.map .released) w₁)
      (made : r.render κ.index list context w₁ = (w₂, view))
      (rendered : w₁.Becomes κ { c with
          view := some view, status := .ready context.currentPage context.totalPages }
        [.making, .made view, .told (.rendered context.currentPage context.totalPages)] w₃) :
      Renders r κ task w c list context { w₃ with pool := w₃.pool.remove task }

section

variable {i s page : Nat} {list : A.Listing} {result : PageResult} (here : w.list? i = some c)
  (counts : c.isStale s = false) (listed : c.list = some list)
include here counts listed

/-- The answer to the latest request, which was for a page past the last one. -/
lemma complete_past
    (past : 0 < result.totalPages ∧ result.totalPages < page ∧ c.redirected = false) :
    let total := result.totalPages
    let url := r.urlForPage list total
    ∃ records,
      let w₁ := r.listen i (.redirected page url)
        ((w.setList i { c with redirected := true }).report records)
      w.complete r.toBehaviour r.render i s page (.ok result) =
        if w₁.reachesNavigator i then (w₁, some (url, total))
        else (w₁.load r.toBehaviour i total, none) := by
  unfold complete
  rw [here]
  dsimp only
  rw [if_neg (by simp [counts]), PageController.receive, if_neg (by simp [counts]), listed]
  dsimp only
  rw [if_pos past]
  exact ⟨_, rfl⟩

/-- The answer to the latest request, where a page is to be shown. -/
lemma complete_shown
    (within : ¬ (0 < result.totalPages ∧ result.totalPages < page ∧ c.redirected = false)) :
    w.complete r.toBehaviour r.render i s page (.ok result) =
      (w.showPage r.toBehaviour r.render i s list (c.contextFor page result), none) := by
  unfold complete
  rw [here]
  dsimp only
  rw [if_neg (by simp [counts]), PageController.receive, if_neg (by simp [counts]), listed]
  dsimp only
  rw [if_neg within]
  rfl

end

section Aloof

variable (aloof : r.Aloof κ)
include aloof

/-- A page that is shown by a controller whose request still counts. -/
lemma becomes_shown {s : Nat} (here : w.list? κ.index = some c) (counts : c.isStale s = false)
    (list : A.Listing) (context : PageContext) :
    ∃ w₁ w₂ view, w.Becomes κ { c with view := none } (c.view.toList.map .released) w₁ ∧
      r.render κ.index list context w₁ = (w₂, view) ∧
      w₁.Becomes κ { c with
          view := some view, status := .ready context.currentPage context.totalPages }
        [.making, .made view, .told (.rendered context.currentPage context.totalPages)]
        (w.showPage r.toBehaviour r.render κ.index s list context) := by
  have released := ((Becomes.refl here).setList { c with view := none }).release aloof.lists c.view
  rw [List.nil_append] at released
  have making : ∀ {w₂ view}, r.render κ.index list context
      ((w.setList κ.index { c with view := none }).releaseView r.toBehaviour κ.index c.view) =
        (w₂, view) → Becomes κ { c with view := none } [.making, .made view]
          ((w.setList κ.index { c with view := none }).releaseView r.toBehaviour κ.index c.view) w₂ := by
    intro w₂ view made
    have notes := aloof.render list context
      ((w.setList κ.index { c with view := none }).releaseView r.toBehaviour κ.index c.view)
    rw [made] at notes
    exact (Becomes.refl released.here).notes notes
  have shows := shows (r := r) here s list context
  generalize w.showPage r.toBehaviour r.render κ.index s list context = w' at shows
  cases shows with
  | dropped made late =>
    -- The controller was left alone, so it has not moved on.
    have stale := late _ (making made).here
    cases counts.symm.trans stale
  | @shown _ _ _ view d made here' counts' installed rendered =>
    obtain rfl := Option.some.inj ((making made).here.symm.trans here')
    refine ⟨_, _, view, released, made, ?_⟩
    exact ((((making made).setList _).quiet installed).notes (aloof.lists.listen _ _)).quiet rendered

/-- A task takes the answer to the latest request of a page controller. -/
lemma poll_answered (fuel : Nat) {task page fetch : Nat} {list : A.Listing} {result : PageResult}
    (here : w.list? κ.index = some c) (alive : c.status ≠ .disposed) (listed : c.list = some list)
    (found : w.pool.tasks.lookup task = some (.load κ.index c.sequence page fetch))
    (answered : w.answers.lookup fetch = some (.ok result)) (held : w.listAlive κ.index = true) :
    let past := 0 < result.totalPages ∧ result.totalPages < page ∧ c.redirected = false
    (past → w.LeadsToLast r κ fuel task c page result.totalPages
      (r.urlForPage list result.totalPages) (w.poll r fuel task)) ∧
    (¬past → w.Renders r κ task c list (c.contextFor page result) (w.poll r fuel task)) := by
  intro past
  have counts : c.isStale c.sequence = false := by simp [PageController.isStale, alive]
  have taken : w.Becomes κ c [] (w.takeAnswer fetch) := (Becomes.refl here).quiet ⟨rfl, rfl, rfl⟩
  have ended : ∀ {w' : Workspace A}, (w.takeAnswer fetch).complete r.toBehaviour r.render κ.index
      c.sequence page (.ok result) = (w', none) →
      w.poll r fuel task = { w' with pool := w'.pool.remove task } := by
    intro w' completed
    have handles : Handles r fuel task (w.takeAnswer fetch) κ.index c.sequence page (.ok result)
      (w.poll r fuel task) := poll_load found answered
    generalize w.poll r fuel task = w'' at handles
    cases handles with
    | gone dead => cases dead.symm.trans held
    | done _ completed' =>
      obtain ⟨rfl, -⟩ := Prod.mk.inj (completed'.symm.trans completed)
      rfl
    | sent _ completed' => cases (Prod.mk.inj (completed'.symm.trans completed)).2
  refine ⟨fun past => ?_, fun within => ?_⟩
  · obtain ⟨records, completed⟩ := complete_past (r := r) taken.here counts listed past
    let marked := (w.takeAnswer fetch).setList κ.index { c with redirected := true }
    have reported : marked.Quiet (marked.report records) := ⟨rfl, rfl, rfl⟩
    have told := ((taken.setList { c with redirected := true }).quiet reported).notes
      (aloof.lists.listen (.redirected page (r.urlForPage list result.totalPages)) _)
    rw [List.nil_append] at told
    dsimp only at completed
    split at completed
    · rename_i reaches
      rw [poll_sends found answered held completed]
      exact .sent told reaches
    · rename_i apart
      rw [ended completed]
      have asks := (Becomes.refl told.here).load aloof.lists alive
        (show c.list.isSome = true by rw [listed]; rfl) result.totalPages
      exact .loaded told (by simpa using apart) asks
  · obtain ⟨w₁, w₂, view, released, made, rendered⟩ :=
      becomes_shown aloof taken.here counts list (c.contextFor page result)
    rw [ended (complete_shown taken.here counts listed within)]
    refine .shown ⟨released.here, fun task work about => ?_, ?_⟩ made rendered
    · exact (released.tasks task work about).trans (taken.tasks task work about)
    · exact released.minutes

end Aloof

/-! ### What an answer claims -/

/-- The same workspace, except that the answer to a request claims to be another page. -/
def reclaim (w : Workspace A) (fetch claimed : Nat) : Workspace A :=
  { w with answers := w.answers.map fun e =>
      if e.1 = fetch then (e.1, e.2.map (·.claiming claimed)) else e }

lemma lookup_reclaim (w : Workspace A) (fetch claimed : Nat) :
    (w.reclaim fetch claimed).answers.lookup fetch =
      (w.answers.lookup fetch).map (Except.map (·.claiming claimed)) := by
  show (w.answers.map _).lookup fetch = _
  induction w.answers with
  | nil => rfl
  | cons e rest ih =>
    rw [List.map_cons]
    by_cases own : e.1 = fetch
    · rw [if_pos own, List.lookup_cons, List.lookup_cons, own, beq_self_eq_true]
      rfl
    · rw [if_neg own, List.lookup_cons, List.lookup_cons, beq_false_of_ne (Ne.symm own), ih]

lemma takeAnswer_reclaim (w : Workspace A) (fetch claimed : Nat) :
    (w.reclaim fetch claimed).takeAnswer fetch = w.takeAnswer fetch := by
  have others : (w.reclaim fetch claimed).answers.filter (·.1 ≠ fetch) =
      w.answers.filter (·.1 ≠ fetch) := by
    show (w.answers.map _).filter _ = _
    induction w.answers with
    | nil => rfl
    | cons e rest ih =>
      rw [List.map_cons, List.filter_cons, List.filter_cons, ih]
      by_cases own : e.1 = fetch
      · simp [own]
      · simp [own]
  unfold takeAnswer
  rw [others]
  rfl

/-- Which page an answer claims to be makes no difference. -/
lemma poll_reclaim {i s page fetch fuel task : Nat} {result : PageResult}
    (found : w.pool.tasks.lookup task = some (.load i s page fetch))
    (answered : w.answers.lookup fetch = some (.ok result)) (claimed : Nat) :
    (w.reclaim fetch claimed).poll r fuel task = w.poll r fuel task := by
  have found' : (w.reclaim fetch claimed).pool.tasks.lookup task = some (.load i s page fetch) := found
  have answered' : (w.reclaim fetch claimed).answers.lookup fetch =
      some (.ok (result.claiming claimed)) := by
    rw [lookup_reclaim, answered]
    rfl
  have same : (w.takeAnswer fetch).complete r.toBehaviour r.render i s page
        (.ok (result.claiming claimed)) =
      (w.takeAnswer fetch).complete r.toBehaviour r.render i s page (.ok result) := rfl
  have taken := takeAnswer_reclaim w fetch claimed
  unfold takeAnswer at taken same
  unfold poll
  rw [found, found']
  dsimp only
  rw [answered, answered']
  dsimp only
  rw [taken, same]
  have ended := congrArg (fun w : Workspace A => { w with pool := w.pool.remove task }) taken
  dsimp only at ended
  rw [ended]

/-! ### Results -/

/-- The controller is marked once it has been told to redirect. -/
lemma Thrifty.unmarked_iff {budget : Int} (thrifty : w.Thrifty κ budget c) :
    c.redirected = false ↔ ∀ page url, .told (.redirected page url) ∉ κ.minutes w.state := by
  have told := thrifty.told
  constructor
  · intro unmarked page url mem
    have positive := List.countP_pos_iff.mpr ⟨_, mem, (rfl : Minute.isRedirect
      (.told (.redirected page url) : Minute A.View) = true)⟩
    rw [told, mark, unmarked] at positive
    cases positive
  · intro never
    have none : (κ.minutes w.state).countP Minute.isRedirect = 0 := by
      refine List.countP_eq_zero.mpr fun e mem redirect => ?_
      cases e with
      | told event =>
        cases event with
        | redirected page url => exact never page url mem
        | _ => cases redirect
      | _ => cases redirect
    rw [told] at none
    exact Bool.toNat_eq_zero.mp none

/-- A page controller keeps its pages within bounds. Let an application drive it in any way: then every
page that it ever asks for has a number from one on. Moreover, let a task take the answer to its latest
request, with any number of pages, and let the application keep out of the controller's affairs
meanwhile. If the page is past the last one and the controller has not been redirected before, it is
redirected to the last page and nothing is shown. Otherwise the page that is shown is the nearest one
within the bounds, and the view, the parameters, the status and the event all have its number. Which
page the answer claims to be makes no difference. -/
theorem pages_within_bounds {turns : List (Turn A)} (candid : r.Candid κ) (unused : w.Unused κ.index)
    (blank : κ.minutes w.state = []) (polite : ∀ u ∈ turns, u.Candid κ) :
    let w' := w.after r turns
    let minutes := κ.minutes w'.state
    (∀ page, .fetched page ∈ minutes → 1 ≤ page) ∧
    ∀ fuel task page fetch result c, r.Aloof κ →
      w'.list? κ.index = some c → c.status ≠ .disposed → w'.listAlive κ.index = true →
      w'.pool.tasks.lookup task = some (.load κ.index c.sequence page fetch) →
      w'.answers.lookup fetch = some (.ok result) →
      let total := result.totalPages
      let past := 0 < total ∧ total < page ∧ ∀ p url, .told (.redirected p url) ∉ minutes
      let current := min page (max 1 total)
      let context : PageContext :=
        { items := result.items, currentPage := current, totalPages := total
          parameters := c.parameters.insert c.pageKey (toString current) }
      ∃ list, c.list = some list ∧
        (past → w'.LeadsToLast r κ fuel task c page total (r.urlForPage list total)
          (w'.poll r fuel task)) ∧
        (¬past → w'.Renders r κ task c list context (w'.poll r fuel task) ∧
          1 ≤ current ∧ (total < UInt32.size → context.parameters.page c.pageKey = current)) ∧
        ∀ claimed, (w'.reclaim fetch claimed).poll r fuel task = w'.poll r fuel task := by
  intro w' minutes
  obtain ⟨c₀, positive₀⟩ := unused.positive blank
  obtain ⟨c, positive⟩ := positive₀.after candid turns polite
  refine ⟨positive.fetched, ?_⟩
  intro fuel task page fetch result c' aloof here alive held found answered total past current context
  obtain rfl := Option.some.inj (positive.here.symm.trans here)
  obtain ⟨one_le, listed⟩ := positive.tasks task _ page (TaskPool.mem_of_lookup found) (if_pos rfl)
  obtain ⟨list, listed⟩ := Option.isSome_iff_exists.mp (listed.resolve_right alive)
  obtain ⟨d₀, thrifty₀⟩ := unused.thrifty blank
  obtain ⟨d, thrifty, -⟩ := thrifty₀.after candid turns polite
  obtain rfl := Option.some.inj (thrifty.here.symm.trans here)
  have marked : past ↔ 0 < total ∧ total < page ∧ d.redirected = false := by
    rw [thrifty.unmarked_iff]
  have same : d.contextFor page result = context := by
    rw [PageController.contextFor, PageController.clampPage_eq one_le]
  obtain ⟨redirects, renders⟩ :=
    poll_answered aloof fuel here alive listed found answered held
  have current_pos : 1 ≤ current := by
    simp only [current]
    omega
  refine ⟨list, listed, redirects ∘ marked.mp, fun within => ⟨?_, current_pos, fun fits => ?_⟩,
    poll_reclaim found answered⟩
  · rw [← same]
    exact renders (within ∘ marked.mpr)
  · have size : UInt32.size = 4294967296 := rfl
    refine Parameters.page_insert _ _ current_pos ?_
    simp only [current]
    omega

/-- A list shrinks with every answer. The controller asks for its tenth page and is led to the third one;
of a list of two pages it shows the last one then. -/
theorem pages_within_bounds_shrinking :
    let κ : Charter Diary.application :=
      { index := 0, minutes := id, render := .nothing, failure := .nothing, release := .nothing }
    let answer (total : Nat) : Except FetchError PageResult :=
      .ok { items := [], totalPages := total, claimedPage := 1 }
    let asked : List (Turn Diary.application) :=
      [.run 0 (none : Option Nat) (Parameters.empty.insert "page" "10"), .deliver 0 (answer 3)]
    let led := asked ++ [.task 5 0, .deliver 1 (answer 2)]
    let w₁ := (Diary.desk true {}).after Diary.plainReactions asked
    let w₂ := (Diary.desk true {}).after Diary.plainReactions led
    ∃ c₁ c₂, w₁.list? 0 = some c₁ ∧ w₂.list? 0 = some c₂ ∧
      w₁.LeadsToLast Diary.plainReactions κ 5 0 c₁ 10 3 "/3" (w₁.poll Diary.plainReactions 5 0) ∧
      w₂.Renders Diary.plainReactions κ 1 c₂ (none : Option Nat)
        { items := [], currentPage := 2, totalPages := 2
          parameters := c₂.parameters.insert c₂.pageKey (toString 2) }
        (w₂.poll Diary.plainReactions 5 1) ∧
      (c₂.parameters.insert c₂.pageKey (toString 2)).page c₂.pageKey = 2 := by
  intro κ answer asked led w₁ w₂
  have unused : (Diary.desk true {}).Unused 0 := ⟨⟨"page", rfl⟩, nofun, nofun, .nil⟩
  have candid : Diary.plainReactions.Candid κ := Diary.candid_plainReactions rfl rfl
  have aloof : Diary.plainReactions.Aloof κ := Diary.aloof_plainReactions rfl rfl
  obtain ⟨-, first⟩ := pages_within_bounds candid unused rfl
    (show ∀ u ∈ asked, u.Candid κ by simp [asked, Turn.Candid])
  obtain ⟨-, second⟩ := pages_within_bounds candid unused rfl
    (show ∀ u ∈ led, u.Candid κ by simp [led, asked, Turn.Candid])
  have seen₁ : (w₁.list? κ.index).map
      (fun c => (c.status, c.sequence, (c.list : Option (Option Nat)))) =
        some (.loading 10, 1, some none) := by decide +kernel
  have seen₂ : (w₂.list? κ.index).map
      (fun c => (c.status, c.sequence, (c.list : Option (Option Nat)))) =
        some (.loading 3, 2, some none) := by decide +kernel
  obtain ⟨c₁, here₁, seen₁⟩ := Option.map_eq_some_iff.mp seen₁
  obtain ⟨c₂, here₂, seen₂⟩ := Option.map_eq_some_iff.mp seen₂
  obtain ⟨status₁, seen₁⟩ := Prod.mk.inj seen₁
  obtain ⟨number₁, listed₁⟩ := Prod.mk.inj seen₁
  obtain ⟨status₂, seen₂⟩ := Prod.mk.inj seen₂
  obtain ⟨number₂, listed₂⟩ := Prod.mk.inj seen₂
  have waiting₁ : ((Diary.desk true {}).after Diary.plainReactions asked).pool.tasks.lookup 0 =
      some (.load κ.index 1 10 0) := by decide +kernel
  have waiting₂ : ((Diary.desk true {}).after Diary.plainReactions led).pool.tasks.lookup 1 =
      some (.load κ.index 2 3 1) := by decide +kernel
  rw [← number₁] at waiting₁
  rw [← number₂] at waiting₂
  have held₁ : w₁.listAlive κ.index = true := by decide +kernel
  have held₂ : w₂.listAlive κ.index = true := by decide +kernel
  have answered₁ : ((Diary.desk true {}).after Diary.plainReactions asked).answers.lookup 0 =
      some (answer 3) := by decide +kernel
  have answered₂ : ((Diary.desk true {}).after Diary.plainReactions led).answers.lookup 1 =
      some (answer 2) := by decide +kernel
  obtain ⟨list₁, same₁, redirects, -⟩ :=
    first 5 0 10 0 { items := [], totalPages := 3, claimedPage := 1 } c₁ aloof here₁
      (by simp [status₁]) held₁ waiting₁ answered₁
  obtain ⟨list₂, same₂, -, renders, -⟩ :=
    second 5 1 3 1 { items := [], totalPages := 2, claimedPage := 1 } c₂ aloof here₂
      (by simp [status₂]) held₂ waiting₂ answered₂
  obtain rfl := Option.some.inj (listed₁.symm.trans same₁)
  obtain rfl := Option.some.inj (listed₂.symm.trans same₂)
  have before : κ.minutes ((Diary.desk true {}).after Diary.plainReactions asked).state =
      [.told (.loading 10), .fetched 10] := by decide +kernel
  have told : .told (.redirected 10 "/3") ∈
      κ.minutes ((Diary.desk true {}).after Diary.plainReactions led).state := by decide +kernel
  have unredirected : ∀ p url, .told (.redirected p url) ∉
      κ.minutes ((Diary.desk true {}).after Diary.plainReactions asked).state := by
    intro p url mem
    rw [before] at mem
    simp at mem
  obtain ⟨rendered, -, read⟩ := renders fun past => past.2.2 10 "/3" told
  have url : Diary.plainReactions.urlForPage (none : Option Nat) 3 = "/3" := by decide +kernel
  have redirected := redirects ⟨by decide, by decide, unredirected⟩
  rw [url] at redirected
  exact ⟨c₁, c₂, here₁, here₂, redirected, rendered, read (by decide)⟩

end Workspace

end Wayfinder
