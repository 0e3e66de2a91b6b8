/-
The views of a page controller.

A view is taken, released and put in its place in four operations, and while the view of a page is made
the application may change the page, run the list again or end the controller, which takes and releases
views in its turn. Nevertheless no view is lost, released twice, or made beside another one. This is
read off the minutes: they can be gone through with a shelf for the views that have been made and not
released, and at every moment between two calls the shelf holds what the controller holds.

What carries the proof is a condition on the calls in which a page is made: as long as the controller has
still the number that it had before, it has still the view that it had before, which is none.

* `Minute.Shelves`, `Shelved`: views that are made and released one after the other.
* `Workspace.InHand`: the shelf is what the controller holds.
* `Keeps`, `customs_keeps`: what keeps the views in hand is customary.
* `views_accounted_for`: the result.
-/
import Wayfinder.Proofs.LastRequest
import Wayfinder.Proofs.Minutes

namespace Wayfinder

/-! ### The shelf -/

namespace Minute

variable {ν : Type}

/-- The view that has been made. -/
def made? : Minute ν → Option ν
  | made view => some view
  | _ => none

/-- The view that is released. -/
def released? : Minute ν → Option ν
  | released view => some view
  | _ => none

/-- What becomes of the views that have been made and not released. A view is only made while there is
none, and only a view that is there is released. -/
inductive Shelves : List ν → Minute ν → List ν → Prop
  | called {views} : Shelves views .called views
  | fetched {views page} : Shelves views (.fetched page) views
  | told {views event} : Shelves views (.told event) views
  | making : Shelves [] .making []
  | made {views view} : Shelves views (.made view) (view :: views)
  | released {views view} : Shelves (view :: views) (.released view) views

end Minute

section Shelf

variable {ν : Type}

/-- The views that have been made. -/
def madeViews (minutes : List (Minute ν)) : List ν := minutes.filterMap Minute.made?

/-- The views that were released. -/
def releasedViews (minutes : List (Minute ν)) : List ν := minutes.filterMap Minute.released?

/-- What becomes of the views in the course of the minutes. -/
inductive Shelved : List ν → List (Minute ν) → List ν → Prop
  | nil {views} : Shelved views [] views
  | cons {views views' views'' entry minutes} (first : Minute.Shelves views entry views')
      (rest : Shelved views' minutes views'') : Shelved views (entry :: minutes) views''

variable {minutes minutes' : List (Minute ν)} {views views' views'' : List ν} {entry : Minute ν}

lemma shelved_append :
    Shelved views (minutes ++ minutes') views'' ↔
      ∃ views', Shelved views minutes views' ∧ Shelved views' minutes' views'' := by
  induction minutes generalizing views with
  | nil =>
    constructor
    · exact fun rest => ⟨views, .nil, rest⟩
    · rintro ⟨views', ⟨⟩, rest⟩
      exact rest
  | cons entry minutes ih =>
    constructor
    · rintro (_ | ⟨first, rest⟩)
      obtain ⟨views', rest, more⟩ := ih.mp rest
      exact ⟨views', .cons first rest, more⟩
    · rintro ⟨views', _ | ⟨first, rest⟩, more⟩
      exact .cons first (ih.mpr ⟨views', rest, more⟩)

/-- One more entry. -/
lemma Shelved.concat (shelved : Shelved views minutes views') (last : entry.Shelves views' views'') :
    Shelved views (minutes ++ [entry]) views'' :=
  shelved_append.mpr ⟨views', shelved, .cons last .nil⟩

/-- What is there before and what is made is what is released and what is there after. -/
lemma Shelved.perm (shelved : Shelved views minutes views') :
    (views ++ madeViews minutes).Perm (releasedViews minutes ++ views') := by
  induction shelved with
  | nil => simp [madeViews, releasedViews]
  | cons first rest ih =>
    cases first with
    | made => exact List.perm_middle.trans ih
    | released => exact ih.cons _
    | _ => exact ih

/-- Wherever a view is going to be made, there is none. -/
lemma Shelved.making (shelved : Shelved [] (minutes ++ .making :: minutes') views) :
    (madeViews minutes).Perm (releasedViews minutes) := by
  obtain ⟨views', before, _ | ⟨⟨⟩, -⟩⟩ := shelved_append.mp shelved
  simpa using before.perm

/-- Wherever a view is released, it has been made and not been released before. -/
lemma Shelved.released {view : ν}
    (shelved : Shelved [] (minutes ++ .released view :: minutes') views) :
    ∃ others, (madeViews minutes).Perm (releasedViews minutes ++ view :: others) := by
  obtain ⟨_, before, _ | ⟨⟨⟩, -⟩⟩ := shelved_append.mp shelved
  exact ⟨_, by simpa using before.perm⟩

end Shelf

variable {A : Application}

/-- Under a charter, views of failures are made and all views are released without any call of the
controller, and while the view of a page is made it is called in a few ways only. -/
structure Charter.Reserved (κ : Charter A) : Prop where
  render : κ.render ≠ .everything
  failure : κ.failure = .nothing
  release : κ.release = .nothing

namespace Workspace

/-- What has been made and not been released is what the page controller holds, and that is nothing at
its end. -/
structure InHand (κ : Charter A) (w : Workspace A) (c : PageController A.Listing A.View) : Prop where
  here : w.list? κ.index = some c
  shelved : Shelved [] (κ.minutes w.state) c.view.toList
  ended : c.status = .disposed → c.view = none

/-- The views stay in hand, and the number of the page controller says whether it has moved on. -/
structure Carries (κ : Charter A) (l : Leeway) (w' : Workspace A)
    (c c' : PageController A.Listing A.View) : Prop extends w'.InHand κ c' where
  /-- Numbers never fall. -/
  sequence : c.sequence ≤ c'.sequence
  /-- The end is final. -/
  final : c.status = .disposed → c'.status = .disposed
  /-- Without a new number there is no new view. -/
  moved : l = .moves → c'.sequence = c.sequence → c'.view = c.view

/-- The views of a page controller stay in hand. -/
def Carried (κ : Charter A) (l : Leeway) (w w' : Workspace A) : Prop :=
  ∀ c, w.InHand κ c → ∃ c', w'.Carries κ l c c'

/-- The views of a page controller stay in hand, and without any leeway nothing happens to it. -/
def Keeps (κ : Charter A) : Leeway → Workspace A → Workspace A → Prop
  | .nothing => Notes κ []
  | l => Carried κ l

variable {κ : Charter A} {l : Leeway} {w w' w'' : Workspace A}
  {c c' c'' : PageController A.Listing A.View}

lemma InHand.carries (inHand : w.InHand κ c) : w.Carries κ l c c :=
  { inHand with sequence := Nat.le_refl _, final := id, moved := fun _ _ => rfl }

lemma Carries.trans (first : w'.Carries κ l c c') (second : w''.Carries κ l c' c'') :
    w''.Carries κ l c c'' :=
  { second with
    sequence := Nat.le_trans first.sequence second.sequence
    final := second.final ∘ first.final
    moved := fun moves same => by
      have := first.sequence
      have := second.sequence
      rw [second.moved moves (by omega), first.moved moves (by omega)] }

lemma Carried.trans (first : w.Carried κ l w') (second : w'.Carried κ l w'') :
    w.Carried κ l w'' := by
  intro c inHand
  obtain ⟨c', carries⟩ := first c inHand
  obtain ⟨c'', carries'⟩ := second c' carries.toInHand
  exact ⟨c'', carries.trans carries'⟩

/-- Something is written down that is not about views. -/
lemma InHand.notes {entries : List (Minute A.View)} (inHand : w.InHand κ c)
    (notes : w.Notes κ entries w') (shelved : Shelved c.view.toList entries c.view.toList) :
    w'.InHand κ c where
  here := notes.apart.list c inHand.here
  shelved := by
    rw [notes.minutes]
    exact shelved_append.mpr ⟨_, inHand.shelved, shelved⟩
  ended := inHand.ended

lemma Carried.notes {entries : List (Minute A.View)} (notes : w.Notes κ entries w')
    (shelved : ∀ views, Shelved views entries views) : w.Carried κ l w' :=
  fun c inHand => ⟨c, (inHand.notes notes (shelved _)).carries⟩

/-- The lists and what the application remembers stay the same. -/
lemma Carried.same (state : w'.state = w.state) (lists : w'.lists = w.lists) :
    w.Carried κ l w' :=
  fun c inHand => ⟨c, InHand.carries
    ⟨by rw [list?, lists]; exact inHand.here, by rw [state]; exact inHand.shelved, inHand.ended⟩⟩

lemma Carried.quiet (quiet : w.Quiet w') : w.Carried κ l w' := .same quiet.state quiet.lists

lemma Carried.spawn {work : Work} (spawned : w.spawn work = .ok w') : w.Carried κ l w' := by
  obtain ⟨pool, -, rfl⟩ := spawn_eq_ok spawned
  exact .same rfl rfl

/-- A controller that is changed without a word about its views. -/
lemma Carried.setList (here : w.list? κ.index = some c) (view : c'.view = c.view)
    (sequence : c'.sequence = c.sequence) (status : c'.status = c.status) :
    w.Carried κ l (w.setList κ.index c') := by
  intro d inHand
  obtain rfl := Option.some.inj (here.symm.trans inHand.here)
  have shelved := inHand.shelved
  exact ⟨c', ⟨⟨list?_setList_self here, by rwa [view], by rw [status, view]; exact inHand.ended⟩,
    Nat.le_of_eq sequence.symm, fun ended => status.trans ended, fun _ _ => view⟩⟩

/-! ### The calls of a page controller -/

section Calls

variable {page : Nat} {b : Behaviour A} (minuted : b.Minuted κ (Keeps κ))
include minuted

/-- The application hears of something. -/
lemma carried_listen (w : Workspace A) (event : PageEvent) :
    w.Carried κ .everything (b.listen κ.index event w) := by
  obtain ⟨w₁, notes, goes⟩ := minuted.listen event w
  exact (Carried.notes notes fun _ => .cons .told .nil).trans goes

/-- The application asks for a page. -/
lemma carried_request (w : Workspace A) (list : A.Listing) (page : Nat) :
    w.Carried κ .everything (b.request κ.index list page w).1 := by
  obtain ⟨w₁, notes, goes⟩ := minuted.request list page w
  exact (Carried.notes notes fun _ => .cons .fetched .nil).trans goes

variable (reserved : κ.Reserved)
include reserved

/-- A view is released by a controller that has let go of it. -/
lemma releases {view : A.View} {views : List A.View} (here : w.list? κ.index = some c)
    (shelved : Shelved [] (κ.minutes w.state) (view :: views)) :
    (b.releaseView κ.index view w).list? κ.index = some c ∧
      Shelved [] (κ.minutes (b.releaseView κ.index view w).state) views := by
  obtain ⟨w₁, notes, leaves⟩ := minuted.releaseView view w
  rw [reserved.release] at leaves
  refine ⟨leaves.apart.list _ (notes.apart.list _ here), ?_⟩
  rw [leaves.minutes, List.append_nil, notes.minutes]
  exact shelved.concat .released

/-- The view that a controller has let go of is released. -/
lemma InHand.release (inHand : w.InHand κ c) (quiet : (w.setList κ.index c').Quiet w')
    (cleared : c'.view = none) : (w'.releaseView b κ.index c.view).InHand κ c' := by
  have here : w'.list? κ.index = some c' := by
    rw [quiet.list?]
    exact list?_setList_self inHand.here
  have shelved := inHand.shelved
  rw [← show w'.state = w.state from quiet.state] at shelved
  rcases shown : c.view with _ | view <;> rw [shown] at shelved
  · exact ⟨here, by rwa [cleared], fun _ => cleared⟩
  · obtain ⟨here', released⟩ := releases minuted reserved here shelved
    exact ⟨here', by rwa [cleared], fun _ => cleared⟩

/-- A view for a failure is made, if the list has one. -/
lemma InHand.makeFailure (inHand : w.InHand κ c) (cleared : c.view = none)
    {list : Option A.Listing} {message : String} {view : Option A.View}
    (made : Workspace.makeFailure b κ.index list message w = (w', view)) :
    w'.list? κ.index = some c ∧ Shelved [] (κ.minutes w'.state) view.toList := by
  have shelved := inHand.shelved
  rw [cleared] at shelved
  rcases list with _ | list
  · obtain ⟨rfl, rfl⟩ := Prod.mk.inj made
    exact ⟨inHand.here, shelved⟩
  · rcases view with _ | view
    · have notes := minuted.renderNothing list message w w' made
      refine ⟨notes.apart.list c inHand.here, ?_⟩
      rw [notes.minutes, List.append_nil]
      exact shelved
    · obtain ⟨w₁, w₂, begun, alone, done⟩ := minuted.renderError list message w view w' made
      rw [reserved.failure] at alone
      refine ⟨done.apart.list c (alone.apart.list c (begun.apart.list c inHand.here)), ?_⟩
      rw [done.minutes, alone.minutes, List.append_nil, begun.minutes]
      exact (shelved.concat .making).concat .made

/-- A failure is shown. -/
lemma carried_showFailure (w : Workspace A) (page : Nat) (message : String) :
    w.Carried κ .everything (w.showFailure b κ.index page message) := by
  have fails := fails b w κ.index page message
  generalize w.showFailure b κ.index page message = w' at fails
  cases fails with
  | idle ended quiet => exact .quiet quiet
  | @shown w₁ w₂ _ view c here alive quiet made rendered =>
    intro d inHand
    obtain rfl := Option.some.inj (here.symm.trans inHand.here)
    -- None of the calls goes back to the controller, so it is still failing when the view is put in place.
    have failing : ((w₁.setList κ.index (c.failing message)).releaseView b κ.index c.view).InHand κ
        (c.failing message) := inHand.release minuted reserved
      ⟨quiet.state, by rw [setList, setList, quiet.lists], quiet.pool⟩ rfl
    obtain ⟨here₂, shelved⟩ := failing.makeFailure minuted reserved rfl made
    have put : (w₂.putFailure κ.index view).InHand κ { c.failing message with view } := by
      unfold putFailure
      rw [here₂]
      exact ⟨list?_setList_self here₂, shelved, fun ended => by cases ended⟩
    obtain ⟨c', carries⟩ := ((carried_listen minuted _ _).trans (.quiet rendered)) _ put
    exact ⟨c', { carries with
      sequence := carries.sequence
      final := fun ended => absurd ended alive
      moved := fun moves => by cases moves }⟩

/-- A page that begins to load gives its controller a new number. -/
lemma carried_load (w : Workspace A) (page : Nat) :
    w.Carried κ l (w.load b κ.index page) := by
  have loads := loads b w κ.index page
  generalize w.load b κ.index page = w' at loads
  have renews : ∀ {w₁ : Workspace A} {c : PageController A.Listing A.View},
      w.list? κ.index = some c → c.status ≠ .disposed →
      ((w.setList κ.index (c.awaiting page)).releaseView b κ.index c.view).Quiet w₁ →
      w₁.Carried κ .everything w' → w.Carried κ l w' := by
    intro w₁ c here alive quiet goes d inHand
    obtain rfl := Option.some.inj (here.symm.trans inHand.here)
    have awaiting := inHand.release minuted reserved (Quiet.refl (w.setList κ.index
      (c.awaiting page))) rfl
    obtain ⟨c', carries⟩ := ((Carried.quiet quiet).trans goes) _ awaiting
    -- The number of the request stays behind whatever is done after it.
    have newer : c.sequence + 1 ≤ c'.sequence := carries.sequence
    exact ⟨c', { carries with
      sequence := by omega
      final := fun ended => absurd ended alive
      moved := fun _ same => by omega }⟩
  cases loads with
  | idle idle => exact .quiet (.refl w)
  | @asked w₁ w₂ _ c list fetch here alive listed quiet asks spawned =>
    refine renews here alive quiet ?_
    have asked := (carried_listen minuted w₁ (.loading page)).trans
      (carried_request minuted _ list page)
    rw [asks] at asked
    exact asked.trans (.spawn spawned)
  | @refused w₁ w₂ w₃ c list fetch here alive listed quiet asks reported =>
    refine renews here alive quiet ?_
    have asked := (carried_listen minuted w₁ (.loading page)).trans
      (carried_request minuted _ list page)
    rw [asks] at asked
    exact asked.trans ((Carried.quiet reported).trans (carried_showFailure minuted reserved _ _ _))

/-- A list is run. -/
lemma carried_runList (w : Workspace A) (list : A.Listing) (parameters : Parameters) :
    w.Carried κ l (w.runList b κ.index list parameters) := by
  have runs := runs b w κ.index list parameters
  generalize w.runList b κ.index list parameters = w' at runs
  cases runs with
  | idle quiet => exact .quiet quiet
  | loaded page here alive =>
    refine .trans ?_ (carried_load minuted reserved _ page)
    exact .setList here rfl rfl rfl

/-- The page is changed. -/
lemma carried_changePage (w : Workspace A) (page : Nat) :
    w.Carried κ l (w.changePage b κ.index page) := by
  have changes := changes b w κ.index page
  generalize w.changePage b κ.index page = w' at changes
  cases changes with
  | idle quiet => exact .quiet quiet
  | loaded page quiet here =>
    have here' := (quiet.list? κ.index).trans here
    refine (Carried.quiet quiet).trans (.trans ?_ (carried_load minuted reserved _ page))
    exact .setList here' rfl rfl rfl
  | pushed quiet spawned => exact (Carried.quiet quiet).trans (.spawn spawned)

/-- At its end a page controller holds nothing, and it has a new number. -/
lemma InHand.closeList (inHand : w.InHand κ c) :
    ∃ c', (w.closeList b κ.index).Carries κ l c c' ∧ c'.status = .disposed := by
  have closes := closes b w κ.index
  generalize w.closeList b κ.index = w' at closes
  cases closes with
  | idle ended => exact ⟨c, inHand.carries, ended c inHand.here⟩
  | closed here alive quiet =>
    obtain rfl := Option.some.inj (here.symm.trans inHand.here)
    exact ⟨_, { inHand.release minuted reserved quiet rfl with
      sequence := Nat.le_succ _
      final := fun _ => rfl
      moved := fun _ same => absurd same (Nat.succ_ne_self _) }, rfl⟩

end Calls

/-- With some leeway, it is enough that the views stay in hand. -/
lemma Keeps.of_carried (leeway : l ≠ .nothing) (carried : w.Carried κ l w') : Keeps κ l w w' := by
  cases l with
  | nothing => exact absurd rfl leeway
  | moves => exact carried
  | everything => exact carried

/-- Without all the leeway, whoever moves on gets a new number. -/
lemma Keeps.carried (keeps : Keeps κ l w w') (leeway : l ≠ .everything) : w.Carried κ .moves w' := by
  cases l with
  | nothing => exact .notes keeps fun _ => .nil
  | moves => exact keeps
  | everything => exact absurd rfl leeway

/-- What keeps the views of a page controller in hand is customary. -/
theorem customs_keeps (reserved : κ.Reserved) : Customs κ (Keeps κ) where
  trans {l w w' w''} first second := by
    cases l with
    | nothing => exact first.trans second
    | moves => exact Carried.trans first second
    | everything => exact Carried.trans first second
  aside {l w w'} notes := by
    cases l with
    | nothing => exact notes
    | moves => exact .notes notes fun _ => .nil
    | everything => exact .notes notes fun _ => .nil
  runList minuted _ _ _ leeway notes list parameters := by
    refine .of_carried leeway (.trans (.notes notes fun _ => .cons .called .nil) ?_)
    exact carried_runList minuted reserved _ list parameters
  changePage minuted _ _ _ leeway notes page := by
    refine .of_carried leeway (.trans (.notes notes fun _ => .cons .called .nil) ?_)
    exact carried_changePage minuted reserved _ page
  closeList minuted _ leeway w := .of_carried leeway fun c inHand =>
    (inHand.closeList minuted reserved).imp fun _ => And.left
  showFailure minuted := carried_showFailure minuted reserved

/-! ### Showing a page -/

section Answers

variable {r : Reactions A} (minuted : r.Minuted κ (Keeps κ)) (reserved : κ.Reserved)
include minuted reserved

/-- The view of a page is made. Whatever was done to the controller by then, its views were in hand, and if
it has not moved on it held none. -/
lemma InHand.render (inHand : w.InHand κ c) {list : A.Listing} {context : PageContext}
    {view : A.View} (made : r.render κ.index list context
      ((w.setList κ.index { c with view := none }).releaseView r.toBehaviour κ.index c.view) =
        (w', view)) :
    ∃ (w₁ : Workspace A) (c' : PageController A.Listing A.View),
      w₁.Carries κ .moves { c with view := none } c' ∧ w₁.Notes κ [.made view] w' := by
  have begins := inHand.release minuted.lists reserved
    (Quiet.refl (w.setList κ.index { c with view := none })) rfl
  obtain ⟨w₁, w₂, begun, goes, done⟩ := minuted.render list context _
  rw [made] at done
  have making := begins.notes begun (.cons .making .nil)
  obtain ⟨c', carries⟩ := goes.carried reserved.render _ making
  exact ⟨w₂, c', carries, done⟩

/-- A page is shown. -/
lemma carried_showPage {s : Nat} (here : w.list? κ.index = some c) (counts : c.isStale s = false)
    (list : A.Listing) (context : PageContext) :
    w.Carried κ .everything (w.showPage r.toBehaviour r.render κ.index s list context) := by
  have current : ∀ {d : PageController A.Listing A.View}, d.isStale s = false →
      d.status ≠ .disposed ∧ d.sequence = s := by
    intro d counts
    simpa [PageController.isStale] using counts
  intro d inHand
  obtain rfl := Option.some.inj (here.symm.trans inHand.here)
  have shows := shows (r := r) here s list context
  generalize w.showPage r.toBehaviour r.render κ.index s list context = w' at shows
  cases shows with
  | @dropped w₁ view made late =>
    obtain ⟨w₂, c', carries, done⟩ := inHand.render minuted reserved made
    have here' := done.apart.list c' carries.here
    -- The view lies on top of the one that the controller may hold by now, and is released from there.
    have shelved : Shelved [] (κ.minutes w₁.state) (view :: c'.view.toList) := by
      rw [done.minutes]
      exact carries.shelved.concat .made
    obtain ⟨here'', shelved'⟩ := releases minuted.lists reserved here' shelved
    exact ⟨c', ⟨here'', shelved', carries.ended⟩, carries.sequence, carries.final,
      fun moves => by cases moves⟩
  | @shown w₁ w₂ _ view d made here' counts' installed rendered =>
    obtain ⟨w₃, c', carries, done⟩ := inHand.render minuted reserved made
    obtain rfl := Option.some.inj (here'.symm.trans (done.apart.list c' carries.here))
    -- The controller still has the number it had before, so it holds no view.
    have same : d.sequence = c.sequence := (current counts').2.trans (current counts).2.symm
    have empty : d.view = none := carries.moved rfl same
    have put : w₂.InHand κ { d with
        view := some view, status := .ready context.currentPage context.totalPages } := by
      refine ⟨(installed.list? _).trans (list?_setList_self here'), ?_, fun ended => by cases ended⟩
      have shelved := carries.shelved.concat (.made : Minute.Shelves _ (.made view) _)
      rw [empty, ← done.minutes] at shelved
      rw [installed.state]
      exact shelved
    obtain ⟨c'', carries''⟩ := ((carried_listen minuted.lists _ _).trans (.quiet rendered)) _ put
    exact ⟨c'', { carries'' with
      sequence := Nat.le_trans (Nat.le_of_eq same.symm) carries''.sequence
      final := fun ended => absurd ended (current counts).1
      moved := fun moves => by cases moves }⟩

/-- The answer to a request is taken. -/
lemma carried_complete (w : Workspace A) (s page : Nat) (answer : Except FetchError PageResult) :
    w.Carried κ .everything (w.complete r.toBehaviour r.render κ.index s page answer).1 := by
  intro c inHand
  have here := inHand.here
  have told : ∀ event records, w.Carried κ .everything
      (r.listen κ.index event ((w.setList κ.index { c with redirected := true }).report records)) := by
    intro event records
    let w₁ := w.setList κ.index { c with redirected := true }
    have reported : w₁.Carried κ .everything (w₁.report records) := .same rfl rfl
    refine .trans ?_ (reported.trans (carried_listen minuted.lists _ event))
    exact .setList here rfl rfl rfl
  suffices carried : w.Carried κ .everything
      (w.complete r.toBehaviour r.render κ.index s page answer).1 from carried c inHand
  have completes : Completes r w κ.index s page c answer _ := completes here answer
  generalize w.complete r.toBehaviour r.render κ.index s page answer = done at completes
  cases completes with
  | stale records stale => exact .same rfl rfl
  | unlisted counts listed => exact .same rfl rfl
  | failed counts => exact carried_showFailure minuted.lists reserved w page _
  | redirected list records counts listed past told' reaches =>
    obtain rfl := told'
    exact told _ records
  | reloaded list records counts listed past told' =>
    obtain rfl := told'
    exact (told _ records).trans (carried_load minuted.lists reserved _ _)
  | shown list counts listed current total =>
    exact carried_showPage minuted reserved here counts list _

end Answers

/-! ### Turns -/

section Turns

variable {r : Reactions A} (candid : r.Candid κ) (reserved : κ.Reserved)
include candid reserved

/-- Whatever is done to any page controller by a task. -/
lemma carried_load_any (w : Workspace A) (i page : Nat) :
    w.Carried κ .everything (w.load r.toBehaviour i page) := by
  have customs := customs_keeps reserved
  have minuted := (candid _ customs).lists
  by_cases own : i = κ.index
  · subst own
    exact carried_load minuted reserved w page
  · exact (customs.pliable own).load (minuted.elsewhere i own) w page

lemma carried_settle (task : Nat) (sequel : Sequel) (done : Workspace A × Option Outcome) :
    done.1.Carried κ .everything (settle r task sequel done) := by
  obtain ⟨w, _ | outcome⟩ := done
  · exact .same rfl rfl
  · have concluded : w.Carried κ .everything (w.conclude r outcome sequel) := by
      rcases conclude_cases w outcome sequel with quiet | ⟨i, page, w₁, rfl, quiet, same⟩
      · exact .quiet quiet
      · rw [same]
        exact (Carried.quiet quiet).trans (carried_load_any candid reserved w₁ i page)
    refine concluded.trans ?_
    exact .same rfl rfl

lemma carried_navigateIn (fuel task : Nat) (w : Workspace A) (kind : Kind) (url : String)
    (sequel : Sequel) :
    w.Carried κ .everything (w.navigateIn r fuel task kind url sequel) := by
  have customs := customs_keeps reserved
  let w₁ : Workspace A := { w with pool := w.pool.set task (.navigate sequel) }
  have set : w.Carried κ .everything w₁ := .same rfl rfl
  have ran : w₁.Carried κ .everything (w₁.navigate r fuel kind url).1 :=
    (customs.serves (candid _ customs)).navigate fuel w₁ kind url
  exact set.trans (ran.trans (carried_settle candid reserved task sequel _))

/-- The turn of a task. -/
lemma carried_poll (fuel : Nat) (w : Workspace A) (task : Nat) :
    w.Carried κ .everything (w.poll r fuel task) := by
  have customs := customs_keeps reserved
  have minuted := candid _ customs
  have polls := polls r fuel task w
  generalize w.poll r fuel task = w' at polls
  cases polls with
  | idle => exact .same rfl rfl
  | finished quiet => exact .same quiet.state quiet.lists
  | starts found plain => exact carried_navigateIn candid reserved fuel task w _ _ _
  | resumed found =>
    have ran : w.Carried κ .everything (w.resume r fuel).1 := (customs.serves minuted).goOn fuel w
    exact ran.trans (carried_settle candid reserved task _ _)
  | @answered _ i s page fetch answer found answered handles =>
    have taken : w.Carried κ .everything (w.takeAnswer fetch) := .same rfl rfl
    have completed : (w.takeAnswer fetch).Carried κ .everything
        ((w.takeAnswer fetch).complete r.toBehaviour r.render i s page answer).1 := by
      by_cases own : i = κ.index
      · subst own
        exact carried_complete minuted reserved _ s page answer
      · exact (customs.pliable own).complete (minuted.lists.elsewhere i own)
          (minuted.renderElsewhere i own) _ s page answer
    cases handles with
    | gone dead => exact taken.trans (.same rfl rfl)
    | done alive completes ends =>
      rw [completes] at completed
      refine taken.trans (completed.trans ?_)
      exact .same rfl rfl
    | sent alive completes =>
      rw [completes] at completed
      exact taken.trans (completed.trans (carried_navigateIn candid reserved fuel task _ _ _ _))

/-- In every turn the views stay in hand. -/
theorem carried_turn (w : Workspace A) {u : Turn A} (polite : u.Candid κ) :
    w.Carried κ .everything (w.turn r u) := by
  have customs := customs_keeps reserved
  have minuted := candid _ customs
  rcases customs.turn_cases minuted w polite with
    carried | ⟨list, parameters, rfl⟩ | ⟨page, rfl⟩ | ⟨fuel, task, rfl⟩ | rfl
  · exact carried
  · exact carried_runList minuted.lists reserved w list parameters
  · exact carried_changePage minuted.lists reserved w page
  · exact carried_poll candid reserved fuel w task
  · exact .same rfl rfl

end Turns

/-! ### Runs -/

variable {r : Reactions A} {turns : List (Turn A)}

/-- In every run the views stay in hand, and who is ended is at its end. -/
lemma InHand.after (candid : r.Candid κ) (reserved : κ.Reserved) (inHand : w.InHand κ c)
    (polite : ∀ u ∈ turns, u.Candid κ) :
    ∃ c', (w.after r turns).Carries κ .everything c c' ∧
      (.close κ.index ∈ turns → c'.status = .disposed) := by
  induction turns generalizing w c with
  | nil => exact ⟨c, inHand.carries, nofun⟩
  | cons u rest ih =>
    obtain ⟨c₁, carries⟩ := carried_turn candid reserved w (polite u (.head _)) c inHand
    obtain ⟨c₂, carries', closed⟩ := ih carries.toInHand fun v mem => polite v (.tail _ mem)
    refine ⟨c₂, carries.trans carries', fun mem => ?_⟩
    rcases List.mem_cons.mp mem with rfl | mem
    -- What is known of any turn does not say that this one is an end.
    · have minuted := (candid _ (customs_keeps reserved)).lists
      obtain ⟨c₃, closes, ended⟩ := inHand.closeList (l := .everything) minuted reserved
      obtain rfl := Option.some.inj (closes.here.symm.trans carries.here)
      exact carries'.final ended
    · exact closed mem

/-- No view is lost, released twice or made beside another one. Let an application drive a page controller
in any way: it is run, its pages are changed, it shows errors and it is ended, and answers arrive and are
taken in any order. While the view of a page is made the application may change the page, run a list and
end the controller; while the view of a failure is made or a view is released it leaves the controller
alone. Then at every moment between two turns each view that was made is the one that the controller
holds or has been released, and only once; wherever a view was going to be made, each one that was made
before had been released; only a view that was there was released; and a controller that has been ended
holds no view, and each view has been released. -/
theorem views_accounted_for (candid : r.Candid κ) (reserved : κ.Reserved)
    (unused : w.Unused κ.index) (blank : κ.minutes w.state = [])
    (polite : ∀ u ∈ turns, u.Candid κ) :
    ∃ c, (w.after r turns).list? κ.index = some c ∧
      let minutes := κ.minutes (w.after r turns).state
      (madeViews minutes).Perm (releasedViews minutes ++ c.view.toList) ∧
      ((madeViews minutes).Nodup → (releasedViews minutes).Nodup ∧
        ∀ view, c.view = some view → view ∉ releasedViews minutes) ∧
      (∀ before behind, minutes = before ++ .making :: behind →
        (madeViews before).Perm (releasedViews before)) ∧
      (∀ before view behind, minutes = before ++ .released view :: behind →
        ∃ others, (madeViews before).Perm (releasedViews before ++ view :: others)) ∧
      (.close κ.index ∈ turns ∨ c.status = .disposed →
        c.status = .disposed ∧ c.view = none ∧
          (madeViews minutes).Perm (releasedViews minutes)) := by
  obtain ⟨pageKey, made⟩ := unused.made
  have begins : w.InHand κ { pageKey } := ⟨made, by rw [blank]; exact .nil, nofun⟩
  obtain ⟨c, carries, closed⟩ := begins.after candid reserved polite
  have shelved := carries.shelved
  have all := shelved.perm
  rw [List.nil_append] at all
  refine ⟨c, carries.here, all, fun distinct => ?_, fun before behind split => ?_,
    fun before view behind split => ?_, fun ends => ?_⟩
  · have distinct := all.nodup_iff.mp distinct
    refine ⟨distinct.of_append_left, fun view shown released => ?_⟩
    exact List.disjoint_of_nodup_append distinct released (by simp [shown])
  · rw [split] at shelved
    exact shelved.making
  · rw [split] at shelved
    exact shelved.released
  · have ended : c.status = .disposed := ends.elim closed id
    have empty := carries.ended ended
    exact ⟨ended, empty, by simpa [empty] using all⟩

/-- A page is changed while it is rendered, the next one is replaced by a failure, and then the controller
is ended. -/
theorem views_accounted_for_rerendered :
    let κ : Charter Diary.application :=
      { index := 0, minutes := id, render := .moves, failure := .nothing, release := .nothing }
    let answer : Except FetchError PageResult :=
      .ok { items := [], totalPages := 3, claimedPage := 1 }
    let turns : List (Turn Diary.application) :=
      [.run 0 (some 2 : Option Nat) .empty, .deliver 0 answer, .task 1 0, .deliver 1 answer,
        .task 1 1, .showError 0 "No access", .close 0]
    let minutes := κ.minutes ((Diary.desk false {}).after Diary.reactions turns).state
    let made : List Nat := madeViews minutes
    ∃ c, ((Diary.desk false {}).after Diary.reactions turns).list? κ.index = some c ∧ c.view = none ∧
      made = [6, 9, 13] ∧ made.Perm (releasedViews minutes) := by
  intro κ answer turns minutes made
  have unused : (Diary.desk false {}).Unused 0 := ⟨⟨"page", rfl⟩, nofun, nofun, .nil⟩
  obtain ⟨c, here, -, -, -, -, ended⟩ := views_accounted_for (κ := κ)
    (Diary.candid_reactions rfl rfl nofun) ⟨nofun, rfl, rfl⟩ unused rfl
    (show ∀ u ∈ turns, u.Candid κ by simp [turns, Turn.Candid])
  obtain ⟨-, empty, all⟩ := ended (.inl (by simp [turns, κ]))
  exact ⟨c, here, empty, by decide, all⟩

end Workspace

end Wayfinder
