/-
Minutes of a page controller.

What an application does around a page controller cannot be read off the workspace: which views it has
made and released, which pages it has fetched, and how often it has called the controller from within
its own calls. So let it write all this down in what it remembers. A charter says about which controller,
where the minutes are kept, and how far the calls in which views are made and released may go back to the
controller. `Reactions.Candid` is an application that keeps to a charter, however deep its calls are
nested: it leaves the controller alone or calls it as anybody may, and nothing is missing from the
minutes or added to them. The navigator and the tasks may do the rest.

* `Minute`, `Charter`: what is written down, and the terms.
* `Workspace.Notes`: something is written down, and nothing else happens.
* `Customs`, `Reactions.Candid`: what an application can do, and one that does no more.
* `Customs.pliable`, `Customs.serves`, `Customs.turn_cases`: what follows for other controllers, for the
  navigator, and for the turns of a run.
* `Diary`: an application that keeps to every charter with some leeway for rendering.
-/
import Wayfinder.Proofs.Workings

namespace Wayfinder

/-- What is written down about a page controller. -/
inductive Minute (ν : Type) where
  /-- The controller is called to run a list or to change its page. -/
  | called
  /-- A page is asked for. -/
  | fetched (page : Nat)
  /-- An event is heard. -/
  | told (event : PageEvent)
  /-- A view is going to be made. -/
  | making
  /-- A view has been made. -/
  | made (view : ν)
  /-- A view is released. -/
  | released (view : ν)
  deriving DecidableEq, Repr

/-- How far a call of the application may go back to the controller that it comes from. -/
inductive Leeway where
  /-- The controller is left alone. -/
  | nothing
  /-- It may be run, its page may be changed, and it may be ended. -/
  | moves
  /-- Anything may be done to it that can be done from outside. -/
  | everything
  deriving DecidableEq, Repr

variable {A : Application}

/-- The terms on which an application keeps minutes of a page controller. -/
structure Charter (A : Application) where
  /-- The controller. -/
  index : Nat
  /-- Where the minutes are kept. -/
  minutes : A.State → List (Minute A.View)
  /-- What may be done while the view of a page is made. -/
  render : Leeway
  /-- What may be done while the view of a failure is made. -/
  failure : Leeway
  /-- What may be done while a view is released. -/
  release : Leeway

/-- Something is written into the minutes, and the page controller and its tasks are left alone. -/
structure Workspace.Notes (κ : Charter A) (entries : List (Minute A.View)) (w w' : Workspace A) :
    Prop where
  apart : w.Apart κ.index w'
  minutes : κ.minutes w'.state = κ.minutes w.state ++ entries

/-- A view is made, with a way to go along meanwhile. -/
def Workspace.Makes (κ : Charter A) (R : Workspace A → Workspace A → Prop) (view : A.View)
    (w w' : Workspace A) : Prop :=
  ∃ w₁ w₂, w.Notes κ [.making] w₁ ∧ R w₁ w₂ ∧ w₂.Notes κ [.made view] w'

/-- A call is written down, and then there is a way to go along. -/
def Workspace.Enters (κ : Charter A) (entry : Minute A.View) (R : Workspace A → Workspace A → Prop)
    (w w' : Workspace A) : Prop :=
  ∃ w₁, w.Notes κ [entry] w₁ ∧ R w₁ w'

/-- The calls of the lists and controllers are written down and go along the relations of their
leeway. -/
structure Behaviour.Minuted (κ : Charter A) (R : Leeway → Workspace A → Workspace A → Prop)
    (b : Behaviour A) : Prop where
  request : ∀ list page (w : Workspace A),
    w.Enters κ (.fetched page) (R .everything) (b.request κ.index list page w).1
  /-- A list that has a view for failures makes it. -/
  renderError : ∀ list message (w : Workspace A) view w',
    b.renderError κ.index list message w = (w', some view) → w.Makes κ (R κ.failure) view w'
  /-- A list that has none does nothing. -/
  renderNothing : ∀ list message (w : Workspace A) w',
    b.renderError κ.index list message w = (w', none) → w.Notes κ [] w'
  releaseView : ∀ view (w : Workspace A),
    w.Enters κ (.released view) (R κ.release) (b.releaseView κ.index view w)
  listen : ∀ event (w : Workspace A),
    w.Enters κ (.told event) (R .everything) (b.listen κ.index event w)
  /-- What other page controllers ask for may come back to this one. -/
  elsewhere : ∀ i, i ≠ κ.index → b.Obliges i (R .everything)
  disposeFeature : ∀ c w, R .everything w (b.disposeFeature c w)
  showError : ∀ c message w, R .everything w (b.showError c message w)

/-- All calls of an application are written down and go along the relations of their leeway. -/
structure Reactions.Minuted (κ : Charter A) (R : Leeway → Workspace A → Workspace A → Prop)
    (r : Reactions A) : Prop where
  lists : r.toBehaviour.Minuted κ R
  render : ∀ list context (w : Workspace A), w.Makes κ (R κ.render)
    (r.render κ.index list context w).2 (r.render κ.index list context w).1
  renderElsewhere : ∀ i, i ≠ κ.index → ∀ list context w,
    R .everything w (r.render i list context w).1
  run : ∀ m w, R .everything w (r.run m w).1
  resume : ∀ m w, R .everything w (r.resume m w).1

/-- For each leeway, a relation holds between the workspace before and after whatever it allows to do to
the page controller of a charter; running it and changing its page is written down first. -/
structure Customs (κ : Charter A) (R : Leeway → Workspace A → Workspace A → Prop) : Prop where
  trans : ∀ {l w w' w''}, R l w w' → R l w' w'' → R l w w''
  /-- The controller may always be left alone. -/
  aside : ∀ {l} {w w' : Workspace A}, w.Notes κ [] w' → R l w w'
  runList : ∀ {b : Behaviour A}, b.Minuted κ R → ∀ {l} {w w' : Workspace A}, l ≠ .nothing →
    w.Notes κ [.called] w' → ∀ list parameters, R l w (w'.runList b κ.index list parameters)
  changePage : ∀ {b : Behaviour A}, b.Minuted κ R → ∀ {l} {w w' : Workspace A}, l ≠ .nothing →
    w.Notes κ [.called] w' → ∀ page, R l w (w'.changePage b κ.index page)
  closeList : ∀ {b : Behaviour A}, b.Minuted κ R → ∀ {l}, l ≠ .nothing →
    ∀ w : Workspace A, R l w (w.closeList b κ.index)
  showFailure : ∀ {b : Behaviour A}, b.Minuted κ R → ∀ (w : Workspace A) page message,
    R .everything w (w.showFailure b κ.index page message)

/-- An application keeps to a charter: it does to the page controller only what can be done from
outside, within the leeway of each call, and the minutes are complete. -/
def Reactions.Candid (κ : Charter A) (r : Reactions A) : Prop :=
  ∀ R, Customs κ R → r.Minuted κ R

/-- So does a deed of somebody else. -/
def Turn.Candid (κ : Charter A) : Turn A → Prop
  | other deed => ∀ R, Customs κ R → ∀ w, R .everything w (deed w)
  | _ => True

/-! ### Writing things down -/

namespace Workspace

variable {κ : Charter A} {w w' w'' : Workspace A} {entries : List (Minute A.View)}

/-- Nothing is written down as long as nothing happens. -/
lemma Quiet.notes (quiet : w.Quiet w') : w.Notes κ [] w' :=
  ⟨.of_eq quiet.lists quiet.pool, by rw [quiet.state, List.append_nil]⟩

/-- What the application remembers has changed, and nothing else. -/
lemma Notes.of_state (lists : w'.lists = w.lists) (pool : w'.pool = w.pool)
    (minutes : κ.minutes w'.state = κ.minutes w.state ++ entries) : w.Notes κ entries w' :=
  ⟨.of_eq lists pool, minutes⟩

lemma Notes.trans (first : w.Notes κ [] w') (second : w'.Notes κ [] w'') : w.Notes κ [] w'' where
  apart := first.apart.trans second.apart
  minutes := by rw [second.minutes, first.minutes, List.append_nil]

lemma Notes.setList {i : Nat} (other : i ≠ κ.index) (c : PageController A.Listing A.View) :
    w.Notes κ [] (w.setList i c) :=
  ⟨.setList other, (List.append_nil _).symm⟩

lemma Notes.spawn {work : Work} (other : work.isAbout κ.index = false)
    (spawned : w.spawn work = .ok w') : w.Notes κ [] w' := by
  obtain ⟨pool, -, rfl⟩ := spawn_eq_ok spawned
  exact ⟨.spawn other spawned, (List.append_nil _).symm⟩

end Workspace

/-! ### Other controllers and the navigator -/

namespace Customs

variable {κ : Charter A} {R : Leeway → Workspace A → Workspace A → Prop} (customs : Customs κ R)
include customs

lemma refl {l : Leeway} (w : Workspace A) : R l w w :=
  customs.aside (Workspace.Quiet.refl w).notes

/-- What happens to other page controllers is customary. -/
lemma pliable {i : Nat} (other : i ≠ κ.index) : Pliable i (R .everything) where
  trans := customs.trans
  quiet quiet := customs.aside quiet.notes
  setList _ c := customs.aside (.setList other c)
  spawn := by
    rintro w w' work (about | ⟨url, rfl⟩) spawned
    · refine customs.aside (.spawn ?_ spawned)
      cases work with
      | load j s page fetch =>
        obtain rfl : j = i := by simpa [Work.isAbout] using about
        simpa [Work.isAbout] using other
      | navigate sequel =>
        cases sequel with
        | reload j page =>
          obtain rfl : j = i := by simpa [Work.isAbout] using about
          simpa [Work.isAbout] using other
        | _ => rfl
      | _ => rfl
    · exact customs.aside (.spawn rfl spawned)

/-- What the navigator wants done is customary. -/
lemma perform {b : Behaviour A} (minuted : b.Minuted κ R) (w : Workspace A)
    (effect : Effect (Controller A.Feature)) : R .everything w (w.perform b effect) := by
  rcases effect with record | (c | i) | ⟨c | i, message⟩
  · exact customs.aside (Workspace.Quiet.notes ⟨rfl, rfl, rfl⟩)
  · exact minuted.disposeFeature c w
  · by_cases own : i = κ.index
    · subst own
      exact customs.closeList minuted (l := .everything) nofun w
    · exact (customs.pliable own).yielding.closeList (minuted.elsewhere i own).displays w
  · exact minuted.showError c message w
  · by_cases own : i = κ.index
    · subst own
      exact customs.showFailure minuted w 0 message
    · exact (customs.pliable own).yielding.showFailure (minuted.elsewhere i own).displays w 0 message

/-- All of the navigator's work is customary. -/
lemma serves {r : Reactions A} (minuted : r.Minuted κ R) : r.Serves (R .everything) where
  lists := {
    refl := customs.refl
    trans := customs.trans
    quiet := fun quiet => customs.aside quiet.notes
    perform := customs.perform minuted.lists }
  run := minuted.run
  resume := minuted.resume

/-- So is every turn, unless it is a matter of the tasks, or the controller itself is called from
outside, which is not written down. -/
lemma turn_cases {r : Reactions A} (minuted : r.Minuted κ R) (w : Workspace A) {u : Turn A}
    (polite : u.Candid κ) :
    R .everything w (w.turn r u) ∨ (∃ list parameters, u = .run κ.index list parameters) ∨
      (∃ page, u = .changePage κ.index page) ∨ (∃ fuel task, u = .task fuel task) ∨
      u = .closeTasks := by
  have lists := minuted.lists
  cases u with
  | run i list parameters =>
    by_cases own : i = κ.index
    · exact .inr (.inl ⟨list, parameters, by rw [own]⟩)
    · exact .inl ((customs.pliable own).runList (lists.elsewhere i own) w list parameters)
  | changePage i page =>
    by_cases own : i = κ.index
    · exact .inr (.inr (.inl ⟨page, by rw [own]⟩))
    · exact .inl ((customs.pliable own).changePage (lists.elsewhere i own) w page)
  | showError i message => exact .inl (customs.perform lists w (.showError (.pages i) message))
  | close i => exact .inl (customs.perform lists w (.dispose (.pages i)))
  | task fuel task => exact .inr (.inr (.inr (.inl ⟨fuel, task, rfl⟩)))
  | deliver fetch answer =>
    refine .inl (customs.aside ⟨.deliver w fetch answer, ?_⟩)
    unfold Workspace.turn Workspace.deliver
    dsimp only
    split <;> exact (List.append_nil _).symm
  | closeTasks => exact .inr (.inr (.inr (.inr rfl)))
  | other deed => exact .inl (polite R customs w)

end Customs

/-! ### A diary -/

namespace Diary

/-- An application that does nothing but keep minutes of its first page controller. A list may want
another page to be shown as soon as its first one is. -/
def application : Application where
  State := List (Minute Nat)
  Middleware := Empty
  Feature := Empty
  Past := MemoryHistory
  Listing := Option Nat
  View := Nat
  middlewareNamed := ⟨nofun⟩
  featureNamed := ⟨nofun⟩

/-- What has been written down. -/
def minutes (w : Workspace application) : List (Minute Nat) := w.state

/-- Write something down about the first page controller. -/
def note (index : Nat) (entry : Minute Nat) (w : Workspace application) : Workspace application :=
  if index = 0 then { w with state := (minutes w ++ [entry] : List (Minute Nat)) } else w

/-- Make a view that there has not been before. -/
def make (index : Nat) (w : Workspace application) : Workspace application × Nat :=
  let view := (minutes w).length
  (note index (.made view) w, view)

/-- What its lists do. -/
def behaviour : Behaviour application where
  urlForPage _ page := "/" ++ toString page
  request index _ page w :=
    ({ note index (.fetched page) w with nextFetch := w.nextFetch + 1 }, w.nextFetch)
  renderError index _ _ w :=
    let made := make index (note index .making w)
    (made.1, some made.2)
  releaseView index view := note index (.released view)
  listen index event := note index (.told event)
  disposeFeature := nofun
  showError := nofun

/-- Make the view of a page. -/
def render (index : Nat) (list : Option Nat) (context : PageContext) (w : Workspace application) :
    Workspace application × Nat :=
  let w := note index .making w
  match list with
  | some page =>
    if context.currentPage = 1 then
      make index ((note index .called w).changePage behaviour index page)
    else make index w
  | none => make index w

/-- What the application does. -/
def reactions : Reactions application :=
  { behaviour with render, run := nofun, resume := nofun }

/-- A page controller with a navigator, which has no routes, or without one; nothing is written down. -/
def desk (linked : Bool) (history : MemoryHistory) : Workspace application where
  state := ([] : List (Minute Nat))
  navigator := { config := {}, table := {}, history, scroll := .empty 1 }
  hasNavigator := linked
  lists := [{ controller := { pageKey := "page" }, linked }]

variable {κ : Charter application}
  {R : Leeway → Workspace application → Workspace application → Prop}

lemma notes_note (here : κ.minutes = id) (entry : Minute Nat) (w : Workspace application) :
    w.Notes κ [entry] (note 0 entry w) :=
  .of_state rfl rfl (by rw [here]; rfl)

/-- What goes on elsewhere is not in the diary. -/
lemma aside_note (customs : Customs κ R) (own : κ.index = 0) {i : Nat} (other : i ≠ κ.index)
    (l : Leeway) (entry : Minute Nat) (w : Workspace application) : R l w (note i entry w) := by
  rw [own] at other
  rw [note, if_neg other]
  exact customs.refl w

lemma behaviour_minuted (customs : Customs κ R) (own : κ.index = 0) (here : κ.minutes = id) :
    behaviour.Minuted κ R where
  request list page w := by
    rw [own]
    refine ⟨note 0 (.fetched page) w, notes_note here _ w, customs.aside ?_⟩
    exact .of_state rfl rfl (List.append_nil _).symm
  renderError list message w view w' made := by
    rw [own] at made
    obtain ⟨rfl, same⟩ := Prod.mk.inj made
    obtain rfl := Option.some.inj same
    exact ⟨_, _, notes_note here _ w, customs.refl _, notes_note here _ _⟩
  renderNothing list message w w' made := by
    cases (Prod.mk.inj made).2
  releaseView view w := by
    rw [own]
    exact ⟨_, notes_note here _ w, customs.refl _⟩
  listen event w := by
    rw [own]
    exact ⟨_, notes_note here _ w, customs.refl _⟩
  elsewhere i other := {
    request := fun list page w => by
      refine customs.trans (aside_note customs own other _ (.fetched page) w) ?_
      exact customs.aside (.of_state rfl rfl (List.append_nil _).symm)
    renderError := fun list message w =>
      customs.trans (aside_note customs own other _ .making w)
        (aside_note customs own other _ _ _)
    releaseView := fun view w => aside_note customs own other _ (.released view) w
    listen := fun event w => aside_note customs own other _ (.told event) w }
  disposeFeature := nofun
  showError := nofun

/-- The diary keeps to every charter under which the page may be changed while it is rendered. -/
theorem candid_reactions (own : κ.index = 0) (here : κ.minutes = id)
    (leeway : κ.render ≠ .nothing) : reactions.Candid κ := by
  intro R customs
  have minuted := behaviour_minuted customs own here
  refine ⟨minuted, fun list context w => ?_, fun i other list context w => ?_, nofun, nofun⟩
  · rw [own]
    rcases list with _ | page
    · exact ⟨_, _, notes_note here _ w, customs.refl _, notes_note here _ _⟩
    · show w.Makes κ _ (render 0 (some page) context w).2 (render 0 (some page) context w).1
      unfold render
      dsimp only
      split
      · have changed := customs.changePage minuted leeway (notes_note here .called
          (note 0 .making w)) page
        rw [own] at changed
        exact ⟨_, _, notes_note here _ w, changed, notes_note here _ _⟩
      · exact ⟨_, _, notes_note here _ w, customs.refl _, notes_note here _ _⟩
  · have noted : ∀ {w : Workspace application} entry, R .everything w (note i entry w) :=
      fun entry => aside_note customs own other _ entry _
    show R .everything w (render i list context w).1
    unfold render
    dsimp only
    refine customs.trans (noted .making) ?_
    split
    · split
      · refine customs.trans (noted .called) (customs.trans ?_ (noted _))
        exact (customs.pliable other).changePage (minuted.elsewhere i other) _ _
      · exact noted _
    · exact noted _

end Diary

end Wayfinder
