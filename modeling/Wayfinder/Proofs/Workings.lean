/-
The workings of a page controller.

Between two calls of the application a page controller does little: it changes itself, it writes into
the log, and it tells the navigator when to scroll. So each operation on a page controller is a
succession of calls of the application, with changes of the controller at known places and nothing else
that matters in between (`Workspace.Quiet`). The successions are laid out here, with one constructor
for each way that an operation can take; whoever proves something of page controllers goes through them.

* `Workspace.Fails`, `Workspace.Loads`: a failure that is shown, and a page that is asked for.
* `Workspace.Runs`, `Workspace.Changes`, `Workspace.Closes`: the calls from outside.
* `Workspace.Shows`: a page that is shown.
* `Workspace.Polls`: the turn of a task.
* `Yielding`, `Pliable`: relations that go along all of this, or some of it, for one page controller.
* `Distant`: relations that see of all this only what the navigator sees.
-/
import Wayfinder.Proofs.PageNumbers
import Wayfinder.Proofs.Turns

namespace Wayfinder

variable {A : Application}

namespace PageController

variable {ρ ν : Type}

/-- A page controller has a list, or it needs none any more. -/
def Listed (c : PageController ρ ν) : Prop := c.list.isSome = true ∨ c.status = .disposed

/-- A page controller that begins to load a page. -/
def awaiting (c : PageController ρ ν) (page : Nat) : PageController ρ ν :=
  { c with sequence := c.sequence + 1, status := .loading page, view := none }

/-- A page controller that begins to show a failure. -/
def failing (c : PageController ρ ν) (message : String) : PageController ρ ν :=
  { c with status := .failed message, view := none }

/-- A page controller at its end. -/
def ended (c : PageController ρ ν) : PageController ρ ν :=
  { c with sequence := c.sequence + 1, status := .disposed, list := none, view := none }

end PageController

namespace Workspace

variable {w w' w'' : Workspace A} {b : Behaviour A} {r : Reactions A} {i page : Nat}
  {message : String}

lemma Quiet.refl (w : Workspace A) : w.Quiet w := ⟨rfl, rfl, rfl⟩

lemma Quiet.list? (quiet : w.Quiet w') (i : Nat) : w'.list? i = w.list? i := by
  rw [Workspace.list?, Workspace.list?, quiet.lists]

lemma quiet_contentRendered (w : Workspace A) (i : Nat) : w.Quiet (w.contentRendered i) := by
  unfold contentRendered
  split
  · exact ⟨rfl, rfl, rfl⟩
  · exact .refl w

/-! ### Showing a failure -/

/-- The view of a failure is made, if the list has one. -/
def makeFailure (b : Behaviour A) (i : Nat) (list : Option A.Listing) (message : String)
    (w : Workspace A) : Workspace A × Option A.View :=
  match list with
  | some list => b.renderError i list message w
  | none => (w, none)

/-- The view of a failure is put in its place. -/
def putFailure (w : Workspace A) (i : Nat) (view : Option A.View) : Workspace A :=
  match w.list? i with
  | some c => w.setList i (c.installFailure view)
  | none => w

/-- What showing a failure amounts to. -/
inductive Fails (b : Behaviour A) (w : Workspace A) (i page : Nat) (message : String) :
    Workspace A → Prop
  /-- The controller is at its end. -/
  | idle {w' : Workspace A} (ended : ∀ c, w.list? i = some c → c.status = .disposed)
      (quiet : w.Quiet w') : Fails b w i page message w'
  /-- The view that was shown is released, and another one is made and shown. -/
  | shown {w₁ w₂ w' : Workspace A} {view : Option A.View} {c : PageController A.Listing A.View}
      (here : w.list? i = some c) (alive : c.status ≠ .disposed) (quiet : w.Quiet w₁)
      (made : makeFailure b i c.list message
        ((w₁.setList i (c.failing message)).releaseView b i c.view) = (w₂, view))
      (rendered : (b.listen i (.failed page message) (w₂.putFailure i view)).Quiet w') :
      Fails b w i page message w'

lemma fails (b : Behaviour A) (w : Workspace A) (i page : Nat) (message : String) :
    Fails b w i page message (w.showFailure b i page message) := by
  by_cases ended : ∀ c, w.list? i = some c → c.status = .disposed
  · obtain ⟨records, same⟩ := showFailure_eq_report (b := b) page message ended
    rw [same]
    exact .idle ended ⟨rfl, rfl, rfl⟩
  · obtain ⟨c, here, alive⟩ : ∃ c, w.list? i = some c ∧ c.status ≠ .disposed := by
      simpa using ended
    have begun : (w.list? i).bind (·.beginFailure message) =
        some (c.failing message, c.list, c.view) := by
      rw [here, Option.bind_some, PageController.beginFailure, if_neg alive, PageController.failing]
    unfold showFailure
    dsimp only
    split
    · rename_i none
      cases begun.symm.trans none
    · rename_i failed list previous found
      obtain ⟨rfl, rfl, rfl⟩ : failed = _ ∧ list = _ ∧ previous = _ := by
        simpa using Option.some.inj (found.symm.trans begun)
      have reported : w.Quiet (w.report
          [.warn ("Loading page " ++ toString page ++ " failed: " ++ message)]) := ⟨rfl, rfl, rfl⟩
      exact .shown here alive reported rfl (quiet_contentRendered _ i)

/-! ### Loading a page -/

/-- No task is added just if none are run. -/
lemma isOpen_of_spawn {work : Work} {reason : String} (refused : w.spawn work = .error reason) :
    w.pool.isOpen = false := by
  unfold spawn TaskPool.spawn? at refused
  by_cases isOpen : w.pool.isOpen = true
  · rw [if_pos isOpen] at refused
    cases refused
  · exact Bool.eq_false_iff.mpr isOpen

/-- What loading a page amounts to. -/
inductive Loads (b : Behaviour A) (w : Workspace A) (i page : Nat) : Workspace A → Prop
  /-- The controller is at its end, or it has no list. -/
  | idle (idle : ∀ c, w.list? i = some c → c.status = .disposed ∨ c.list = none) :
      Loads b w i page w
  /-- The view that was shown is released, and the page is asked for. -/
  | asked {w₁ w₂ w' : Workspace A} {c : PageController A.Listing A.View} {list : A.Listing}
      {fetch : Nat} (here : w.list? i = some c) (alive : c.status ≠ .disposed)
      (listed : c.list = some list)
      (quiet : ((w.setList i (c.awaiting page)).releaseView b i c.view).Quiet w₁)
      (asks : b.request i list page (b.listen i (.loading page) w₁) = (w₂, fetch))
      (spawned : w₂.spawn (.load i (c.sequence + 1) page fetch) = .ok w') : Loads b w i page w'
  /-- No task waits for the page, since none are run. -/
  | refused {w₁ w₂ w₃ : Workspace A} {c : PageController A.Listing A.View} {list : A.Listing}
      {fetch : Nat} (here : w.list? i = some c) (alive : c.status ≠ .disposed)
      (listed : c.list = some list)
      (quiet : ((w.setList i (c.awaiting page)).releaseView b i c.view).Quiet w₁)
      (asks : b.request i list page (b.listen i (.loading page) w₁) = (w₂, fetch))
      (reported : w₂.Quiet w₃) (closed : w₂.pool.isOpen = false) :
      Loads b w i page (w₃.showFailure b i page "Could not start loading the page.")

lemma loads (b : Behaviour A) (w : Workspace A) (i page : Nat) :
    Loads b w i page (w.load b i page) := by
  by_cases idle : ∀ c, w.list? i = some c → c.status = .disposed ∨ c.list = none
  · have refused : (w.list? i).bind (·.beginLoad page) = none := by
      rcases here : w.list? i with _ | c
      · rfl
      · rw [Option.bind_some, PageController.beginLoad]
        rcases idle c here with ended | unlisted
        · rw [if_pos ended]
        · rw [unlisted]
          split <;> rfl
    unfold load
    rw [refused]
    exact .idle idle
  · obtain ⟨c, here, alive, listed⟩ :
        ∃ c, w.list? i = some c ∧ c.status ≠ .disposed ∧ c.list ≠ none := by
      simpa using idle
    obtain ⟨list, listed⟩ := Option.ne_none_iff_exists'.mp listed
    have begun : (w.list? i).bind (·.beginLoad page) =
        some (c.awaiting page, { sequence := c.sequence + 1, list, previous := c.view }) := by
      rw [here, Option.bind_some, PageController.beginLoad, if_neg alive, listed, Option.map_some,
        PageController.awaiting, listed]
    unfold load
    rw [begun]
    dsimp only
    split
    · rename_i spawned
      refine .asked here alive listed ?_ rfl spawned
      split <;> exact ⟨rfl, rfl, rfl⟩
    · rename_i refused
      refine .refused here alive listed ?_ rfl ⟨rfl, rfl, rfl⟩ (isOpen_of_spawn refused)
      split <;> exact ⟨rfl, rfl, rfl⟩

/-! ### Calls from outside -/

/-- What running a list amounts to. -/
inductive Runs (b : Behaviour A) (w : Workspace A) (i : Nat) (list : A.Listing)
    (parameters : Parameters) : Workspace A → Prop
  /-- There is no controller, or it is at its end. -/
  | idle {w' : Workspace A} (quiet : w.Quiet w') : Runs b w i list parameters w'
  /-- The list is taken up, and its page is loaded. -/
  | loaded {c : PageController A.Listing A.View} (page : Nat) (here : w.list? i = some c)
      (alive : c.status ≠ .disposed) (positive : 1 ≤ page) : Runs b w i list parameters
        ((w.setList i { c with list := some list, parameters }).load b i page)

lemma runs (b : Behaviour A) (w : Workspace A) (i : Nat) (list : A.Listing)
    (parameters : Parameters) : Runs b w i list parameters (w.runList b i list parameters) := by
  unfold runList
  split
  · exact .idle (.refl w)
  · rename_i c here
    split
    · exact .idle ⟨rfl, rfl, rfl⟩
    · rename_i c' page started
      unfold PageController.start at started
      split at started
      · cases started
      · rename_i alive
        obtain ⟨rfl, rfl⟩ := Prod.mk.inj (Option.some.inj started)
        exact .loaded _ here alive (parameters.one_le_page _)

/-- What changing the page amounts to. -/
inductive Changes (b : Behaviour A) (w : Workspace A) (i : Nat) : Workspace A → Prop
  /-- There is nothing to change, or the change has to wait. -/
  | idle {w' : Workspace A} (quiet : w.Quiet w') : Changes b w i w'
  /-- The page is loaded. -/
  | loaded {w₁ : Workspace A} {c : PageController A.Listing A.View} (page : Nat)
      (quiet : w.Quiet w₁) (here : w.list? i = some c) (positive : 1 ≤ page) :
      Changes b w i ((w₁.setList i (c.setPage page)).load b i page)
  /-- The navigator is asked to go there. -/
  | pushed {w₁ w' : Workspace A} {url : String} (quiet : w.Quiet w₁)
      (spawned : w₁.spawn (.push url) = .ok w') : Changes b w i w'

lemma changes (b : Behaviour A) (w : Workspace A) (i page : Nat) :
    Changes b w i (w.changePage b i page) := by
  unfold changePage
  dsimp only
  split
  · exact .idle (.refl w)
  · rename_i c list found
    obtain ⟨d, here, -⟩ := Option.bind_eq_some_iff.mp found
    have switch : ∀ {w₁ : Workspace A}, w.Quiet w₁ → Changes b w i
        ((w₁.setList i (((w₁.list? i).getD c).setPage (max 1 page))).load b i (max 1 page)) := by
      intro w₁ quiet
      rw [quiet.list?, here]
      exact .loaded _ quiet here (Nat.le_max_left ..)
    split
    · -- The address has changed in place, or the navigator is busy or refuses.
      split
      · exact switch ⟨rfl, rfl, rfl⟩
      · exact .idle ⟨rfl, rfl, rfl⟩
      · split
        · rename_i spawned
          refine .pushed ?_ spawned
          exact ⟨rfl, rfl, rfl⟩
        · exact .idle ⟨rfl, rfl, rfl⟩
    · exact switch (.refl w)

/-- What ending a page controller amounts to. -/
inductive Closes (b : Behaviour A) (w : Workspace A) (i : Nat) : Workspace A → Prop
  /-- It is at its end already. -/
  | idle (ended : ∀ c, w.list? i = some c → c.status = .disposed) : Closes b w i w
  /-- The view that was shown is released. -/
  | closed {w₁ : Workspace A} {c : PageController A.Listing A.View} (here : w.list? i = some c)
      (alive : c.status ≠ .disposed) (quiet : (w.setList i c.ended).Quiet w₁) :
      Closes b w i (w₁.releaseView b i c.view)

lemma closes (b : Behaviour A) (w : Workspace A) (i : Nat) : Closes b w i (w.closeList b i) := by
  by_cases ended : ∀ c, w.list? i = some c → c.status = .disposed
  · have refused : (w.list? i).bind (·.close) = none := by
      rcases here : w.list? i with _ | c
      · rfl
      · rw [Option.bind_some, PageController.close, if_pos (ended c here)]
    unfold closeList
    rw [refused]
    exact .idle ended
  · obtain ⟨c, here, alive⟩ : ∃ c, w.list? i = some c ∧ c.status ≠ .disposed := by
      simpa using ended
    have begun : (w.list? i).bind (·.close) = some (c.ended, c.view) := by
      rw [here, Option.bind_some, PageController.close, if_neg alive, PageController.ended]
    unfold closeList
    rw [begun]
    exact .closed here alive ⟨rfl, rfl, rfl⟩

/-! ### Showing a page -/

/-- What showing a page amounts to: the view that was shown is released, the view of the page is made,
and then it is shown, unless it is dropped. -/
inductive Shows (r : Reactions A) (w : Workspace A) (i s : Nat) (list : A.Listing)
    (context : PageContext) (c : PageController A.Listing A.View) : Workspace A → Prop
  /-- The controller has moved on meanwhile, so the view is released. -/
  | dropped {w₁ : Workspace A} {view : A.View}
      (made : r.render i list context
        ((w.setList i { c with view := none }).releaseView r.toBehaviour i c.view) = (w₁, view))
      (late : ∀ d, w₁.list? i = some d → d.isStale s = true) :
      Shows r w i s list context c (r.releaseView i view w₁)
  /-- The view is shown. -/
  | shown {w₁ w₂ w' : Workspace A} {view : A.View} {d : PageController A.Listing A.View}
      (made : r.render i list context
        ((w.setList i { c with view := none }).releaseView r.toBehaviour i c.view) = (w₁, view))
      (here : w₁.list? i = some d) (counts : d.isStale s = false)
      (installed : (w₁.setList i { d with
        view := some view, status := .ready context.currentPage context.totalPages }).Quiet w₂)
      (rendered : (r.listen i (.rendered context.currentPage context.totalPages) w₂).Quiet w') :
      Shows r w i s list context c w'

lemma shows {c : PageController A.Listing A.View} (here : w.list? i = some c) (s : Nat)
    (list : A.Listing) (context : PageContext) :
    Shows r w i s list context c (w.showPage r.toBehaviour r.render i s list context) := by
  unfold showPage
  rw [here]
  dsimp only
  split
  · rename_i refused
    refine .dropped rfl fun d here' => ?_
    by_contra counts
    have installs := refused
    rw [show (_ : Workspace A).list? i = some d from here', Option.bind_some, PageController.install,
      if_neg counts] at installs
    cases installs
  · rename_i made installed
    obtain ⟨d, here', shown⟩ := Option.bind_eq_some_iff.mp installed
    unfold PageController.install at shown
    split at shown
    · cases shown
    · rename_i counts
      obtain rfl := Option.some.inj shown
      refine .shown rfl here' (by simpa using counts) ?_ (quiet_contentRendered _ i)
      exact ⟨rfl, rfl, rfl⟩

/-! ### Turns of tasks -/

/-- What a task does with an outcome: nothing that matters, or a page controller loads a page itself. -/
lemma conclude_cases (w : Workspace A) (outcome : Outcome) (sequel : Sequel) :
    w.Quiet (w.conclude r outcome sequel) ∨ ∃ i page w₁, sequel = .reload i page ∧ w.Quiet w₁ ∧
      w.conclude r outcome sequel = w₁.load r.toBehaviour i page := by
  cases sequel with
  | report number => exact .inl ⟨rfl, rfl, rfl⟩
  | ignore => exact .inl (.refl w)
  | reload i page =>
    rw [conclude]
    split
    · exact .inl (.refl w)
    · dsimp only
      split
      · refine .inr ⟨i, page, _, rfl, ?_, rfl⟩
        exact ⟨rfl, rfl, rfl⟩
      · exact .inl ⟨rfl, rfl, rfl⟩

/-- What the turn of a task amounts to. -/
inductive Polls (r : Reactions A) (fuel task : Nat) (w : Workspace A) : Workspace A → Prop
  /-- The task is not there, or it goes on waiting. -/
  | idle : Polls r fuel task w w
  /-- There is nowhere to go. -/
  | finished {w₁ : Workspace A} (quiet : w.Quiet w₁) :
      Polls r fuel task w { w₁ with pool := w₁.pool.remove task }
  /-- It sets out. -/
  | starts {work : Work} {kind : Kind} {url : String} {sequel : Sequel}
      (found : (task, work) ∈ w.pool.tasks) (plain : ∀ index page, sequel ≠ .reload index page) :
      Polls r fuel task w (w.navigateIn r fuel task kind url sequel)
  /-- It goes on with its navigation. -/
  | resumed {sequel : Sequel} (found : (task, .navigate sequel) ∈ w.pool.tasks) :
      Polls r fuel task w (settle r task sequel (w.resume r fuel))
  /-- It takes the answer to a request. -/
  | answered {w' : Workspace A} {i s page fetch : Nat} {answer : Except FetchError PageResult}
      (found : w.pool.tasks.lookup task = some (.load i s page fetch))
      (answered : w.answers.lookup fetch = some answer)
      (handles : Handles r fuel task (w.takeAnswer fetch) i s page answer w') :
      Polls r fuel task w w'

lemma polls (r : Reactions A) (fuel task : Nat) (w : Workspace A) :
    Polls r fuel task w (w.poll r fuel task) := by
  rcases found : w.pool.tasks.lookup task with _ | work
  · unfold poll
    rw [found]
    exact .idle
  · have mem := TaskPool.mem_of_lookup found
    cases work with
    | load i s page fetch =>
      rcases answered : w.answers.lookup fetch with _ | answer
      · rw [poll_load_waiting found answered]
        exact .idle
      · exact .answered found answered (poll_load found answered)
    | call number call =>
      unfold poll
      rw [found]
      dsimp only
      split
      · exact .starts mem nofun
      · have finished : w.Quiet { w with finished := w.finished ++ [(number, none)] } :=
          ⟨rfl, rfl, rfl⟩
        exact .finished finished
    | push url =>
      unfold poll
      rw [found]
      exact .starts mem nofun
    | navigate sequel =>
      unfold poll
      rw [found]
      exact .resumed mem

end Workspace

/-! ### Relations that go along -/

/-- What a page controller asks of the application in order to show something goes along a relation. -/
structure Behaviour.Displays (b : Behaviour A) (i : Nat) (R : Workspace A → Workspace A → Prop) :
    Prop where
  renderError : ∀ list message w, R w (b.renderError i list message w).1
  releaseView : ∀ view w, R w (b.releaseView i view w)
  listen : ∀ event w, (∀ page url, event ≠ .redirected page url) → R w (b.listen i event w)

/-- A relation that does not mind what happens to one page controller, unless it is redirected or loses
its list. -/
structure Yielding (i : Nat) (R : Workspace A → Workspace A → Prop) : Prop where
  trans : ∀ {w w' w''}, R w w' → R w' w'' → R w w''
  quiet : ∀ {w w'}, w.Quiet w' → R w w'
  setList : ∀ {w : Workspace A} {c c'}, w.list? i = some c → c'.redirected = c.redirected →
    (c.Listed → c'.Listed) → R w (w.setList i c')

/-- All that a page controller asks of the application goes along a relation. -/
structure Behaviour.Obliges (b : Behaviour A) (i : Nat) (R : Workspace A → Workspace A → Prop) :
    Prop where
  request : ∀ list page w, R w (b.request i list page w).1
  renderError : ∀ list message w, R w (b.renderError i list message w).1
  releaseView : ∀ view w, R w (b.releaseView i view w)
  listen : ∀ event w, R w (b.listen i event w)

/-- A relation that does not mind what happens to one page controller and its tasks. -/
structure Pliable (i : Nat) (R : Workspace A → Workspace A → Prop) : Prop where
  trans : ∀ {w w' w''}, R w w' → R w' w'' → R w w''
  quiet : ∀ {w w'}, w.Quiet w' → R w w'
  setList : ∀ w c, R w (w.setList i c)
  spawn : ∀ {w w' work}, work.isAbout i = true ∨ (∃ url, work = .push url) →
    w.spawn work = .ok w' → R w w'

/-- A relation that sees of a page controller only that it tells the navigator when to scroll. -/
structure Distant (R : Workspace A → Workspace A → Prop) : Prop where
  trans : ∀ {w w' w''}, R w w' → R w' w'' → R w w''
  still : ∀ {w w'}, w'.navigator = w.navigator → R w w'
  deferScroll : ∀ w, R w (w.onNavigator (·.deferScroll))
  contentRendered : ∀ w, R w (w.onNavigator (·.contentRendered))

variable {i : Nat} {R : Workspace A → Workspace A → Prop} {b : Behaviour A} {r : Reactions A}

lemma Behaviour.Obliges.displays (obliges : b.Obliges i R) : b.Displays i R :=
  { obliges with listen := fun event w _ => obliges.listen event w }

lemma Pliable.yielding (pliable : Pliable i R) : Yielding i R :=
  { pliable with setList := fun _ _ _ => pliable.setList _ _ }

open Workspace

namespace Yielding

variable (yielding : Yielding i R) (displays : b.Displays i R)
include yielding displays

lemma release (w : Workspace A) (view : Option A.View) : R w (w.releaseView b i view) := by
  cases view with
  | none => exact yielding.quiet (.refl w)
  | some view => exact displays.releaseView view w

lemma showFailure (w : Workspace A) (page : Nat) (message : String) :
    R w (w.showFailure b i page message) := by
  have fails := fails b w i page message
  generalize w.showFailure b i page message = w' at fails
  cases fails with
  | idle ended quiet => exact yielding.quiet quiet
  | @shown w₁ w₂ _ view c here alive quiet made rendered =>
    have failing : R w₁ (w₁.setList i (c.failing message)) :=
      yielding.setList ((quiet.list? i).trans here) rfl fun listed => .inl (listed.resolve_right alive)
    have released := yielding.trans failing (yielding.release displays _ c.view)
    have rendered' : R w₁ w₂ := by
      refine yielding.trans released ?_
      obtain rfl : w₂ = _ := (congrArg Prod.fst made).symm
      unfold makeFailure
      split
      · exact displays.renderError _ message _
      · exact yielding.quiet (.refl _)
    have put : R w₂ (w₂.putFailure i view) := by
      unfold putFailure
      split
      · rename_i d here'
        exact yielding.setList here' rfl id
      · exact yielding.quiet (.refl _)
    have told := yielding.trans (displays.listen _ _ (by simp)) (yielding.quiet rendered)
    exact yielding.trans (yielding.quiet quiet) (yielding.trans rendered' (yielding.trans put told))

lemma closeList (w : Workspace A) : R w (w.closeList b i) := by
  have closes := closes b w i
  generalize w.closeList b i = w' at closes
  cases closes with
  | idle ended => exact yielding.quiet (.refl w)
  | @closed w₁ c here alive quiet =>
    have closed : R w (w.setList i c.ended) := yielding.setList here rfl fun _ => .inr rfl
    exact yielding.trans closed
      (yielding.trans (yielding.quiet quiet) (yielding.release displays _ _))

omit displays

lemma showPage (displays : r.toBehaviour.Displays i R)
    (render : ∀ list context w, R w (r.render i list context w).1) {w : Workspace A}
    {c : PageController A.Listing A.View} (here : w.list? i = some c) (s : Nat) (list : A.Listing)
    (context : PageContext) : R w (w.showPage r.toBehaviour r.render i s list context) := by
  have made : ∀ {w₁ view}, r.render i list context
      ((w.setList i { c with view := none }).releaseView r.toBehaviour i c.view) = (w₁, view) →
      R w w₁ := by
    intro w₁ view made
    have begun : R w (w.setList i { c with view := none }) := yielding.setList here rfl id
    obtain rfl : w₁ = _ := (congrArg Prod.fst made).symm
    exact yielding.trans begun
      (yielding.trans (yielding.release displays _ c.view) (render list context _))
  have shows := shows (r := r) here s list context
  generalize w.showPage r.toBehaviour r.render i s list context = w' at shows
  cases shows with
  | dropped made' late => exact yielding.trans (made made') (displays.releaseView _ _)
  | @shown w₁ w₂ _ view d made' here' counts installed rendered =>
    have alive : d.status ≠ .disposed := by
      intro ended
      simp [PageController.isStale, ended] at counts
    have put : R w₁ (w₁.setList i { d with
        view := some view, status := .ready context.currentPage context.totalPages }) :=
      yielding.setList here' rfl fun listed => .inl (listed.resolve_right alive)
    have told := yielding.trans (displays.listen _ _ (by simp)) (yielding.quiet rendered)
    exact yielding.trans (made made')
      (yielding.trans put (yielding.trans (yielding.quiet installed) told))

end Yielding

namespace Pliable

variable (pliable : Pliable i R) (obliges : b.Obliges i R)
include pliable obliges

lemma load (w : Workspace A) (page : Nat) : R w (w.load b i page) := by
  have yielding := pliable.yielding
  have asking : ∀ {w₁ w₂ fetch list} {c : PageController A.Listing A.View},
      ((w.setList i (c.awaiting page)).releaseView b i c.view).Quiet w₁ →
      b.request i list page (b.listen i (.loading page) w₁) = (w₂, fetch) → R w w₂ := by
    intro w₁ w₂ fetch list c quiet asks
    have begun := pliable.trans (pliable.setList w (c.awaiting page))
      (yielding.release obliges.displays _ c.view)
    refine pliable.trans begun (pliable.trans (pliable.quiet quiet) ?_)
    refine pliable.trans (obliges.listen (.loading page) w₁) ?_
    have asked := obliges.request list page (b.listen i (.loading page) w₁)
    rwa [asks] at asked
  have loads := loads b w i page
  generalize w.load b i page = w' at loads
  cases loads with
  | idle idle => exact pliable.quiet (.refl w)
  | asked here alive listed quiet asks spawned =>
    exact pliable.trans (asking quiet asks) (pliable.spawn (.inl (by simp [Work.isAbout])) spawned)
  | refused here alive listed quiet asks reported =>
    exact pliable.trans (asking quiet asks)
      (pliable.trans (pliable.quiet reported) (yielding.showFailure obliges.displays _ page _))

lemma runList (w : Workspace A) (list : A.Listing) (parameters : Parameters) :
    R w (w.runList b i list parameters) := by
  have runs := runs b w i list parameters
  generalize w.runList b i list parameters = w' at runs
  cases runs with
  | idle quiet => exact pliable.quiet quiet
  | loaded page here alive => exact pliable.trans (pliable.setList w _) (pliable.load obliges _ page)

lemma changePage (w : Workspace A) (page : Nat) : R w (w.changePage b i page) := by
  have changes := changes b w i page
  generalize w.changePage b i page = w' at changes
  cases changes with
  | idle quiet => exact pliable.quiet quiet
  | loaded page quiet here =>
    exact pliable.trans (pliable.quiet quiet)
      (pliable.trans (pliable.setList _ _) (pliable.load obliges _ page))
  | pushed quiet spawned =>
    exact pliable.trans (pliable.quiet quiet) (pliable.spawn (.inr ⟨_, rfl⟩) spawned)

omit obliges

/-- The answer to a request is taken. -/
lemma complete (obliges : r.toBehaviour.Obliges i R)
    (render : ∀ list context w, R w (r.render i list context w).1) (w : Workspace A) (s page : Nat)
    (answer : Except FetchError PageResult) :
    R w (w.complete r.toBehaviour r.render i s page answer).1 := by
  have yielding := pliable.yielding
  rcases here : w.list? i with _ | c
  · unfold Workspace.complete
    rw [here]
    exact pliable.quiet (.refl w)
  have told : ∀ page' last records, R w (r.listen i (.redirected page' last)
      ((w.setList i { c with redirected := true }).report records)) := by
    intro page' last records
    let w₁ := w.setList i { c with redirected := true }
    have reported : R w₁ (w₁.report records) := pliable.quiet ⟨rfl, rfl, rfl⟩
    exact pliable.trans (pliable.setList w _) (pliable.trans reported (obliges.listen _ _))
  have completes : Completes r w i s page c answer _ := completes here answer
  generalize w.complete r.toBehaviour r.render i s page answer = done at completes
  cases completes with
  | stale records stale => exact pliable.quiet ⟨rfl, rfl, rfl⟩
  | unlisted counts listed => exact pliable.quiet (.refl w)
  | failed counts => exact yielding.showFailure obliges.displays w page _
  | redirected list records counts listed past told' reaches =>
    obtain rfl := told'
    exact told _ _ records
  | reloaded list records counts listed past told' =>
    obtain rfl := told'
    exact pliable.trans (told _ _ records) (pliable.load obliges _ _)
  | shown list counts listed current total =>
    exact yielding.showPage obliges.displays render here s list _

end Pliable

namespace Distant

variable (distant : Distant R) (within : b.Within R)
include distant

lemma rendered (w : Workspace A) (i : Nat) : R w (w.contentRendered i) := by
  unfold Workspace.contentRendered
  split
  · exact distant.contentRendered w
  · exact distant.still rfl

include within

lemma release (w : Workspace A) (i : Nat) (view : Option A.View) : R w (w.releaseView b i view) := by
  cases view with
  | none => exact distant.still rfl
  | some view => exact within.releaseView i view w

lemma showFailure (w : Workspace A) (i page : Nat) (message : String) :
    R w (w.showFailure b i page message) := by
  have trans := @distant.trans
  unfold Workspace.showFailure
  dsimp only
  split
  · exact distant.still rfl
  · rename_i c list previous begun
    let w₁ := (w.report
      [.warn ("Loading page " ++ toString page ++ " failed: " ++ message)]).setList i c
    have begun : R w w₁ := distant.still rfl
    have released := trans begun (distant.release within w₁ i previous)
    have put : ∀ {w₂ : Workspace A} {view}, R w w₂ → R w (match w₂.list? i with
        | some c => w₂.setList i (c.installFailure view)
        | none => w₂) := by
      intro w₂ view made
      split
      · exact trans made (distant.still rfl)
      · exact made
    refine trans (trans ?_ (within.listen i _ _)) (distant.rendered _ i)
    cases list with
    | none => exact put released
    | some list => exact put (trans released (within.renderError i list message _))

lemma load (w : Workspace A) (i page : Nat) : R w (w.load b i page) := by
  have trans := @distant.trans
  unfold Workspace.load
  split
  · exact distant.still rfl
  · rename_i c job begun
    have begun : R w (w.setList i c) := distant.still rfl
    have deferred : ∀ w : Workspace A,
        R w (if w.reachesNavigator i then w.onNavigator (·.deferScroll) else w) := by
      intro w
      split
      · exact distant.deferScroll w
      · exact distant.still rfl
    have asked : ∀ (w : Workspace A) records,
        R w (b.request i job.list page (b.listen i (.loading page) (w.report records))).1 := by
      intro w records
      have reported : R w (w.report records) := distant.still rfl
      exact trans reported (trans (within.listen i _ _) (within.request i job.list page _))
    have released := trans begun (distant.release within _ i job.previous)
    have requested := trans (trans released (deferred _))
      (asked _ [.debug s!"Requesting page {toString page} (request #{toString job.sequence})"])
    dsimp only
    split
    · rename_i spawned
      obtain ⟨pool, -, rfl⟩ := spawn_eq_ok spawned
      exact trans requested (distant.still rfl)
    · refine trans requested (trans ?_ (distant.showFailure within _ i page _))
      exact distant.still rfl

lemma runList (w : Workspace A) (i : Nat) (list : A.Listing) (parameters : Parameters) :
    R w (w.runList b i list parameters) := by
  unfold Workspace.runList
  split
  · exact distant.still rfl
  · split
    · exact distant.still rfl
    · refine distant.trans ?_ (distant.load within _ i _)
      exact distant.still rfl

lemma closeList (w : Workspace A) (i : Nat) : R w (w.closeList b i) := by
  unfold Workspace.closeList
  split
  · exact distant.still rfl
  · refine distant.trans ?_ (distant.release within _ i _)
    exact distant.still rfl

end Distant

end Wayfinder
