/-
What page controllers show stays.

A page controller that is not told to show an error goes on showing what it shows until it comes to a
newer number: until it asks for a page again, or ends. So whatever is done around it, however deep the
calls are nested, its status and its view stay together with its number (`Workspace.Steady`). What is
done to it without an error to be shown is described as in `Customary`, by all the relations that such
deeds go along.

* `Discreet`: relations that hold between before and after whatever is done without an error to be shown.
* `Workspace.Told`: what happened cannot be explained without one.
* `discreet_steady`: what is shown stays.
* `showFailure_steady`: what is shown after an error.
-/
import Wayfinder.Proofs.Workings

namespace Wayfinder

variable {A : Application}

/-- A relation holds between the workspace before and after whatever can be done to a page controller
from outside, other than having it show an error. -/
structure Discreet (index : Nat) (R : Workspace A → Workspace A → Prop) : Prop where
  refl : ∀ w, R w w
  trans : ∀ {w w' w''}, R w w' → R w' w'' → R w w''
  alone : ∀ {w w'}, (∀ c, w.list? index = some c → w'.list? index = some c) → R w w'
  runList : ∀ {b : Behaviour A}, b.Within R → ∀ w i list parameters,
    R w (w.runList b i list parameters)
  changePage : ∀ {b : Behaviour A}, b.Within R → ∀ w i page, R w (w.changePage b i page)
  showFailure : ∀ {b : Behaviour A}, b.Within R → ∀ w i page message, i ≠ index →
    R w (w.showFailure b i page message)
  closeList : ∀ {b : Behaviour A}, b.Within R → ∀ w i, R w (w.closeList b i)

namespace Workspace

/-- What happened between two moments cannot be explained without a page controller that was to show an
error. -/
def Told (index : Nat) (w w' : Workspace A) : Prop :=
  ∃ R : Workspace A → Workspace A → Prop, Discreet index R ∧ ¬ R w w'

/-- A page controller shows what it showed, with the same number. -/
structure Alike (c c' : PageController A.Listing A.View) : Prop where
  status : c'.status = c.status
  view : c'.view = c.view
  sequence : c'.sequence = c.sequence

/-- A page controller shows what it showed, or it has come to a newer number. -/
def Steady (index : Nat) (w w' : Workspace A) : Prop :=
  ∀ c, w.list? index = some c → ∃ c', w'.list? index = some c' ∧
    (Alike c c' ∨ c.sequence < c'.sequence)

variable {index i : Nat} {b : Behaviour A} {w w' w'' : Workspace A}
  {c c' c'' : PageController A.Listing A.View}

lemma Alike.trans (first : Alike c c') (second : Alike c' c'') : Alike c c'' where
  status := second.status.trans first.status
  view := second.view.trans first.view
  sequence := second.sequence.trans first.sequence

namespace Steady

lemma alone (kept : ∀ c, w.list? index = some c → w'.list? index = some c) : w.Steady index w' :=
  fun c here => ⟨c, kept c here, .inl ⟨rfl, rfl, rfl⟩⟩

lemma refl (w : Workspace A) : w.Steady index w := .alone fun _ => id

lemma trans (first : w.Steady index w') (second : w'.Steady index w'') : w.Steady index w'' := by
  intro c here
  obtain ⟨c', here', stays⟩ := first c here
  obtain ⟨c'', here'', stays'⟩ := second c' here'
  refine ⟨c'', here'', ?_⟩
  rcases stays with alike | newer <;> rcases stays' with alike' | newer'
  · exact .inl (alike.trans alike')
  · exact .inr (alike.sequence ▸ newer')
  · exact .inr (alike'.sequence ▸ newer)
  · exact .inr (Nat.lt_trans newer newer')

lemma quiet (quiet : w.Quiet w') : w.Steady index w' :=
  .alone fun _ here => (quiet.list? index).trans here

/-- The controller is changed, but not in what it shows, or it has come to a newer number. -/
lemma setList (here : w.list? i = some c) (stays : Alike c c' ∨ c.sequence < c'.sequence) :
    w.Steady index (w.setList i c') := by
  by_cases other : i = index
  · subst other
    intro d here'
    obtain rfl := Option.some.inj (here.symm.trans here')
    exact ⟨c', list?_setList_self here, stays⟩
  · exact .alone (Apart.setList other).list

lemma spawn {work : Work} (added : w.spawn work = .ok w') : w.Steady index w' := by
  obtain ⟨pool, -, rfl⟩ := spawn_eq_ok added
  exact .alone fun _ => id

/-- What another page controller does. -/
lemma yielding (other : i ≠ index) : Yielding i (Steady (A := A) index) where
  trans := trans
  quiet := quiet
  setList _ _ _ := .alone (Apart.setList other).list

variable (within : b.Within (Steady index))
include within

lemma displays (i : Nat) : b.Displays i (Steady index) :=
  ⟨within.renderError i, within.releaseView i, fun event w _ => within.listen i event w⟩

lemma release (w : Workspace A) (i : Nat) (view : Option A.View) :
    w.Steady index (w.releaseView b i view) := by
  cases view with
  | none => exact .refl w
  | some view => exact within.releaseView i view w

end Steady

/-! ### An error that is shown -/

/-- What a page controller shows after an error: the error, with the view that its list has made for it,
or something newer. -/
lemma showFailure_steady (within : b.Within (Steady index)) (here : w.list? index = some c)
    (alive : c.status ≠ .disposed) (page : Nat) (message : String) :
    ∃ c' made, (w.showFailure b index page message).list? index = some c' ∧
      ((c'.status = .failed message ∧ c'.view = (makeFailure b index c.list message made).2 ∧
          c'.sequence = c.sequence) ∨ c.sequence < c'.sequence) := by
  have fails := fails b w index page message
  generalize w.showFailure b index page message = w' at fails
  cases fails with
  | idle ended quiet => exact absurd (ended c here) alive
  | @shown w₁ w₂ _ view d here' _ quiet made rendered =>
    obtain rfl := Option.some.inj (here.symm.trans here')
    let begun := (w₁.setList index (c.failing message)).releaseView b index c.view
    have failing : (w₁.setList index (c.failing message)).list? index = some (c.failing message) :=
      list?_setList_self ((quiet.list? index).trans here)
    have making : (w₁.setList index (c.failing message)).Steady index w₂ := by
      refine (Steady.release within _ index c.view).trans ?_
      obtain rfl : w₂ = _ := (congrArg Prod.fst made).symm
      unfold makeFailure
      split
      · exact within.renderError index _ message _
      · exact .refl _
    obtain ⟨c₂, here₂, stays⟩ := making _ failing
    have put : (w₂.putFailure index view).list? index = some { c₂ with view } := by
      rw [putFailure, here₂]
      exact list?_setList_self here₂
    obtain ⟨c', here', stays'⟩ :=
      ((within.listen index (.failed page message) (w₂.putFailure index view)).trans (.quiet rendered))
        _ put
    refine ⟨c', begun, here', ?_⟩
    rcases stays with alike | newer
    · rcases stays' with alike' | newer'
      · have viewed : view = (makeFailure b index c.list message begun).2 :=
          (congrArg Prod.snd made).symm
        exact .inl ⟨alike'.status.trans alike.status, alike'.view.trans viewed,
          alike'.sequence.trans alike.sequence⟩
      · exact .inr (alike.sequence ▸ newer')
    · rcases stays' with alike' | newer'
      · exact .inr (alike'.sequence ▸ newer)
      · exact .inr (Nat.lt_trans newer newer')

/-- No number falls as an error is shown. -/
lemma showFailure_rises (within : b.Within (Steady index)) (here : w.list? index = some c)
    (page : Nat) (message : String) :
    ∃ c', (w.showFailure b index page message).list? index = some c' ∧ c.sequence ≤ c'.sequence := by
  by_cases alive : c.status = .disposed
  · obtain ⟨records, same⟩ := showFailure_eq_report (b := b) (w := w) (i := index) page message
      fun d here' => Option.some.inj (here.symm.trans here') ▸ alive
    rw [same]
    exact ⟨c, here, Nat.le_refl _⟩
  · obtain ⟨c', -, here', ⟨-, -, same⟩ | newer⟩ := showFailure_steady within here alive page message
    · exact ⟨c', here', Nat.le_of_eq same.symm⟩
    · exact ⟨c', here', Nat.le_of_lt newer⟩

/-! ### All other calls -/

/-- Nobody but the controller itself shows an error of its own. -/
lemma steady_showFailure (within : b.Within (Steady index)) (other : i ≠ index) (w : Workspace A)
    (page : Nat) (message : String) : w.Steady index (w.showFailure b i page message) :=
  (Steady.yielding other).showFailure (Steady.displays within i) w page message

/-- A page that is asked for has a newer number, also where no task waits for it. -/
lemma steady_load (within : b.Within (Steady index)) (w : Workspace A) (i page : Nat) :
    w.Steady index (w.load b i page) := by
  have asking : ∀ {w₁ w₂ fetch list} {c : PageController A.Listing A.View},
      w.list? i = some c → ((w.setList i (c.awaiting page)).releaseView b i c.view).Quiet w₁ →
      b.request i list page (b.listen i (.loading page) w₁) = (w₂, fetch) →
      (w.setList i (c.awaiting page)).Steady index w₂ := by
    intro w₁ w₂ fetch list c here quiet asks
    have asked := within.request i list page (b.listen i (.loading page) w₁)
    rw [asks] at asked
    exact (Steady.release within _ i c.view).trans
      ((Steady.quiet quiet).trans ((within.listen i _ w₁).trans asked))
  have rises : ∀ (c : PageController A.Listing A.View), c.sequence < (c.awaiting page).sequence :=
    fun c => Nat.lt_succ_self _
  have loads := loads b w i page
  generalize w.load b i page = w' at loads
  cases loads with
  | idle idle => exact .refl w
  | asked here alive listed quiet asks spawned =>
    exact (Steady.setList here (.inr (rises _))).trans
      ((asking here quiet asks).trans (.spawn spawned))
  | @refused w₁ w₂ w₃ c list fetch here alive listed quiet asks reported closed =>
    have begun : (w.setList i (c.awaiting page)).Steady index w₃ :=
      (asking here quiet asks).trans (.quiet reported)
    by_cases other : i = index
    · -- The error that is shown has no number of its own, but that of the request.
      subst other
      intro d here'
      obtain rfl := Option.some.inj (here.symm.trans here')
      obtain ⟨c₃, here₃, stays⟩ := begun _ (list?_setList_self here)
      obtain ⟨c', last, le⟩ :=
        showFailure_rises within here₃ page "Could not start loading the page."
      refine ⟨c', last, .inr ?_⟩
      have := rises c
      rcases stays with alike | newer
      · have := alike.sequence
        omega
      · omega
    · exact (Steady.setList here (.inr (rises _))).trans
        (begun.trans (steady_showFailure within other w₃ page _))

lemma steady_runList (within : b.Within (Steady index)) (w : Workspace A) (i : Nat)
    (list : A.Listing) (parameters : Parameters) : w.Steady index (w.runList b i list parameters) := by
  have runs := runs b w i list parameters
  generalize w.runList b i list parameters = w' at runs
  cases runs with
  | idle quiet => exact .quiet quiet
  | loaded page here alive positive =>
    refine Steady.trans ?_ (steady_load within _ i page)
    exact .setList here (.inl ⟨rfl, rfl, rfl⟩)

lemma steady_changePage (within : b.Within (Steady index)) (w : Workspace A) (i page : Nat) :
    w.Steady index (w.changePage b i page) := by
  have changes := changes b w i page
  generalize w.changePage b i page = w' at changes
  cases changes with
  | idle quiet => exact .quiet quiet
  | loaded page quiet here positive =>
    refine (Steady.quiet quiet).trans (Steady.trans ?_ (steady_load within _ i page))
    exact .setList ((quiet.list? i).trans here) (.inl ⟨rfl, rfl, rfl⟩)
  | pushed quiet spawned => exact (Steady.quiet quiet).trans (.spawn spawned)

lemma steady_closeList (within : b.Within (Steady index)) (w : Workspace A) (i : Nat) :
    w.Steady index (w.closeList b i) := by
  have closes := closes b w i
  generalize w.closeList b i = w' at closes
  cases closes with
  | idle ended => exact .refl w
  | closed here alive quiet =>
    exact (Steady.setList here (.inr (Nat.lt_succ_self _))).trans
      ((Steady.quiet quiet).trans (.release within _ i _))

/-- What a page controller shows stays, unless it is to show an error. -/
theorem discreet_steady (index : Nat) : Discreet index (Steady (A := A) index) where
  refl := .refl
  trans := .trans
  alone := .alone
  runList := steady_runList
  changePage := steady_changePage
  showFailure within w _ page message other := steady_showFailure within other w page message
  closeList := steady_closeList

/-- What is shown stays in everything that can be explained without an error that was to be shown. -/
lemma Steady.of_not_told (untold : ¬ w.Told index w') : w.Steady index w' := by
  by_contra unsteady
  exact untold ⟨_, discreet_steady index, unsteady⟩

end Workspace

end Wayfinder
