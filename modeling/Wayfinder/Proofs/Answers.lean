/-
Answers to requests.

The answer to the latest request of a page controller brings it to a new status, unless a URL is to be
gone to first; an answer that came too late is dropped. A page is shown in two moments, between which
the application makes its view, so that the controller may have come to something new meanwhile.

* `Workspace.Completes`: what an answer leads to, case by case.
* `complete_onward`: after an answer, a page controller has gone on.
-/
import Wayfinder.Proofs.Onward

namespace Wayfinder

variable {A : Application}

namespace Workspace

variable {index : Nat} {answered : Nat → Nat → PageResult → Prop} {w w' : Workspace A}
  {c c' : PageController A.Listing A.View} {r : Reactions A}

/-- An answer counts no less as long as the controller stays. -/
lemma Stays.isStale (stays : Stays c c') (s : Nat) : c'.isStale s = c.isStale s := by
  rw [PageController.isStale, PageController.isStale, stays.1, stays.2]

/-- A page is shown in two moments: before its view is made, and after. -/
lemma showPage_eq {i s : Nat} (within : r.Within (Goes index))
    (here : w.list? i = some c) (list : A.Listing) (context : PageContext) :
    ∃ w' view, w.Goes index w' ∧
      (∀ made, (w'.list? i).bind (·.install s context.currentPage context.totalPages view) = some made →
        (w'.setList i made).Goes index (w.showPage r.toBehaviour r.render i s list context)) ∧
      ((w'.list? i).bind (·.install s context.currentPage context.totalPages view) = none →
        w'.Goes index (w.showPage r.toBehaviour r.render i s list context)) := by
  have begun : w.Goes index (w.setList i c.beginRender.1) := .setList here ⟨rfl, rfl⟩ id
  have released := begun.trans (goes_releaseView within.lists _ i c.beginRender.2)
  let w₁ := (w.setList i c.beginRender.1).releaseView r.toBehaviour i c.beginRender.2
  refine ⟨(r.render i list context w₁).1, (r.render i list context w₁).2,
    released.trans (within.render i list context w₁), fun made installed => ?_, fun refused => ?_⟩
  · unfold showPage
    rw [here]
    dsimp only at installed ⊢
    rw [installed]
    refine .trans ?_ (goes_contentRendered _ i)
    refine .trans ?_ (within.lists.listen i _ _)
    exact .still rfl rfl
  · unfold showPage
    rw [here]
    dsimp only at refused ⊢
    rw [refused]
    exact within.lists.releaseView i _ _

/-- A page is shown by the controller that has asked for it, unless it has come to something new
meanwhile. -/
lemma showPage_renews {s page : Nat} {result : PageResult} (within : r.Within (Goes index))
    (here : w.list? index = some c) (tidy : w.pool.Tidy) (counts : c.isStale s = false)
    (taken : answered s page result) (list : A.Listing) {context : PageContext}
    (current : context.currentPage = PageController.clampPage page result.totalPages)
    (total : context.totalPages = result.totalPages) :
    w.Renews index answered (w.showPage r.toBehaviour r.render index s list context) c := by
  obtain ⟨w', view, goes, shown, dropped⟩ := showPage_eq (s := s) within here list context
  obtain ⟨c', follows, status⟩ := goes c here tidy
  rcases stale : c'.isStale s with _ | _
  · obtain ⟨alive, rfl⟩ : ¬ c'.status = .disposed ∧ c'.sequence = s := by
      simpa [PageController.isStale] using stale
    have installed : w.Renews index answered (w'.setList index
        { c' with view := some view, status := .ready context.currentPage context.totalPages }) c := by
      refine ⟨_, follows.trans tidy (.setList follows.here follows.tidy (Nat.le_refl _) .inl ?_),
        .ready taken ?_⟩
      · exact fun ended => absurd ended alive
      · rw [current, total]
    refine installed.goes tidy (shown _ ?_)
    rw [follows.here, Option.bind_some, PageController.install, if_neg (by simp [stale])]
  · -- While the view was made the controller came to a new status, and the view is dropped.
    have renews : w.Renews index answered w' c := by
      rcases status with stays | backed
      · cases (stays.isStale s).symm.trans stale |>.symm.trans counts
      · exact Renews.plain ⟨c', follows, backed⟩
    refine renews.goes tidy (dropped ?_)
    rw [follows.here, Option.bind_some, PageController.install, if_pos stale]

/-- What the answer to a request leads to, for the controller that has made it. -/
inductive Completes (r : Reactions A) (w : Workspace A) (i s page : Nat)
    (c : PageController A.Listing A.View) :
    Except FetchError PageResult → Workspace A × Option (String × Nat) → Prop
  /-- It came too late. This is written into the log, and nothing else happens. -/
  | stale {answer : Except FetchError PageResult} (records : List LogRecord)
      (stale : c.isStale s = true) : Completes r w i s page c answer (w.report records, none)
  /-- There is no list any more. -/
  | unlisted {result : PageResult} (counts : c.isStale s = false) (listed : c.list = none) :
      Completes r w i s page c (.ok result) (w, none)
  /-- It is a failure. -/
  | failed {error : FetchError} (counts : c.isStale s = false) :
      Completes r w i s page c (.error error)
        (w.showFailure r.toBehaviour i page error.message, none)
  /-- The page is past the last one, and the navigator is asked to go to that. -/
  | redirected {result : PageResult} {w' : Workspace A} (list : A.Listing) (records : List LogRecord)
      (counts : c.isStale s = false) (listed : c.list = some list)
      (past : 0 < result.totalPages ∧ result.totalPages < page ∧ c.redirected = false)
      (told : w' = r.listen i (.redirected page (r.urlForPage list result.totalPages))
        ((w.setList i { c with redirected := true }).report records))
      (reaches : w'.reachesNavigator i = true) :
      Completes r w i s page c (.ok result)
        (w', some (r.urlForPage list result.totalPages, result.totalPages))
  /-- The page is past the last one, and that is loaded. -/
  | reloaded {result : PageResult} {w' : Workspace A} (list : A.Listing) (records : List LogRecord)
      (counts : c.isStale s = false) (listed : c.list = some list)
      (past : 0 < result.totalPages ∧ result.totalPages < page ∧ c.redirected = false)
      (told : w' = r.listen i (.redirected page (r.urlForPage list result.totalPages))
        ((w.setList i { c with redirected := true }).report records)) :
      Completes r w i s page c (.ok result) (w'.load r.toBehaviour i result.totalPages, none)
  /-- The page is shown. -/
  | shown {result : PageResult} {context : PageContext} (list : A.Listing)
      (counts : c.isStale s = false) (listed : c.list = some list)
      (current : context.currentPage = PageController.clampPage page result.totalPages)
      (total : context.totalPages = result.totalPages) :
      Completes r w i s page c (.ok result)
        (w.showPage r.toBehaviour r.render i s list context, none)

lemma completes {i s page : Nat} (here : w.list? i = some c)
    (answer : Except FetchError PageResult) :
    Completes r w i s page c answer (w.complete r.toBehaviour r.render i s page answer) := by
  unfold complete
  rw [here]
  dsimp only
  split
  · rename_i stale
    exact .stale _ stale
  · rename_i counts
    replace counts : c.isStale s = false := by simpa using counts
    rcases answer with error | result
    · exact .failed counts
    · dsimp only
      rw [PageController.receive, if_neg (by simp [counts])]
      rcases listed : c.list with _ | list
      · exact .unlisted counts listed
      · dsimp only
        by_cases past : 0 < result.totalPages ∧ result.totalPages < page ∧ c.redirected = false
        · rw [if_pos past, ← listed]
          dsimp only
          split
          · rename_i reaches
            exact .redirected list _ counts listed past rfl reaches
          · exact .reloaded list _ counts listed past rfl
        · rw [if_neg past]
          exact .shown list counts listed rfl rfl

/-- An answer that comes too late is written into the log, and nothing else happens. -/
lemma Completes.of_stale {i s page : Nat} {answer : Except FetchError PageResult}
    {done : Workspace A × Option (String × Nat)} (completes : Completes r w i s page c answer done)
    (stale : c.isStale s = true) : ∃ records, done = (w.report records, none) := by
  cases completes with
  | stale records _ => exact ⟨records, rfl⟩
  | unlisted counts => cases stale.symm.trans counts
  | failed counts => cases stale.symm.trans counts
  | redirected _ _ counts => cases stale.symm.trans counts
  | reloaded _ _ counts => cases stale.symm.trans counts
  | shown _ counts => cases stale.symm.trans counts

/-- Only a navigator that is there is asked for the last page. -/
lemma Completes.navigatorAlive {i s page : Nat} {answer : Except FetchError PageResult}
    {done : Workspace A × Option (String × Nat)} (completes : Completes r w i s page c answer done)
    (sent : done.2.isSome = true) : done.1.navigatorAlive = true := by
  cases completes with
  | redirected list records counts listed past told reaches => exact (Bool.and_eq_true_iff.mp reaches).2
  | _ => cases sent

/-- The answers that one answer to a request is. -/
def oneAnswer (s page : Nat) (answer : Except FetchError PageResult) : Nat → Nat → PageResult → Prop :=
  fun s' page' result => s' = s ∧ page' = page ∧ answer = .ok result

/-- A page controller has been told to redirect. -/
lemma goes_redirected {i page total : Nat} (within : r.Within (Goes index))
    (here : w.list? i = some c) (list : A.Listing) (records : List LogRecord) :
    w.Goes index (r.listen i (.redirected page (r.urlForPage list total))
      ((w.setList i { c with redirected := true }).report records)) := by
  have marked : w.Goes index (w.setList i { c with redirected := true }) :=
    .setList here ⟨rfl, rfl⟩ id
  refine marked.trans (.trans ?_ (within.lists.listen i _ _))
  exact .still rfl rfl

/-- An answer to the latest request. Either the controller comes to a new status, or it stays as it was
while a URL is to be gone to. -/
lemma Completes.onward {s page : Nat} {answer : Except FetchError PageResult}
    {done : Workspace A × Option (String × Nat)} (within : r.Within (Goes index))
    (completes : Completes r w index s page c answer done) (here : w.list? index = some c)
    (tidy : w.pool.Tidy) (counts : c.isStale s = false) (listed : c.list.isSome = true) :
    (done.2.isSome = true ∧ w.Onward index [] noAnswer done.1 c) ∨
      w.Renews index (oneAnswer s page answer) done.1 c := by
  have alive : c.status ≠ .disposed := by
    intro ended
    simp [PageController.isStale, ended] at counts
  cases completes with
  | stale records stale => cases stale.symm.trans counts
  | unlisted counts unlisted =>
    rw [unlisted] at listed
    cases listed
  | failed counts => exact .inr (showFailure_renews within.lists here tidy alive page _).plain
  | redirected list records counts listed' past told reaches =>
    obtain rfl := told
    exact .inl ⟨rfl, goes_redirected within here list records c here tidy⟩
  | reloaded list records counts listed' past told =>
    obtain rfl := told
    exact .inr ((goes_redirected within here list records).load_renews within.lists here tidy alive
      listed _).plain
  | shown list counts listed' current total =>
    exact .inr (showPage_renews within here tidy counts ⟨rfl, rfl, rfl⟩ list current total)

lemma goes_showPage {i s : Nat} (within : r.Within (Goes index)) (other : i ≠ index)
    (here : w.list? i = some c) (list : A.Listing) (context : PageContext) :
    w.Goes index (w.showPage r.toBehaviour r.render i s list context) := by
  obtain ⟨w', view, goes, shown, dropped⟩ := showPage_eq (s := s) within here list context
  refine goes.trans ?_
  rcases installed : (w'.list? i).bind
    (·.install s context.currentPage context.totalPages view) with _ | made
  · exact dropped installed
  · exact (Apart.setList other).goes.trans (shown made installed)

/-- An answer that is about another page controller, or that this one takes no more. -/
lemma Completes.goes {i s page : Nat} {answer : Except FetchError PageResult}
    {done : Workspace A × Option (String × Nat)} (within : r.Within (Goes index))
    (completes : Completes r w i s page c answer done) (here : w.list? i = some c)
    (unmoved : i ≠ index ∨ c.isStale s = true ∨ c.list = none) : w.Goes index done.1 := by
  cases completes with
  | stale records stale => exact .still rfl rfl
  | unlisted counts listed => exact .refl w
  | failed counts => exact goes_showFailure within.lists w i page _
  | redirected list records counts listed past told reaches =>
    obtain rfl := told
    exact goes_redirected within here list records
  | reloaded list records counts listed past told =>
    obtain rfl := told
    exact (goes_redirected within here list records).trans (goes_load within.lists _ i _)
  | shown list counts listed current total =>
    refine goes_showPage within ?_ here list _
    rcases unmoved with other | stale | unlisted
    · exact other
    · cases stale.symm.trans counts
    · cases unlisted.symm.trans listed

/-- The answer to a request of any page controller. -/
lemma complete_onward (within : r.Within (Goes index)) (here : w.list? index = some c)
    (tidy : w.pool.Tidy) (i s page : Nat) (answer : Except FetchError PageResult)
    (taken : i = index → ∀ result, answer = .ok result → answered s page result) :
    w.Onward index [] answered (w.complete r.toBehaviour r.render i s page answer).1 c := by
  rcases there : w.list? i with _ | d
  · unfold complete
    rw [there]
    exact (Goes.refl w c here tidy).plain
  · have completes : Completes r w i s page d answer _ := completes there answer
    by_cases unmoved : i ≠ index ∨ d.isStale s = true ∨ d.list = none
    · exact (completes.goes within there unmoved c here tidy).plain
    · obtain ⟨rfl, counts, listed⟩ : i = index ∧ d.isStale s = false ∧ d.list ≠ none := by
        simpa using unmoved
      obtain rfl := Option.some.inj (there.symm.trans here)
      rcases completes.onward within here tidy counts (Option.isSome_iff_ne_none.mpr listed) with
        ⟨-, onward⟩ | renews
      · exact onward.plain
      · refine renews.onward.widen (List.Subset.refl _) ?_
        rintro s' page' result ⟨rfl, rfl, ok⟩
        exact taken rfl result ok

end Workspace

end Wayfinder
