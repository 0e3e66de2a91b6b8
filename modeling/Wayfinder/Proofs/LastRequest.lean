/-
The last request wins.

Any number of requests of a page controller may be on their way, and they are answered in any order, if
at all; while an answer is shown the application may change the page, run the list again or end it. What
a page controller shows is nevertheless always about its latest request: the history of a run says which
requests were made (`Workspace.Issued`) and which answers were taken (`Workspace.Answered`), and the
status agrees with it. A failure that is shown is no request, so it stays for as long as nobody tells the
page controller to show something else, and the latest request is not answered.

* `Workspace.Unused`: a page controller at its beginning.
* `Workspace.Account`: what the history of a run says about the status; one step, and all turns.
* `Workspace.Abides`: what is shown stays, or why it does not.
* `last_request_wins`, `failure_stands`.
-/
import Wayfinder.Proofs.Discretion
import Wayfinder.Proofs.Scripted
import Wayfinder.Proofs.Turns
import Wayfinder.Session.Run
import Mathlib.Data.List.Induction

namespace Wayfinder

variable {A : Application}

namespace Workspace

/-- A page controller that nobody has used yet. -/
structure Unused (w : Workspace A) (index : Nat) : Prop where
  /-- It is as it was made. -/
  made : ∃ pageKey, w.list? index = some { pageKey }
  /-- No task is about it. -/
  idle : ∀ e ∈ w.pool.tasks, e.2.isAbout index = false
  /-- The tasks are tidy. -/
  tidy : w.pool.Tidy

/-- A request with a number and for a page is on its way. -/
def Outstanding (w : Workspace A) (index s page : Nat) : Prop :=
  ∃ task fetch, (task, .load index s page fetch) ∈ w.pool.tasks

variable (r : Reactions A) (w : Workspace A) (index : Nat) (turns : List (Turn A))

/-- A request with a number and for a page was made in a run. -/
def Issued (s page : Nat) : Prop :=
  ∃ before rest, turns = before ++ rest ∧ (w.after r before).Outstanding index s page

/-- The answer to a request with a number and for a page was taken in a run. -/
def Answered (s page : Nat) (result : PageResult) : Prop :=
  ∃ before u rest, turns = before ++ u :: rest ∧ (w.after r before).Takes index u s page result

/-- What the history of a run says about a page controller. -/
structure Account (c : PageController A.Listing A.View) : Prop where
  /-- It is there. -/
  here : (w.after r turns).list? index = some c
  /-- The tasks are tidy. -/
  tidy : (w.after r turns).pool.Tidy
  /-- Its number is that of the latest request, or a later one. -/
  latest : ∀ {s page}, w.Issued r index turns s page → s ≤ c.sequence
  /-- Each number is that of one request. -/
  single : ∀ {s page page'}, w.Issued r index turns s page → w.Issued r index turns s page' →
    page = page'
  /-- What is being loaded was asked for last. -/
  loading : ∀ {page}, c.status = .loading page → w.Issued r index turns c.sequence page
  /-- What is shown answers the latest request. -/
  ready : ∀ {page total}, c.status = .ready page total → ∃ asked result,
    w.Answered r index turns c.sequence asked result ∧
      page = PageController.clampPage asked result.totalPages ∧ total = result.totalPages

variable {r w index turns}

/-- Whose answer is taken was on its way. -/
lemma Answered.issued {s page : Nat} {result : PageResult}
    (answered : w.Answered r index turns s page result) : w.Issued r index turns s page := by
  obtain ⟨before, u, rest, rfl, fuel, task, fetch, rfl, found, -⟩ := answered
  exact ⟨before, _, rfl, task, fetch, TaskPool.mem_of_lookup found⟩

lemma Issued.append {s page : Nat} (issued : w.Issued r index turns s page)
    (turns' : List (Turn A)) : w.Issued r index (turns ++ turns') s page := by
  obtain ⟨before, rest, rfl, outstanding⟩ := issued
  exact ⟨before, rest ++ turns', List.append_assoc .., outstanding⟩

lemma Answered.append {s page : Nat} {result : PageResult}
    (answered : w.Answered r index turns s page result) (turns' : List (Turn A)) :
    w.Answered r index (turns ++ turns') s page result := by
  obtain ⟨before, u, rest, rfl, takes⟩ := answered
  exact ⟨before, u, rest ++ turns', by rw [List.append_assoc, List.cons_append], takes⟩

/-- What was made in one more turn was made before or is on its way after it. -/
lemma issued_concat {u : Turn A} {s page : Nat} (issued : w.Issued r index (turns ++ [u]) s page) :
    w.Issued r index turns s page ∨ ((w.after r turns).turn r u).Outstanding index s page := by
  obtain ⟨before, rest, split, outstanding⟩ := issued
  rcases List.append_eq_append_iff.mp split with ⟨more, rfl, last⟩ | ⟨more, rfl, -⟩
  · rcases more with _ | ⟨v, more⟩
    · exact .inl ⟨turns, [], by simp, by simpa using outstanding⟩
    · obtain ⟨rfl, none⟩ := List.cons_eq_cons.mp last
      obtain ⟨rfl, -⟩ := List.append_eq_nil_iff.mp none.symm
      rw [after_append] at outstanding
      exact .inr outstanding
  · exact .inl ⟨before, more, rfl, outstanding⟩

/-- A page controller that nobody has used has no history. -/
lemma Unused.account (unused : w.Unused index) : ∃ c, w.Account r index [] c := by
  obtain ⟨pageKey, here⟩ := unused.made
  have nothing : ∀ {s page}, ¬ w.Issued r index [] s page := by
    rintro s page ⟨before, rest, split, task, fetch, mem⟩
    obtain ⟨rfl, -⟩ := List.append_eq_nil_iff.mp split.symm
    have about := unused.idle _ mem
    simp [Work.isAbout] at about
  refine ⟨{ pageKey }, here, unused.tidy, fun h => absurd h nothing, fun h => absurd h nothing,
    fun asked => ?_, fun shown => ?_⟩
  · cases asked
  · cases shown

/-- One more turn. -/
lemma Account.step {c : PageController A.Listing A.View} (courteous : r.Courteous index)
    (account : w.Account r index turns c) {u : Turn A} (polite : u.Courteous index) :
    ∃ c', w.Account r index (turns ++ [u]) c' ∧
      (c.status = .disposed → c'.status = .disposed) := by
  obtain ⟨c', follows, status⟩ := turn_onward courteous account.here account.tidy polite
  have after : w.after r (turns ++ [u]) = (w.after r turns).turn r u := after_append w turns [u]
  have made : ∀ {s page}, w.Issued r index (turns ++ [u]) s page →
      (w.Issued r index turns s page ∧ s ≤ c.sequence) ∨
        c.sequence < s ∧ s ≤ c'.sequence ∧ ∃ task fetch, (w.after r turns).pool.next ≤ task ∧
          (task, .load index s page fetch) ∈ ((w.after r turns).turn r u).pool.tasks := by
    intro s page issued
    rcases issued_concat issued with old | ⟨task, fetch, mem⟩
    · exact .inl ⟨old, account.latest old⟩
    · rcases follows.fresh mem with mem' | ⟨since, newer, last⟩
      · have old : w.Issued r index turns s page := ⟨turns, [], by simp, task, fetch, mem'⟩
        exact .inl ⟨old, account.latest old⟩
      · exact .inr ⟨newer, last, task, fetch, since, mem⟩
  refine ⟨c', ⟨by rw [after]; exact follows.here, by rw [after]; exact follows.tidy, ?_, ?_, ?_, ?_⟩,
    follows.disposed⟩
  · intro s page issued
    have := follows.sequence
    rcases made issued with ⟨-, old⟩ | ⟨-, last, -⟩ <;> omega
  · intro s page page' issued issued'
    rcases made issued with ⟨old, le⟩ | ⟨newer, -, task, fetch, since, mem⟩ <;>
      rcases made issued' with ⟨old', le'⟩ | ⟨newer', -, task', fetch', since', mem'⟩
    · exact account.single old old'
    -- An old request and a new one cannot have the same number.
    · omega
    · omega
    · exact (follows.single since since' mem mem').1
  · intro page loading
    rcases status with ⟨same, number⟩ | backed
    · rw [number]
      exact (account.loading (same.symm.trans loading)).append [u]
    · cases backed with
      | loading status listed newer since outstanding =>
        obtain rfl := PageStatus.loading.inj (status.symm.trans loading)
        exact ⟨turns ++ [u], [], by simp, _, _, by rw [after]; exact outstanding⟩
      | ready taken status => cases status.symm.trans loading
      | failed status => cases status.symm.trans loading
      | disposed status newer => cases status.symm.trans loading
  · intro page total ready
    rcases status with ⟨same, number⟩ | backed
    · obtain ⟨asked, result, answered, clamped⟩ := account.ready (same.symm.trans ready)
      rw [number]
      exact ⟨asked, result, answered.append [u], clamped⟩
    · cases backed with
      | loading status listed newer since outstanding => cases status.symm.trans ready
      | ready taken status =>
        obtain ⟨rfl, rfl⟩ := PageStatus.ready.inj (status.symm.trans ready)
        exact ⟨_, _, ⟨turns, u, [], rfl, taken⟩, rfl, rfl⟩
      | failed status => cases status.symm.trans ready
      | disposed status newer => cases status.symm.trans ready

/-- All turns. -/
lemma Account.run {c : PageController A.Listing A.View} (courteous : r.Courteous index)
    (account : w.Account r index turns c) {more : List (Turn A)}
    (polite : ∀ u ∈ more, u.Courteous index) :
    ∃ c', w.Account r index (turns ++ more) c' ∧ (c.status = .disposed → c'.status = .disposed) := by
  induction more generalizing turns c with
  | nil => exact ⟨c, by simpa using account, id⟩
  | cons u more ih =>
    obtain ⟨c', account', final⟩ := account.step courteous (polite u (.head _))
    obtain ⟨c'', account'', final'⟩ := ih account' fun v mem => polite v (.tail _ mem)
    rw [List.append_assoc, List.singleton_append] at account''
    exact ⟨c'', account'', final' ∘ final⟩

/-- An answer that comes too late. -/
lemma poll_stale {fuel task s page fetch : Nat} {answer : Except FetchError PageResult}
    {c : PageController A.Listing A.View} (here : w.list? index = some c)
    (found : w.pool.tasks.lookup task = some (.load index s page fetch))
    (answered : w.answers.lookup fetch = some answer) (stale : c.isStale s = true) :
    ∃ log, w.poll r fuel task =
      { w.takeAnswer fetch with pool := w.pool.remove task, log } := by
  have here' : (w.takeAnswer fetch).list? index = some c := here
  have completes : Completes r (w.takeAnswer fetch) index s page c answer _ := completes here' answer
  obtain ⟨records, late⟩ := completes.of_stale stale
  have handles : Handles r fuel task (w.takeAnswer fetch) index s page answer (w.poll r fuel task) :=
    poll_load found answered
  generalize w.poll r fuel task = w' at handles
  cases handles with
  | gone dead => exact ⟨_, rfl⟩
  | done alive completed ends =>
    obtain ⟨rfl, -⟩ := Prod.mk.inj (completed.symm.trans late)
    exact ⟨_, rfl⟩
  | sent alive completed => cases (Prod.mk.inj (completed.symm.trans late)).2

/-! ### Results -/

/-- The last request wins. Let a courteous application drive a page controller in any way: it is run, its
pages are changed and it is ended, answers arrive and are taken in any order, and whatever is called
meanwhile may do all this in its turn. Then at every moment an answer changes nothing but the log if its
request is not the latest one or the controller has ended; numbers of requests rise, and each is that of
one request; a page that is being loaded is the one that was asked for last; a page that is shown comes
from the answer to the request that was made last; and an end is final. -/
theorem last_request_wins (courteous : r.Courteous index) (unused : w.Unused index)
    (polite : ∀ u ∈ turns, u.Courteous index) :
    ∃ c, (w.after r turns).list? index = some c ∧
      (∀ fuel task s page fetch answer,
        (w.after r turns).pool.tasks.lookup task = some (.load index s page fetch) →
        (w.after r turns).answers.lookup fetch = some answer →
        s ≠ c.sequence ∨ c.status = .disposed →
        ∃ log, (w.after r turns).poll r fuel task =
          { (w.after r turns).takeAnswer fetch with
            pool := (w.after r turns).pool.remove task, log }) ∧
      (∀ s page, w.Issued r index turns s page →
        s ≤ c.sequence ∧ ∀ page', w.Issued r index turns s page' → page' = page) ∧
      (∀ page, c.status = .loading page → w.Issued r index turns c.sequence page) ∧
      (∀ page total, c.status = .ready page total → ∃ asked result,
        w.Issued r index turns c.sequence asked ∧
        w.Answered r index turns c.sequence asked result ∧
        page = PageController.clampPage asked result.totalPages ∧ total = result.totalPages) ∧
      (∀ before rest d, turns = before ++ rest → (w.after r before).list? index = some d →
        d.status = .disposed → c.status = .disposed) := by
  obtain ⟨c₀, account₀⟩ := unused.account (r := r)
  obtain ⟨c, account, -⟩ := account₀.run courteous polite
  refine ⟨c, account.here, ?_, ?_, ?_, ?_, ?_⟩
  · intro fuel task s page fetch answer found answered late
    refine poll_stale account.here found answered ?_
    rcases late with other | ended
    · simp [PageController.isStale, Ne.symm other]
    · simp [PageController.isStale, ended]
  · intro s page issued
    exact ⟨account.latest issued, fun page' issued' => account.single issued' issued⟩
  · exact fun page => account.loading
  · intro page total shown
    obtain ⟨asked, result, answered, clamped⟩ := account.ready shown
    exact ⟨asked, result, answered.issued, answered, clamped⟩
  · rintro before rest d rfl here ended
    -- The run is split where the controller had ended, and both parts are driven courteously.
    obtain ⟨d', halfway, -⟩ := account₀.run courteous fun u mem =>
      polite u (List.mem_append_left rest mem)
    obtain rfl := Option.some.inj (here.symm.trans halfway.here)
    obtain ⟨c', account', final⟩ := halfway.run courteous fun u mem =>
      polite u (List.mem_append_right before mem)
    obtain rfl := Option.some.inj (account.here.symm.trans account'.here)
    exact final ended

/-- A list whose first page is changed to the second one while it is rendered. -/
theorem last_request_wins_rerendered :
    let list : Session.Listing := { script := {}, parameters := .empty, run := 0 }
    let answer (page : Nat) : Except FetchError PageResult :=
      .ok { items := [], totalPages := 3, claimedPage := page }
    let w := (Session.newList
      (Session.deskWithout {} { onRender := [(0, [(1, .changePage 2)])] }) "items").1
    let turns : List (Turn Session.application) :=
      [.run 0 list .empty, .deliver 0 (answer 1), .task 1 0, .deliver 1 (answer 2), .task 1 1]
    ∃ c, (w.after Session.reactions turns).list? 0 = some c ∧ c.status = .ready 2 3 ∧
      ∃ asked result, w.Answered Session.reactions 0 turns c.sequence asked result ∧
        2 = PageController.clampPage asked result.totalPages ∧ 3 = result.totalPages := by
  intro list answer w turns
  have unused : w.Unused 0 := ⟨⟨"page", rfl⟩, nofun, nofun, .nil⟩
  obtain ⟨c, here, -, -, -, ready, -⟩ := last_request_wins (Session.courteous_reactions 0) unused
    (show ∀ u ∈ turns, u.Courteous 0 by simp [turns, Turn.Courteous])
  have status : c.status = .ready 2 3 := by
    have seen : ((w.after Session.reactions turns).list? 0).map (·.status) = some (.ready 2 3) := by
      decide
    rw [here] at seen
    exact Option.some.inj seen
  obtain ⟨asked, result, -, answered, page, total⟩ := ready 2 3 status
  exact ⟨c, here, status, asked, result, answered, page, total⟩

/-- A page controller shows a failure, or has come to something newer than a number, or the answer to the
request with that number was taken. -/
def Stands (r : Reactions A) (w : Workspace A) (index n : Nat) (turns : List (Turn A))
    (c : PageController A.Listing A.View) : Prop :=
  (∃ message, c.status = .failed message) ∨ n < c.sequence ∨
    ∃ asked result, w.Answered r index turns n asked result

/-- One more turn. -/
lemma Stands.step {n : Nat} {c : PageController A.Listing A.View} (courteous : r.Courteous index)
    (here : (w.after r turns).list? index = some c) (tidy : (w.after r turns).pool.Tidy)
    (le : n ≤ c.sequence) (stands : Stands r w index n turns c) {u : Turn A}
    (polite : u.Courteous index) :
    ∃ c', (w.after r turns).Follows index (u.spent (w.after r turns))
      (w.after r (turns ++ [u])) c c' ∧ Stands r w index n (turns ++ [u]) c' := by
  obtain ⟨c', follows, status⟩ := turn_onward courteous here tidy polite
  rw [show w.after r (turns ++ [u]) = (w.after r turns).turn r u from after_append w turns [u]]
  refine ⟨c', follows, ?_⟩
  have rises := follows.sequence
  rcases status with ⟨same, number⟩ | backed
  · rcases stands with ⟨message, failed⟩ | newer | ⟨asked, result, answered⟩
    · exact .inl ⟨message, same.trans failed⟩
    · exact .inr (.inl (by omega))
    · exact .inr (.inr ⟨asked, result, answered.append [u]⟩)
  · cases backed with
    | loading status listed newer since outstanding => exact .inr (.inl (by omega))
    | ready taken status =>
      by_cases newer : n < c'.sequence
      · exact .inr (.inl newer)
      · obtain rfl : c'.sequence = n := by omega
        exact .inr (.inr ⟨_, _, turns, u, [], rfl, taken⟩)
    | failed status => exact .inl ⟨_, status⟩
    | disposed status newer => exact .inr (.inl (by omega))

/-- A turn takes the answer to a request of a page controller with a number, be it a page or a failure. -/
def Hears (w : Workspace A) (index : Nat) (u : Turn A) (s : Nat) : Prop :=
  ∃ fuel task page fetch answer, u = .task fuel task ∧
    w.pool.tasks.lookup task = some (.load index s page fetch) ∧ w.answers.lookup fetch = some answer

/-- The request with a number was answered in a run, or it has failed. -/
def Heard (r : Reactions A) (w : Workspace A) (index : Nat) (turns : List (Turn A)) (s : Nat) : Prop :=
  ∃ before u rest, turns = before ++ u :: rest ∧ (w.after r before).Hears index u s

/-- A page controller was to show an error in a run, in a turn that takes no answer to its requests. -/
def Retold (r : Reactions A) (w : Workspace A) (index : Nat) (turns : List (Turn A)) : Prop :=
  ∃ before u rest, turns = before ++ u :: rest ∧ (∀ s, ¬ (w.after r before).Hears index u s) ∧
    (w.after r before).Told index ((w.after r before).turn r u)

/-- A page controller shows what it showed at the beginning of a run, or it has come to a newer number, or
its latest request of that time was answered or has failed, or it was to show an error. -/
def Abides (r : Reactions A) (w : Workspace A) (index : Nat) (turns : List (Turn A))
    (c c' : PageController A.Listing A.View) : Prop :=
  (c'.status = c.status ∧ c'.view = c.view) ∨ c.sequence < c'.sequence ∨
    w.Heard r index turns c.sequence ∨ w.Retold r index turns

/-- In a turn that neither takes the answer to the latest request nor has an error shown, a page controller
goes on showing what it shows, or it comes to a newer number. -/
lemma turn_steady {c : PageController A.Listing A.View} {u : Turn A} (here : w.list? index = some c)
    (unheard : ¬ w.Hears index u c.sequence)
    (untold : (∀ s, ¬ w.Hears index u s) → ¬ w.Told index (w.turn r u)) :
    w.Steady index (w.turn r u) := by
  by_cases hears : ∃ s, w.Hears index u s
  · -- An answer to an earlier request is dropped.
    obtain ⟨s, fuel, task, page, fetch, answer, rfl, found, answered⟩ := hears
    have late : c.sequence ≠ s := by
      rintro rfl
      exact unheard ⟨fuel, task, page, fetch, answer, rfl, found, answered⟩
    obtain ⟨log, same⟩ : ∃ log, w.turn r (.task fuel task) =
        { w.takeAnswer fetch with pool := w.pool.remove task, log } :=
      poll_stale here found answered (by simp [PageController.isStale, late])
    refine .alone fun d here' => ?_
    rw [same]
    exact here'
  · exact .of_not_told (untold (not_exists.mp hears))

/-- One more turn. -/
lemma Abides.step {c c₁ c₂ : PageController A.Listing A.View} {u : Turn A}
    (abides : Abides r w index turns c c₁) (le : c.sequence ≤ c₁.sequence)
    (here : (w.after r turns).list? index = some c₁)
    (here' : ((w.after r turns).turn r u).list? index = some c₂) (le' : c₁.sequence ≤ c₂.sequence) :
    Abides r w index (turns ++ [u]) c c₂ := by
  rcases abides with ⟨status, view⟩ | newer | ⟨before, v, rest, rfl, hears⟩ | ⟨before, v, rest, rfl, told⟩
  · rcases Nat.lt_or_eq_of_le le with newer | number
    · exact .inr (.inl (Nat.lt_of_lt_of_le newer le'))
    by_cases heard : (w.after r turns).Hears index u c.sequence
    · exact .inr (.inr (.inl ⟨turns, u, [], rfl, heard⟩))
    by_cases retold : (∀ s, ¬ (w.after r turns).Hears index u s) ∧
        (w.after r turns).Told index ((w.after r turns).turn r u)
    · exact .inr (.inr (.inr ⟨turns, u, [], rfl, retold⟩))
    obtain ⟨d, there, alike | newer⟩ :=
      turn_steady here (number ▸ heard) (fun silent told => retold ⟨silent, told⟩) c₁ here
    · obtain rfl := Option.some.inj (here'.symm.trans there)
      exact .inl ⟨alike.status.trans status, alike.view.trans view⟩
    · obtain rfl := Option.some.inj (here'.symm.trans there)
      exact .inr (.inl (by omega))
  · exact .inr (.inl (Nat.lt_of_lt_of_le newer le'))
  · exact .inr (.inr (.inl ⟨before, v, rest ++ [u], by simp, hears⟩))
  · exact .inr (.inr (.inr ⟨before, v, rest ++ [u], by simp, told⟩))

/-- A failure that is shown stands. Let an error be shown by a page controller that has not ended, and let
any turns follow.

If nothing that is called on the way has it show another error, then the controller has failed with the
message, and its view is the one that its list has made for it, unless a newer request was made meanwhile.

However it was left, its status and its view stay as they are, unless a newer request was made or it has
ended, or the answer to the request that is the latest one when the error comes was taken afterwards, be it
a page or a failure, or it was to show another error. Answers to earlier requests never change what it
shows. In any case it shows some failure unless a newer request was made, or it has ended, or a page
was taken as the answer to the request that was the latest one. -/
theorem failure_stands {c : PageController A.Listing A.View} (courteous : r.Courteous index)
    (here : w.list? index = some c) (tidy : w.pool.Tidy) (alive : c.status ≠ .disposed)
    (message : String) (polite : ∀ u ∈ turns, u.Courteous index) :
    let w₁ := w.showFailure r.toBehaviour index 0 message
    ∃ c₁ c', w₁.list? index = some c₁ ∧ (w₁.after r turns).list? index = some c' ∧
      (r.toBehaviour.Within (Steady index) →
        (c₁.status = .failed message ∧ c₁.sequence = c.sequence ∧
          ∃ made, c₁.view = (makeFailure r.toBehaviour index c.list message made).2) ∨
        c.sequence < c₁.sequence) ∧
      ((c'.status = c₁.status ∧ c'.view = c₁.view) ∨ c₁.sequence < c'.sequence ∨
        w₁.Heard r index turns c₁.sequence ∨ w₁.Retold r index turns) ∧
      ((∃ shown, c'.status = .failed shown) ∨ c.sequence < c'.sequence ∨
        ∃ asked result, w₁.Answered r index turns c.sequence asked result) := by
  intro w₁
  have within := courteous _ (customary_goes index)
  obtain ⟨c₁, follows, backed⟩ := showFailure_renews within.lists here tidy alive 0 message
  have left : r.toBehaviour.Within (Steady index) →
      (c₁.status = .failed message ∧ c₁.sequence = c.sequence ∧
        ∃ made, c₁.view = (makeFailure r.toBehaviour index c.list message made).2) ∨
      c.sequence < c₁.sequence := by
    intro steady
    obtain ⟨d, made, there, stays⟩ := showFailure_steady steady here alive 0 message
    obtain rfl := Option.some.inj (follows.here.symm.trans there)
    exact stays.imp_left fun ⟨status, view, number⟩ => ⟨status, number, made, view⟩
  change w.Follows index [] w₁ c c₁ at follows
  change w₁.Backed index c.sequence _ _ c₁ at backed
  clear_value w₁
  have begins : Stands r w₁ index c.sequence [] c₁ := by
    cases backed with
    | loading status listed newer since outstanding => exact .inr (.inl newer)
    | ready taken status => exact taken.elim
    | failed status => exact .inl ⟨_, status⟩
    | disposed status newer => exact .inr (.inl newer)
  suffices stands : ∃ c', (w₁.after r turns).list? index = some c' ∧ (w₁.after r turns).pool.Tidy ∧
      c₁.sequence ≤ c'.sequence ∧ Abides r w₁ index turns c₁ c' ∧
      Stands r w₁ index c.sequence turns c' by
    obtain ⟨c', here', -, -, abides, stands⟩ := stands
    exact ⟨c₁, c', follows.here, here', left, abides, stands⟩
  induction turns using List.reverseRecOn with
  | nil =>
    exact ⟨c₁, follows.here, follows.tidy, Nat.le_refl _, .inl ⟨rfl, rfl⟩, begins⟩
  | append_singleton turns u ih =>
    obtain ⟨c', here', tidy', le, abides, stands⟩ :=
      ih fun v mem => polite v (List.mem_append_left _ mem)
    obtain ⟨c'', follows', stands'⟩ := stands.step courteous here' tidy'
      (Nat.le_trans follows.sequence le) (polite u (List.mem_append_right _ (.head _)))
    have here'' : ((w₁.after r turns).turn r u).list? index = some c'' := by
      rw [show (w₁.after r turns).turn r u = w₁.after r (turns ++ [u]) from
        (after_append w₁ turns [u]).symm]
      exact follows'.here
    exact ⟨c'', follows'.here, follows'.tidy, Nat.le_trans le follows'.sequence,
      abides.step le here' here'' follows'.sequence, stands'⟩

/-- The answer to an earlier request comes after the error. -/
theorem failure_stands_earlier :
    let list : Session.Listing := { script := { onError := true }, parameters := .empty, run := 0 }
    let answer : Except FetchError PageResult :=
      .ok { items := [], totalPages := 3, claimedPage := 1 }
    let w := (Session.newList (Session.deskWithout {} {}) "items").1.after Session.reactions
      [.run 0 list .empty, .changePage 0 2]
    let w₁ := w.showFailure Session.behaviour 0 0 "No access"
    let turns : List (Turn Session.application) := [.deliver 0 answer, .task 1 0]
    ∃ c₁ c', w₁.list? 0 = some c₁ ∧ (w₁.after Session.reactions turns).list? 0 = some c' ∧
      c'.status = .failed "No access" ∧ c'.view = some 0 ∧
      ((c₁.status = .failed "No access" ∧ c₁.sequence = 2 ∧
          ∃ made, c₁.view = (makeFailure Session.behaviour 0 (some list) "No access" made).2) ∨
        2 < c₁.sequence) ∧
      ((c'.status = c₁.status ∧ c'.view = c₁.view) ∨ c₁.sequence < c'.sequence ∨
        w₁.Heard Session.reactions 0 turns c₁.sequence ∨ w₁.Retold Session.reactions 0 turns) ∧
      ((∃ shown, c'.status = .failed shown) ∨ 2 < c'.sequence ∨
        ∃ asked result, w₁.Answered Session.reactions 0 turns 2 asked result) := by
  intro list answer w w₁ turns
  have tidy : w.pool.Tidy := by
    constructor
    · decide
    · decide
  obtain ⟨c₁, c', here₁, here, left, keeps, stands⟩ := failure_stands (Session.courteous_reactions 0)
    (show w.list? 0 = some _ from rfl) tidy (by decide) "No access"
    (show ∀ u ∈ turns, u.Courteous 0 by simp [turns, Turn.Courteous])
  have steady : Session.behaviour.Within (Steady 0) :=
    Session.unmoved_behaviour.mono fun unmoved => .alone fun c here => by
      rwa [list?, unmoved.lists]
  have seen : ((w₁.after Session.reactions turns).list? 0).map (fun c => (c.status, c.view)) =
      some (.failed "No access", some 0) := by decide
  change (w₁.after Session.reactions turns).list? 0 = some c' at here
  rw [here] at seen
  obtain ⟨status, view⟩ := Prod.mk.inj (Option.some.inj seen)
  exact ⟨c₁, c', here₁, here, status, view, left steady, keeps, stands⟩

/-- An error does not count as a request: the page that was on its way is shown over it. -/
theorem failure_overwritten :
    let list : Session.Listing := { script := {}, parameters := .empty, run := 0 }
    let answer : Except FetchError PageResult :=
      .ok { items := [], totalPages := 3, claimedPage := 1 }
    let w := (Session.newList (Session.deskWithout {} {}) "items").1
    let turns : List (Turn Session.application) := [.run 0 list .empty, .showError 0 "No access"]
    ((w.after Session.reactions turns).list? 0).map (·.status) = some (.failed "No access") ∧
      ((w.after Session.reactions (turns ++ [.deliver 0 answer, .task 1 0])).list? 0).map
        (·.status) = some (.ready 1 3) := by
  decide

end Workspace

end Wayfinder
