/-
Who answers for a page that is being loaded.

A page controller that loads a page waits for the answer to its latest request. Where the answer sends it
to the last page, the task that takes the answer asks the navigator to go there, and loads that page
itself if the navigator refuses. So as long as a page is being loaded, some task will see to it
(`Workspace.Awaits`); the only turns that leave it to nobody are told by `LetsGo`. One of them is a
redirect that the navigator puts into its queue: the task is content with that, and when the navigator
refuses the request afterwards nobody hears of it. A redirect that succeeds is none of them, as long as
the page that was left hosted the controller: then the controller has ended.

* `Work.Serves`, `Workspace.Awaits`: the tasks that will see to a page that is being loaded.
* `LetsGo`: the turns after which nobody does.
* `loading_is_awaited`: a page that is being loaded is awaited unless it was let go of since its request.
-/
import Wayfinder.Proofs.Hosts
import Wayfinder.Proofs.LastRequest

namespace Wayfinder

variable {A : Application}

/-- A task sees to the request of a page controller with a number: it waits for the answer, or it runs
the navigation to the last page. -/
def Work.Serves (index n : Nat) (work : Work) : Prop :=
  (∃ page fetch, work = .load index n page fetch) ∨ ∃ last, work = .navigate (.reload index last)

lemma Work.Serves.isAbout {index n : Nat} {work : Work} (serves : work.Serves index n) :
    work.isAbout index = true := by
  rcases serves with ⟨page, fetch, rfl⟩ | ⟨last, rfl⟩ <;> simp [Work.isAbout]

namespace Workspace

/-- Some task sees to the latest request of a page controller. -/
def Awaits (w : Workspace A) (index : Nat) (c : PageController A.Listing A.View) : Prop :=
  ∃ task work, (task, work) ∈ w.pool.tasks ∧ work.Serves index c.sequence

/-- As long as a page is being loaded, the controller has its list and some task sees to its request. -/
def Attended (w : Workspace A) (index : Nat) : Prop :=
  ∀ c page, w.list? index = some c → c.status = .loading page →
    c.list.isSome = true ∧ w.Awaits index c

/-- The turn of a task brings the redirect of a page controller to an outcome. The navigation goes on, or
begins, in one workspace, and it comes to its outcome in another one. -/
inductive Redirects (r : Reactions A) (fuel task : Nat) (w : Workspace A) (index : Nat) :
    Workspace A → Workspace A → Outcome → Prop
  /-- The navigation had waited. -/
  | resumed {last : Nat} {w' : Workspace A} {outcome : Outcome}
      (found : w.pool.tasks.lookup task = some (.navigate (.reload index last)))
      (ran : w.resume r fuel = (w', some outcome)) : Redirects r fuel task w index w w' outcome
  /-- The navigation was asked for just now. -/
  | asked {s page fetch last : Nat} {answer : Except FetchError PageResult} {url : String}
      {w₁ w' : Workspace A} {outcome : Outcome}
      (found : w.pool.tasks.lookup task = some (.load index s page fetch))
      (answered : w.answers.lookup fetch = some answer)
      (completed : (w.takeAnswer fetch).complete r.toBehaviour r.render index s page answer =
        (w₁, some (url, last)))
      (ran : { w₁ with pool := w₁.pool.set task (.navigate (.reload index last)) }.navigate r fuel
        .replace url = (w', some outcome)) :
      Redirects r fuel task w index
        { w₁ with pool := w₁.pool.set task (.navigate (.reload index last)) } w' outcome

/-- A turn after which nobody may see to the request of a page controller any more. -/
inductive LetsGo (r : Reactions A) (index : Nat) (w : Workspace A) : Turn A → Prop
  /-- All tasks are given up. -/
  | closed : LetsGo r index w .closeTasks
  /-- The answer comes when nobody holds the controller. -/
  | forgotten {fuel task s page fetch : Nat} {answer : Except FetchError PageResult}
      (found : w.pool.tasks.lookup task = some (.load index s page fetch))
      (answered : w.answers.lookup fetch = some answer)
      (dead : (w.takeAnswer fetch).listAlive index = false) : LetsGo r index w (.task fuel task)
  /-- The navigator refuses the redirect when nobody holds the controller. -/
  | refused {fuel task : Nat} {w₀ w' : Workspace A} {outcome : Outcome}
      (redirects : Redirects r fuel task w index w₀ w' outcome)
      (dead : w'.listAlive index = false) : LetsGo r index w (.task fuel task)
  /-- The navigator puts the redirect into its queue. -/
  | queued {fuel task : Nat} {w₀ w' : Workspace A} {outcome : Outcome}
      (redirects : Redirects r fuel task w index w₀ w' outcome)
      (queued : outcome.isQueued = true) : LetsGo r index w (.task fuel task)
  /-- The navigator goes to the last page. The page that it leaves does not host the controller, or the
  application takes the controller out of that page. -/
  | strayed {fuel task : Nat} {w₀ w' : Workspace A} {outcome : Outcome}
      (redirects : Redirects r fuel task w index w₀ w' outcome)
      (success : outcome.isSuccess = true)
      (homeless : r.Careful index → ¬ w₀.Hosts index) : LetsGo r index w (.task fuel task)

variable {r : Reactions A} {w w' : Workspace A} {index task fuel : Nat} {spent : List Nat}
  {answered : Nat → Nat → PageResult → Prop} {c : PageController A.Listing A.View}
  {turns : List (Turn A)}

/-! ### What keeps a request attended to -/

lemma Backed.awaits {n next page : Nat} (backed : w.Backed index n next answered c)
    (loading : c.status = .loading page) : c.list.isSome = true ∧ w.Awaits index c := by
  cases backed with
  | loading status listed newer since outstanding =>
    exact ⟨listed, _, _, outstanding, .inl ⟨_, _, rfl⟩⟩
  | ready taken status => cases status.symm.trans loading
  | failed status => cases status.symm.trans loading
  | disposed status newer => cases status.symm.trans loading

/-- A page controller that has come to a new status is attended to, also once an earlier task has
ended. -/
lemma Renews.attended (renews : w.Renews index answered w' c) (old : task < w.pool.next) :
    { w' with pool := w'.pool.remove task }.Attended index := by
  obtain ⟨c', follows, backed⟩ := renews
  intro d page here loading
  obtain rfl := Option.some.inj (follows.here.symm.trans here)
  cases backed with
  | @loading _ t _ status listed newer since outstanding =>
    have other : t ≠ task := by omega
    exact ⟨listed, _, _, List.mem_filter.mpr ⟨outstanding, by simpa using other⟩, .inl ⟨_, _, rfl⟩⟩
  | ready taken status => cases status.symm.trans loading
  | failed status => cases status.symm.trans loading
  | disposed status newer => cases status.symm.trans loading

/-- A page controller that goes on is attended to if a task that sees to its request is not spent. -/
lemma Onward.attended (onward : w.Onward index spent answered w' c)
    (unspent : ∀ page, c.status = .loading page → c.list.isSome = true ∧
      ∃ task work, (task, work) ∈ w.pool.tasks ∧ work.Serves index c.sequence ∧ task ∉ spent) :
    w'.Attended index := by
  obtain ⟨c', follows, status⟩ := onward
  intro d page here loading
  obtain rfl := Option.some.inj (follows.here.symm.trans here)
  rcases status with ⟨same, number⟩ | backed
  · obtain ⟨listed, task, work, mem, serves, unspent⟩ := unspent page (same.symm.trans loading)
    have listed' : c'.list.isSome = true := by
      refine (follows.listed listed).resolve_right fun ended => ?_
      cases ended.symm.trans loading
    rw [← number] at serves
    exact ⟨listed', task, work, follows.kept mem serves.isAbout unspent, serves⟩
  · exact backed.awaits loading

/-- A page controller that has ended is not loading. -/
lemma Ended.attended (ended : w.Ended index) : w.Attended index := by
  obtain ⟨d, here, ended⟩ := ended
  intro c page here' loading
  obtain rfl := Option.some.inj (here.symm.trans here')
  cases ended.symm.trans loading

/-! ### The redirect -/

/-- The redirect of a page controller has come to an outcome that does not let go of it: the controller has
ended, or somebody holds it and the navigator has refused. -/
lemma Redirects.holds {w₀ : Workspace A} {outcome : Outcome}
    (redirects : Redirects r fuel task w index w₀ w' outcome)
    (ends : r.Careful index → w₀.Hosts index → outcome.isSuccess = true → w'.Ended index)
    (held : ¬ LetsGo r index w (.task fuel task)) :
    w'.Ended index ∨ (outcome.isSuccess || outcome.isQueued) = false ∧ w'.listAlive index = true := by
  have there : w'.listAlive index = true :=
    eq_true_of_ne_false fun dead => held (.refused redirects dead)
  have unqueued : outcome.isQueued = false :=
    eq_false_of_ne_true fun queued => held (.queued redirects queued)
  rcases success : outcome.isSuccess with _ | _
  · exact .inr ⟨by rw [unqueued]; rfl, there⟩
  · by_cases hosted : r.Careful index ∧ w₀.Hosts index
    · exact .inl (ends hosted.1 hosted.2 success)
    · exact absurd (.strayed redirects success fun careful hosts => hosted ⟨careful, hosts⟩) held

/-- The task that runs the redirect of a page controller brings it to an outcome. -/
lemma settle_attended {done : Workspace A × Option Outcome} {last : Nat}
    (within : r.Within (Goes index)) (goes : w.Goes index done.1) (here : w.list? index = some c)
    (tidy : w.pool.Tidy) (alive : c.status ≠ .disposed) (listed : c.list.isSome = true)
    (mem : (task, .navigate (.reload index last)) ∈ w.pool.tasks)
    (kept : ∀ outcome, done.2 = some outcome → done.1.Ended index ∨
      (outcome.isSuccess || outcome.isQueued) = false ∧ done.1.listAlive index = true) :
    (settle r task (.reload index last) done).Attended index := by
  have old : task < w.pool.next := tidy.below _ mem
  obtain ⟨w', _ | outcome⟩ := done
  · -- The navigation waits, and its task with it.
    refine (goes c here tidy).attended fun page loading => ⟨listed, task, _, mem, .inr ⟨last, rfl⟩, ?_⟩
    simp
  · rcases kept outcome rfl with ended | ⟨refused, there⟩
    · obtain ⟨c', follows, -⟩ := goes c here tidy
      have ended' := ended.of_goes follows.tidy (goes_conclude within w' outcome (.reload index last))
      exact Ended.attended (w := settle r task (.reload index last) (w', some outcome)) ended'
    · -- It was refused, so the task loads the last page before it ends.
      dsimp only at refused there
      have concluded : ∃ records, w'.conclude r outcome (.reload index last) =
          (w'.report records).load r.toBehaviour index last := by
        rw [conclude, if_neg (by simp [refused])]
        exact ⟨_, if_pos there⟩
      obtain ⟨records, same⟩ := concluded
      have reports : w.Goes index (w'.report records) := goes.trans (.still rfl rfl)
      rw [settle, same]
      exact (reports.load_renews within.lists here tidy alive listed last).attended old

/-- The task that takes an answer past the last page sends its controller there. -/
lemma navigateIn_attended {last : Nat} {url : String} (within : r.Within (Goes index))
    (here : w.list? index = some c) (tidy : w.pool.Tidy)
    (listed : c.list.isSome = true ∨ c.status = .disposed) {s page fetch : Nat}
    (mem : (task, .load index s page fetch) ∈ w.pool.tasks)
    (kept : ∀ w' outcome, { w with pool := w.pool.set task (.navigate (.reload index last)) }.navigate r
        fuel .replace url = (w', some outcome) → w'.Ended index ∨
      (outcome.isSuccess || outcome.isQueued) = false ∧ w'.listAlive index = true) :
    (w.navigateIn r fuel task .replace url (.reload index last)).Attended index := by
  have old : task < w.pool.next := tidy.below _ mem
  by_cases ended : c.status = .disposed
  · obtain ⟨c', follows, -⟩ : w.Onward index [task] noAnswer
        (w.navigateIn r fuel task .replace url (.reload index last)) c :=
      navigateIn_onward within here tidy old .replace url (.reload index last)
    exact Ended.attended ⟨c', follows.here, follows.disposed ended⟩
  · let w₁ : Workspace A := { w with pool := w.pool.set task (.navigate (.reload index last)) }
    have set : (task, .navigate (.reload index last)) ∈ w₁.pool.tasks :=
      List.mem_map.mpr ⟨_, mem, if_pos rfl⟩
    have goes : w₁.Goes index (w₁.navigate r fuel .replace url).1 :=
      (customary_goes index).navigate within fuel w₁ .replace url
    refine settle_attended within goes here tidy.set ended (listed.resolve_right ended) set ?_
    intro outcome done
    exact kept _ outcome (Prod.ext rfl done)

/-- A task that is about a page controller has its turn. -/
lemma poll_attended (within : r.Within (Goes index)) (here : w.list? index = some c)
    (tidy : w.pool.Tidy) (attended : w.Attended index)
    (held : ¬ LetsGo r index w (.task fuel task)) {work : Work}
    (found : w.pool.tasks.lookup task = some work) (serves : work.Serves index c.sequence)
    (alive : c.status ≠ .disposed) (listed : c.list.isSome = true) :
    (w.poll r fuel task).Attended index := by
  have mem := TaskPool.mem_of_lookup found
  rcases serves with ⟨page, fetch, rfl⟩ | ⟨last, rfl⟩
  · rcases answered : w.answers.lookup fetch with _ | answer
    · rw [poll_load_waiting found answered]
      exact attended
    · have counts : c.isStale c.sequence = false := by simp [PageController.isStale, alive]
      have here' : (w.takeAnswer fetch).list? index = some c := here
      have handles : Handles r fuel task (w.takeAnswer fetch) index c.sequence page answer
        (w.poll r fuel task) := poll_load found answered
      have completes : Completes r (w.takeAnswer fetch) index c.sequence page c answer _ :=
        completes here' answer
      generalize w.poll r fuel task = w' at handles
      cases handles with
      | gone dead => exact absurd (.forgotten found answered dead) held
      | done there completed ends =>
        rw [completed] at completes
        rcases completes.onward within here' tidy counts listed with ⟨sent, -⟩ | renews
        · have reached := completes.navigatorAlive sent
          rcases ends with rfl | dead
          · cases sent
          · cases dead.symm.trans reached
        · exact renews.attended (tidy.below _ mem)
      | @sent w₁ url last there completed =>
        rw [completed] at completes
        obtain ⟨c', follows⟩ : ∃ c', (w.takeAnswer fetch).Follows index [] _ c c' := by
          rcases completes.onward within here' tidy counts listed with
            ⟨-, c', follows, -⟩ | ⟨c', follows, -⟩
          · exact ⟨c', follows⟩
          · exact ⟨c', follows⟩
        have mem' := follows.kept mem (by simp [Work.isAbout]) (by simp)
        refine navigateIn_attended within follows.here follows.tidy (follows.listed listed) mem' ?_
        intro w' outcome ran
        refine Redirects.holds (.asked found answered completed ran) (fun careful hosts success => ?_) held
        have lodges : Lodges { w₁ with pool := w₁.pool.set task (.navigate (.reload index last)) }
          index := ⟨⟨c', follows.here⟩, follows.tidy.set, .inl hosts⟩
        have leads := navigate_leads careful within fuel .replace url lodges
        rw [ran] at leads
        exact leads.ends outcome rfl success
  · have polled : w.poll r fuel task = settle r task (.reload index last) (w.resume r fuel) := by
      unfold poll
      rw [found]
    rw [polled]
    have goes := (customary_goes index).resume within fuel w
    refine settle_attended within goes here tidy alive listed mem fun outcome done => ?_
    refine Redirects.holds (.resumed found (Prod.ext rfl done)) (fun careful hosts success => ?_) held
    have leads := resume_leads careful within fuel ⟨⟨c, here⟩, tidy, .inl hosts⟩
    exact leads.ends outcome done success

/-! ### Turns and runs -/

/-- In every turn that does not let go of it, a page controller stays attended to. -/
lemma Attended.turn (courteous : r.Courteous index) (here : w.list? index = some c)
    (tidy : w.pool.Tidy) (attended : w.Attended index) {u : Turn A} (polite : u.Courteous index)
    (held : ¬ LetsGo r index w u) : (w.turn r u).Attended index := by
  have onward := turn_onward courteous here tidy polite
  by_cases free : ∀ page, c.status = .loading page → c.list.isSome = true ∧
      ∃ task work, (task, work) ∈ w.pool.tasks ∧ work.Serves index c.sequence ∧ task ∉ u.spent w
  · exact onward.attended free
  · -- The task that sees to the request is spent in this turn, so it is the one that has its turn.
    obtain ⟨page, loading, busy⟩ : ∃ page, c.status = .loading page ∧ (c.list.isSome = true →
        ∀ task work, (task, work) ∈ w.pool.tasks → work.Serves index c.sequence →
          task ∈ u.spent w) := by
      simpa using free
    obtain ⟨listed, task, work, mem, serves⟩ := attended c page here loading
    have spent := busy listed task work mem serves
    cases u with
    | task fuel t =>
      obtain rfl : task = t := by simpa [Turn.spent] using spent
      obtain ⟨work', found⟩ : ∃ work', w.pool.tasks.lookup task = some work' := by
        rw [← Option.isSome_iff_exists, Option.isSome_iff_ne_none]
        intro none
        simpa using List.lookup_eq_none_iff.mp none _ mem
      obtain rfl := tidy.unique mem (TaskPool.mem_of_lookup found)
      exact poll_attended (courteous _ (customary_goes index)) here tidy attended held found serves
        (by simp [loading]) listed
    | closeTasks => exact absurd .closed held
    | _ => simp [Turn.spent] at spent

/-- A page controller was let go of in a run since the request with a number was made. -/
def LetGo (r : Reactions A) (w : Workspace A) (index : Nat) (turns : List (Turn A)) (n : Nat) : Prop :=
  ∃ before u rest d, turns = before ++ u :: rest ∧ (w.after r before).list? index = some d ∧
    d.sequence = n ∧ LetsGo r index (w.after r before) u

/-- A page that is being loaded is awaited. Let a courteous application drive a page controller in any
way. Then at every moment a page that is being loaded has a task that sees to its request, unless in some
turn since the request was made all tasks were given up, or an answer or a refusal came when nobody held
the controller, or the navigator put the redirect to the last page into its queue, or it went there from a
page that did not host the controller. Where the page that is left hosts the controller, and the
application does not take it out, a redirect that succeeds leaves nothing behind that is being loaded.

So once no task is left, as when nothing is going on any more, nothing is being loaded, with the same
exceptions. -/
theorem loading_is_awaited (courteous : r.Courteous index) (unused : w.Unused index)
    (polite : ∀ u ∈ turns, u.Courteous index) :
    ∃ c, (w.after r turns).list? index = some c ∧
      (∀ page, c.status = .loading page →
        (w.after r turns).Awaits index c ∨ LetGo r w index turns c.sequence) ∧
      ((w.after r turns).pool.tasks = [] → ¬ LetGo r w index turns c.sequence →
        ∀ page, c.status ≠ .loading page) := by
  suffices stands : ∃ c, (w.after r turns).list? index = some c ∧ (w.after r turns).pool.Tidy ∧
      ∀ page, c.status = .loading page → c.list.isSome = true ∧
        ((w.after r turns).Awaits index c ∨ LetGo r w index turns c.sequence) by
    obtain ⟨c, here, -, stands⟩ := stands
    refine ⟨c, here, fun page loading => (stands page loading).2, fun none held page loading => ?_⟩
    obtain ⟨task, work, mem, -⟩ := (stands page loading).2.resolve_right held
    rw [none] at mem
    cases mem
  induction turns using List.reverseRecOn with
  | nil =>
    obtain ⟨pageKey, here⟩ := unused.made
    exact ⟨_, here, unused.tidy, nofun⟩
  | append_singleton turns u ih =>
    obtain ⟨c, here, tidy, stands⟩ := ih fun v mem => polite v (List.mem_append_left _ mem)
    have polite' := polite u (List.mem_append_right _ (.head _))
    obtain ⟨c', follows, status⟩ := turn_onward courteous here tidy polite'
    rw [show w.after r (turns ++ [u]) = (w.after r turns).turn r u from after_append w turns [u]]
    refine ⟨c', follows.here, follows.tidy, fun page loading => ?_⟩
    rcases status with ⟨same, number⟩ | backed
    · obtain ⟨listed, stands⟩ := stands page (same.symm.trans loading)
      have listed' : c'.list.isSome = true := by
        refine (follows.listed listed).resolve_right fun ended => ?_
        cases ended.symm.trans loading
      rcases stands with awaits | ⟨before, v, rest, d, rfl, found, numbered, gone⟩
      · by_cases held : LetsGo r index (w.after r turns) u
        · exact ⟨listed', .inr ⟨turns, u, [], c, rfl, here, number.symm, held⟩⟩
        · have attended : (w.after r turns).Attended index := by
            intro d page' found loading'
            obtain rfl := Option.some.inj (here.symm.trans found)
            exact ⟨listed, awaits⟩
          obtain ⟨-, awaits'⟩ :=
            attended.turn courteous here tidy polite' held c' page follows.here loading
          exact ⟨listed', .inl awaits'⟩
      · exact ⟨listed', .inr ⟨before, v, rest ++ [u], d, by rw [List.append_assoc, List.cons_append],
          found, numbered.trans number.symm, gone⟩⟩
    · obtain ⟨listed, awaits⟩ := backed.awaits loading
      exact ⟨listed, .inl awaits⟩

/-- A redirect that the navigator refuses at once: the last page is being loaded. -/
theorem loading_is_awaited_refused :
    let s : Setup Session.Middleware (Controller Session.Recorder) Session.Past :=
      { routes := [{ (Route.catchAll : Route Session.Middleware) with
          exit := [{ number := 0, deed := .deny "stay" }] }]
        history := {} }
    let list : Session.Listing := { script := {}, parameters := .empty, run := 0 }
    let turns : List (Turn Session.application) :=
      [.other fun w => (w.callNow Session.reactions 9 (.start "/items")).1,
        .run 0 list (Parameters.empty.insert "page" "10"),
        .deliver 0 (.ok { items := [], totalPages := 3, claimedPage := 10 }), .task 9 0]
    ∃ n, s.build = .ok n ∧
      let w := (Session.newList (Session.desk n {}) "items").1
      ∃ c, (w.after Session.reactions turns).list? 0 = some c ∧ c.status = .loading 3 ∧
        ((w.after Session.reactions turns).Awaits 0 c ∨
          LetGo Session.reactions w 0 turns c.sequence) := by
  intro s list turns
  refine ⟨_, rfl, ?_⟩
  intro w
  have unused : w.Unused 0 := ⟨⟨"page", rfl⟩, nofun, nofun, .nil⟩
  have polite : ∀ u ∈ turns, u.Courteous 0 := by
    have start := (Session.courteous_reactions 0).callNow 9 (.start "/items")
    simpa [turns, Turn.Courteous] using start
  obtain ⟨c, here, awaited, -⟩ := loading_is_awaited (Session.courteous_reactions 0) unused polite
  have status : c.status = .loading 3 := by
    have seen : ((w.after Session.reactions turns).list? 0).map (·.status) = some (.loading 3) := by
      decide
    rw [here] at seen
    exact Option.some.inj seen
  exact ⟨c, here, status, awaited 3 status⟩

/-- A redirect that the navigator puts into its queue and refuses afterwards: nothing is left to do, and
the page of the active context is still being loaded. -/
theorem loading_for_ever :
    let s : Setup Session.Middleware (Controller Session.Recorder) Session.Past :=
      { routes := [{ (Route.catchAll : Route Session.Middleware) with
          entry := [{ number := 0, deed := .set "page" "10" },
            { number := 1, deed := .list "items" {} }]
          exit := [{ number := 2, deed := .gate "prompt", times := some 1 },
            { number := 3, deed := .deny "stay" }] }]
        history := {} }
    let steps : List (Session.Step × Bool) :=
      [(.call [.start "/items"], false), (.call [.push "/users"], false),
        (.reply 10 (.ok { items := [], totalPages := 3, claimedPage := 10 }), false),
        (.openGate "prompt", false)]
    ∃ n, s.build = .ok n ∧
      let w := (Session.run (Session.desk n {}) steps).1
      w.navigator.phase = .idle ∧ w.navigator.queued = 0 ∧ w.pool.tasks = [] ∧
        w.state.pending = [] ∧
        w.navigator.active.bind (·.context.controller) = some (.pages 0) ∧
        (w.list? 0).map (·.status) = some (.loading 10) := by
  intro s steps
  exact ⟨_, rfl, by decide, by decide, by decide, by decide, by decide, by decide⟩

end Workspace

end Wayfinder
