/-
Where page controllers live.

A page that is shown hosts its controller, and so does the page that is being left, until its exit chain
has ended: then the controller is disposed, before anything else happens. So a navigation that begins
while a page hosts a controller either leaves it where it is, or the controller ends; in particular it
has ended once the navigation has succeeded. Only an application that takes the controller out of
the context of its page could make a difference (`Reactions.Careful`).

* `Navigator.Hosts`, `Navigator.Houses`: where a controller is before and after a step of the navigator.
* `Workspace.Lodges`: a page hosts the controller, or it has ended.
* `navigate_leads`, `resume_leads`: a navigation leaves the controller where it is, or leads to its end.
* `careful_reactions`: sessions are careful.
-/
import Wayfinder.Proofs.Custody
import Wayfinder.Proofs.Scripted
import Wayfinder.Proofs.Workings

namespace Wayfinder

/-! ### Pages -/

namespace Navigator

variable {μ κ η : Type}

/-- The page that is shown hosts a controller, and nothing is in progress. -/
def Shows (n : Navigator μ κ η) (k : κ) : Prop :=
  n.activity = .idle ∧ ∃ page, n.active = some page ∧ page.context.controller = some k

/-- The page that is being left hosts a controller, on behalf of a call that has not succeeded so far. -/
def Leaves (n : Navigator μ κ η) (k : κ) : Prop :=
  ∃ flight page leaving rest, n.activity = .exiting flight page leaving rest ∧
    page.context.controller = some k ∧ ∀ o, flight.owed = some o → o.isSuccess = false

/-- The page that is shown or being left hosts a controller. -/
def Hosts (n : Navigator μ κ η) (k : κ) : Prop := n.Shows k ∨ n.Leaves k

/-- After a step of the navigator a page hosts the controller, and the call has not succeeded; or the
controller was to be disposed. -/
def Houses (k : κ) (p : Progress μ κ η) : Prop :=
  k ∈ p.1.disposed ∨ p.1.Hosts k ∧ ∀ o, p.2 = some o → o.isSuccess = false

/-- A request that was taken up while a page hosted the controller waits for a middleware of the exit chain
of the page, or it has come to nothing; or the controller was to be disposed. -/
inductive Vacates (k : κ) : Progress μ κ η → Prop
  /-- The page was left. -/
  | left {p : Progress μ κ η} (ordered : k ∈ p.1.disposed) : Vacates k p
  /-- The page is being left. -/
  | leaves {n : Navigator μ κ η} (leaves : n.Leaves k) : Vacates k (n, none)
  /-- The page is still shown. -/
  | stays {n : Navigator μ κ η} {o : Outcome} (shows : n.Shows k) (failed : o.isSuccess = false) :
      Vacates k (n, some o)

variable {n n' : Navigator μ κ η} {k : κ} {flight : Flight} {p : Progress μ κ η} {owed : Outcome}

lemma Vacates.houses (vacates : Vacates k p) : Houses k p := by
  cases vacates with
  | left ordered => exact .inl ordered
  | leaves leaves => exact .inr ⟨.inr leaves, fun _ owed => by cases owed⟩
  | stays shows failed => exact .inr ⟨.inl shows, fun o same => Option.some.inj same ▸ failed⟩

lemma Hosts.houses (hosts : n.Hosts k) : Houses k (n, none) :=
  .inr ⟨hosts, fun _ owed => by cases owed⟩

lemma Hosts.of_same (hosts : n.Hosts k) (active : n'.active = n.active)
    (activity : n'.activity = n.activity) : n'.Hosts k := by
  rcases hosts with ⟨idle, page, shown, holds⟩ | ⟨flight, page, leaving, rest, exiting, holds, owed⟩
  · exact .inl ⟨activity.trans idle, page, active.trans shown, holds⟩
  · exact .inr ⟨flight, page, leaving, rest, activity.trans exiting, holds, owed⟩

/-- When to scroll does not matter to the pages. -/
lemma Hosts.deferScroll (hosts : n.Hosts k) : n.deferScroll.Hosts k := by
  unfold Navigator.deferScroll
  split
  · exact hosts.of_same rfl rfl
  · exact hosts

lemma Hosts.contentRendered (hosts : n.Hosts k) : n.contentRendered.Hosts k := by
  unfold Navigator.contentRendered
  split
  · exact hosts.of_same rfl rfl
  · obtain ⟨outbox, -, same⟩ := n.quietly_scrollNow fun p =>
      "Restoring scroll to " ++ p.describe ++ " after render"
    rw [same]
    exact hosts.of_same rfl rfl

/-- The context of a page may change in everything but its controller. -/
lemma Hosts.editContext {f : Context κ → Context κ} (hosts : n.Hosts k)
    (keeps : ∀ c, (f c).controller = c.controller) : (n.editContext f).Hosts k := by
  rcases hosts with ⟨idle, page, shown, holds⟩ | ⟨flight, page, leaving, rest, exiting, holds, unpaid⟩
  · refine .inl ⟨?_, page, shown, holds⟩
    rw [Navigator.editContext, idle]
    rfl
  · refine .inr ⟨flight, { page with context := f page.context }, leaving, rest, ?_,
      (keeps _).trans holds, unpaid⟩
    rw [Navigator.editContext, exiting]
    rfl

/-- Where another controller takes the place of the one that a page hosts, that one is to be disposed. -/
lemma Hosts.attach (hosts : n.Hosts k) (c : κ) : Houses k (n.attach c, none) := by
  rcases hosts with ⟨idle, page, shown, holds⟩ | ⟨flight, page, leaving, rest, exiting, holds, -⟩
  · rw [attach_of_none (by rw [runningContext?, idle]) c]
    exact Hosts.houses (.inl ⟨idle, page, shown, holds⟩)
  · have ordered : k ∈ n.disposed ++ [k] := List.mem_append_right _ (.head _)
    have running : n.runningContext? = some page.context := by rw [runningContext?, exiting]
    refine .inl ?_
    simp only [Navigator.attach, running, discard_eq, Option.bind_some, holds]
    rw [Navigator.disposed, disposedIn_append, disposedIn_disposal]
    exact ordered

lemma Shows.of_quietly (quiet : Quietly n n') (shows : n.Shows k) : n'.Shows k := by
  obtain ⟨outbox, -, rfl⟩ := quiet
  exact shows

lemma disposed_of_quietly (quiet : Quietly n n') : n'.disposed = n.disposed := by
  obtain ⟨outbox, told, rfl⟩ := quiet
  exact disposedIn_congr told

variable [History η]

/-- An arrival disposes nothing, and loses no order. -/
lemma Arrival.disposed_eq (goes : n.Arrival flight p) : p.1.disposed = n.disposed := by
  cases goes with
  | notFound put aim found quiet => exact (disposed_of_quietly quiet).trans rfl
  | waits put aim found chain quiet => exact (disposed_of_quietly quiet).trans rfl
  | entered put aim found chain quiet => exact (disposed_of_quietly quiet).trans rfl

omit [History η] in
/-- A page that changes its address keeps its controller. -/
lemma Readdressing.shows {url : String} {result : Navigator μ κ η × Outcome} (shows : n.Shows k)
    (goes : n.Readdressing url result) : result.1.Shows k := by
  obtain ⟨idle, page, shown, holds⟩ := shows
  cases goes with
  | nowhere none => exact ⟨idle, page, shown, holds⟩
  | elsewhere shown' resolved other quiet => exact .of_quietly quiet ⟨idle, page, shown, holds⟩
  | here shown' resolved same held quiet =>
    obtain rfl := Option.some.inj (shown.symm.trans shown')
    exact .of_quietly quiet ⟨idle, _, rfl, held.trans holds⟩

/-- A change of the address leaves the controller with its page. -/
lemma Hosts.inPlace (hosts : n.Hosts k) (push : Bool) (url : String) :
    (n.inPlace push url).1.Hosts k := by
  rcases hosts with shows | leaves
  · exact .inl ((readdressing shows.1 push url).shows shows)
  · have busy : n.phase ≠ .idle := by
      obtain ⟨flight, page, leaving, rest, exiting, -⟩ := leaves
      simp [phase, exiting, Activity.phase]
    obtain ⟨n', ⟨outbox, -, rfl⟩, queued⟩ := n.inPlace_of_phase_ne busy push url
    rw [queued]
    exact Hosts.of_same (.inr leaves) rfl rfl

variable [Named κ]

/-- What is to be disposed stays so when a request is taken up. -/
lemma TakeOff.disposed (goes : n.TakeOff flight p) (ordered : k ∈ n.disposed) : k ∈ p.1.disposed := by
  obtain ⟨gone, books, -⟩ := goes.books
  rw [books.disposed]
  exact List.mem_append_left gone ordered

/-- A request that is taken up leaves the page that hosts the controller. -/
lemma TakeOff.vacates (goes : n.TakeOff flight p) (shows : n.Shows k)
    (unpaid : ∀ o, flight.owed = some o → o.isSuccess = false) : Vacates k p := by
  obtain ⟨idle, page, shown, holds⟩ := shows
  cases goes with
  | dropped target quiet => exact .stays (.of_quietly quiet ⟨rfl, page, shown, holds⟩) rfl
  | looped target exceeds quiet => exact .stays (.of_quietly quiet ⟨rfl, page, shown, holds⟩) rfl
  | departs target within goes =>
    cases goes with
    | fresh none => cases none.symm.trans shown
    | @waits page' c rest n' shown' chain quiet =>
      obtain rfl := Option.some.inj (shown'.symm.trans shown)
      obtain ⟨outbox, told, rfl⟩ := quiet
      exact .leaves ⟨_, _, _, _, rfl, holds, unpaid⟩
    | @left page' n' _ shown' chain quiet goes =>
      obtain rfl := Option.some.inj (shown'.symm.trans shown)
      have ordered : n'.disposed = n.disposed ++ [k] := by
        refine (disposed_of_quietly quiet).trans ?_
        rw [Navigator.disposed, disposedIn_append, disposedIn_disposal, holds]
        rfl
      refine .left ?_
      rw [goes.disposed_eq, ordered]
      exact List.mem_append_right _ (.head _)

variable [Named μ]

/-- The requests that wait are served, and the page that hosts the controller may be left. -/
lemma drain_vacates (stands : n.Shows k ∧ owed.isSuccess = false ∨ k ∈ n.disposed)
    (rs : List Request) : Vacates k (n.drain owed rs) := by
  induction rs generalizing n with
  | nil =>
    rcases stands with ⟨shows, failed⟩ | ordered
    · exact .stays shows failed
    · exact .left ordered
  | cons r rest ih =>
    let flight : Flight := { request := r, owed := some owed }
    have quiet := quietly_dequeue n r rest
    have goes := takeOff_eq (n.dequeue r rest) flight
    have went : Vacates k ((n.dequeue r rest).takeOff flight) ∧
        (owed.isSuccess = false ∨ k ∈ ((n.dequeue r rest).takeOff flight).1.disposed) := by
      rcases stands with ⟨shows, failed⟩ | ordered
      · exact ⟨goes.vacates (.of_quietly quiet shows) fun o same => Option.some.inj same ▸ failed,
          .inl failed⟩
      · have ordered := goes.disposed (by rwa [disposed_of_quietly quiet])
        exact ⟨.left ordered, .inr ordered⟩
    unfold drain
    dsimp only
    generalize (n.dequeue r rest).takeOff flight = p at went ⊢
    obtain ⟨vacates, unpaid⟩ := went
    obtain ⟨n', _ | o⟩ := p
    · exact vacates
    · have served := quietly_reportServed n' flight o
      refine ih ?_
      rw [disposed_of_quietly served]
      cases vacates with
      | left ordered => exact .inr ordered
      | stays shows failed => exact unpaid.imp_left fun unpaid => ⟨.of_quietly served shows, unpaid⟩

/-- After a request has been served, those that wait are. -/
lemma Vacates.proceed (vacates : Vacates k p) (unpaid : ∀ o, flight.owed = some o → o.isSuccess = false) :
    Vacates k (proceed flight p) := by
  obtain ⟨n, _ | o⟩ := p
  · exact vacates
  · have served := quietly_reportServed n flight o
    refine drain_vacates ?_ n.queue
    rw [disposed_of_quietly served]
    cases vacates with
    | left ordered => exact .inr ordered
    | stays shows failed =>
      refine .inl ⟨.of_quietly served shows, ?_⟩
      rcases owed : flight.owed with _ | o'
      · exact failed
      · exact unpaid o' owed

/-- A navigation that is asked for. -/
lemma request_houses (hosts : n.Hosts k) (kind : Kind) (url : String) :
    Houses k (n.request kind url) := by
  unfold request
  split
  · rename_i free
    rcases hosts with shows | ⟨flight, page, leaving, rest, exiting, -⟩
    · let flight : Flight := { request := { url, kind } }
      have unpaid : ∀ o, flight.owed = some o → o.isSuccess = false :=
        fun _ owed => by cases owed
      have vacates : Vacates k (n.takeOff flight) := (takeOff_eq n flight).vacates shows unpaid
      exact (vacates.proceed unpaid).houses
    · rw [phase, exiting] at free
      cases free
  · refine .inr ⟨hosts.of_same rfl rfl, ?_⟩
    intro o same
    obtain rfl := Option.some.inj same
    rfl

/-- The answer of a middleware. -/
lemma answer_houses (hosts : n.Hosts k) (action : Action) : Houses k (n.answer action) := by
  rcases hosts with ⟨idle, page, shown, holds⟩ | ⟨flight, page, leaving, rest, exiting, holds, unpaid⟩
  · have silent : n.react action = none := by simp [react, idle]
    rw [answer, silent]
    exact Hosts.houses (.inl ⟨idle, page, shown, holds⟩)
  · rcases rest with _ | ⟨m, rest⟩
    · have silent : n.react action = none := by simp [react, exiting]
      rw [answer, silent]
      exact Hosts.houses (.inr ⟨flight, page, leaving, [], exiting, holds, unpaid⟩)
    · obtain ⟨p, reacts, goes⟩ := react_exiting exiting action
      rw [answer, reacts]
      have vacates : Vacates k p := by
        cases goes with
        | next quiet =>
          obtain ⟨outbox, told, rfl⟩ := quiet
          exact .leaves ⟨_, _, _, _, rfl, holds, unpaid⟩
        | left quiet goes =>
          have ordered : k ∈ n.disposed ++ [k] := List.mem_append_right _ (.head _)
          refine .left ?_
          rw [goes.disposed_eq, disposed_of_quietly quiet, Navigator.disposed, disposedIn_append,
            disposedIn_disposal, holds]
          exact ordered
        | denied quiet => exact .stays (.of_quietly quiet ⟨rfl, page, rfl, holds⟩) rfl
        | redirected quiet => exact .stays (.of_quietly quiet ⟨rfl, page, rfl, holds⟩) rfl
      exact (vacates.proceed unpaid).houses

end Navigator

/-! ### Navigations -/

variable {A : Application}

namespace Workspace

/-- The page that is shown or being left hosts a page controller. -/
def Hosts (w : Workspace A) (index : Nat) : Prop := w.navigator.Hosts (.pages index)

/-- A page controller has ended. -/
def Ended (w : Workspace A) (index : Nat) : Prop :=
  ∃ c, w.list? index = some c ∧ c.status = .disposed

/-- A page controller that is there has ended, or a page hosts it. -/
structure Lodges (w : Workspace A) (index : Nat) : Prop where
  /-- It is there. -/
  here : ∃ c, w.list? index = some c
  /-- The tasks are tidy. -/
  tidy : w.pool.Tidy
  /-- A page hosts it, or it has ended. -/
  hosted : w.Hosts index ∨ w.Ended index

/-- A page controller is not taken out of the page that hosts it, unless it ends. -/
def Minds (index : Nat) (w w' : Workspace A) : Prop := w.Lodges index → w'.Lodges index

/-- A call has run for a while. The page controller lodges, and if the call has succeeded it has ended. -/
structure Leads (index : Nat) (done : Workspace A × Option Outcome) : Prop where
  lodges : done.1.Lodges index
  ends : ∀ o, done.2 = some o → o.isSuccess = true → done.1.Ended index

end Workspace

/-- An application does not take a page controller out of the page that hosts it, unless it ends it. -/
structure Reactions.Careful (index : Nat) (r : Reactions A) : Prop where
  perform : ∀ (w : Workspace A) effect, w.Minds index (w.perform r.toBehaviour effect)
  run : ∀ m (w : Workspace A), w.Minds index (r.run m w).1
  resume : ∀ m (w : Workspace A), w.Minds index (r.resume m w).1

namespace Workspace

variable {r : Reactions A} {b : Behaviour A} {w w' : Workspace A} {index : Nat}

lemma Ended.of_goes (ended : w.Ended index) (tidy : w.pool.Tidy) (goes : w.Goes index w') :
    w'.Ended index := by
  obtain ⟨c, here, ended⟩ := ended
  obtain ⟨c', follows, -⟩ := goes c here tidy
  exact ⟨c', follows.here, follows.disposed ended⟩

/-- What goes on and leaves the controller with its page, or ends it. -/
lemma Goes.minds (goes : w.Goes index w') (hosted : w.Hosts index → w'.Hosts index ∨ w'.Ended index) :
    w.Minds index w' := by
  intro lodges
  obtain ⟨c, here⟩ := lodges.here
  obtain ⟨c', follows, -⟩ := goes c here lodges.tidy
  exact ⟨⟨c', follows.here⟩, follows.tidy,
    lodges.hosted.elim hosted fun ended => .inr (ended.of_goes lodges.tidy goes)⟩

/-- Once the controller has ended, it does not matter what a call does. -/
lemma Lodges.leads {done : Workspace A × Option Outcome} (lodges : w.Lodges index)
    (ended : w.Ended index) (goes : w.Goes index done.1) : Leads index done :=
  have ended' := ended.of_goes lodges.tidy goes
  ⟨goes.minds (fun _ => .inr ended') lodges, fun _ _ _ => ended'⟩

lemma Lodges.waits (lodges : w.Lodges index) : Leads index (w, none) where
  lodges := lodges
  ends _ owed := by cases owed

/-- A page controller that is told to end ends. -/
lemma closeList_ends {c : PageController A.Listing A.View} (within : b.Within (Goes index))
    (here : w.list? index = some c) (tidy : w.pool.Tidy) : (w.closeList b index).Ended index := by
  have closes := closes b w index
  generalize w.closeList b index = w' at closes
  cases closes with
  | idle ended => exact ⟨c, here, ended c here⟩
  | @closed w₁ d here' alive quiet =>
    have ended : (w.setList index d.ended).Ended index := ⟨_, list?_setList_self here', rfl⟩
    have released : (w.setList index d.ended).Goes index (w₁.releaseView b index d.view) :=
      (Goes.still quiet.lists quiet.pool).trans (goes_releaseView within w₁ index d.view)
    exact ended.of_goes tidy released

/-! ### What the navigator wants done -/

section

variable (within : b.Within (Goes index))
include within

/-- All that is to be done goes on. -/
lemma performed_goes (effects : List (Effect (Controller A.Feature))) (w : Workspace A) :
    w.Goes index (effects.foldl (perform b) w) := by
  induction effects generalizing w with
  | nil => exact .refl w
  | cons effect rest ih => exact ((customary_goes index).perform within w effect).trans (ih _)

/-- A page controller that is to be disposed ends, whatever else is to be done. -/
lemma performed_ends {effects : List (Effect (Controller A.Feature))}
    (ordered : .dispose (.pages index) ∈ effects) {c : PageController A.Listing A.View}
    (here : w.list? index = some c) (tidy : w.pool.Tidy) :
    (effects.foldl (perform b) w).Ended index := by
  obtain ⟨before, rest, rfl⟩ := List.append_of_mem ordered
  rw [List.foldl_append, List.foldl_cons]
  obtain ⟨c', follows, -⟩ := performed_goes within before w c here tidy
  have ended := closeList_ends within follows.here follows.tidy
  have closed : Goes index (before.foldl (perform b) w) _ :=
    (customary_goes index).perform within _ (.dispose (.pages index))
  obtain ⟨d, last, -⟩ := closed c' follows.here follows.tidy
  exact ended.of_goes last.tidy (performed_goes within rest _)

end

section

variable (performs : ∀ (w : Workspace A) effect, w.Minds index (w.perform r.toBehaviour effect))
include performs

lemma performed_lodges (effects : List (Effect (Controller A.Feature))) (lodges : w.Lodges index) :
    (effects.foldl (perform r.toBehaviour) w).Lodges index := by
  induction effects generalizing w with
  | nil => exact lodges
  | cons effect rest ih => exact ih (performs w effect lodges)

/-- After a step of the navigator. -/
lemma stepped_leads (within : r.Within (Goes index)) (lodges : w.Lodges index)
    {p : Navigator.Progress A.Middleware (Controller A.Feature) A.Past}
    (houses : Navigator.Houses (.pages index) p) : Leads index (w.stepped r p) := by
  have goes : w.Goes index (w.stepped r p).1 := ((customary_goes index).serves within).stepped w p
  obtain ⟨c, here⟩ := lodges.here
  rcases houses with ordered | ⟨hosts, failed⟩
  · have ended : (w.stepped r p).1.Ended index := by
      refine performed_ends within.lists ?_ (w := { w with navigator := p.1.collect.1 }) here lodges.tidy
      obtain ⟨e, mem, disposes⟩ := List.mem_filterMap.mp ordered
      cases e with
      | dispose k =>
        obtain rfl := Option.some.inj disposes
        exact mem
      | _ => cases disposes
    exact ⟨goes.minds (fun _ => .inr ended) lodges, fun _ _ _ => ended⟩
  · have taken : ({ w with navigator := p.1.collect.1 } : Workspace A).Lodges index :=
      ⟨⟨c, here⟩, lodges.tidy, .inl (hosts.of_same rfl rfl)⟩
    refine ⟨performed_lodges performs p.1.collect.2 taken, fun o same success => ?_⟩
    cases (failed o same).symm.trans success

end

/-! ### Navigations that run -/

variable (careful : r.Careful index) (within : r.Within (Goes index))
include careful within

/-- The answer of a middleware. -/
lemma answered_leads (lodges : w.Lodges index) (action : Action) :
    Leads index (w.stepped r (w.navigator.answer action)) := by
  rcases lodges.hosted with hosts | ended
  · exact stepped_leads careful.perform within lodges (Navigator.answer_houses hosts action)
  · exact lodges.leads ended (((customary_goes index).serves within).stepped w _)

/-- A navigation that runs. -/
lemma advance_leads (fuel : Nat) (lodges : w.Lodges index) : Leads index (w.advance r fuel) := by
  have serves := (customary_goes index).serves within
  induction fuel generalizing w with
  | zero =>
    rw [advance]
    exact lodges.waits
  | succ fuel ih =>
    rcases lodges.hosted with hosts | ended
    · unfold advance
      dsimp only
      split
      · -- No page is being entered while a page hosts the controller.
        rename_i refused
        rcases hosts with ⟨idle, -⟩ | ⟨flight, page, leaving, rest, exiting, -⟩
        · cases idle.symm.trans refused
        · cases exiting.symm.trans refused
      · rename_i m _ running
        have ran := careful.run m w lodges
        rcases step : r.run m w with ⟨w', _ | action⟩ <;> rw [step] at ran
        · exact ran.waits
        · have answered := answered_leads careful within ran action
          dsimp only
          rcases step : w'.stepped r (w'.navigator.answer action) with ⟨w'', _ | outcome⟩ <;>
            rw [step] at answered
          · exact ih answered.lodges
          · exact answered
      · exact lodges.waits
    · exact lodges.leads ended (serves.advance (fuel + 1) w)

/-- A navigation that goes on once its middleware has waited. -/
lemma resume_leads (fuel : Nat) (lodges : w.Lodges index) : Leads index (w.resume r fuel) := by
  unfold resume
  split
  · exact lodges.waits
  · rename_i m _
    have ran := careful.resume m w lodges
    rcases step : r.resume m w with ⟨w', _ | action⟩ <;> rw [step] at ran
    · exact ran.waits
    · have answered := answered_leads careful within ran action
      dsimp only
      rcases step : w'.stepped r (w'.navigator.answer action) with ⟨w'', _ | outcome⟩ <;>
        rw [step] at answered
      · exact advance_leads careful within fuel answered.lodges
      · exact answered

/-- A navigation that is asked for. -/
lemma navigate_leads (fuel : Nat) (kind : Kind) (url : String) (lodges : w.Lodges index) :
    Leads index (w.navigate r fuel kind url) := by
  rcases lodges.hosted with hosts | ended
  · have asked :=
      stepped_leads careful.perform within lodges (Navigator.request_houses hosts kind url)
    unfold navigate
    rcases step : w.stepped r (w.navigator.request kind url) with ⟨w', _ | outcome⟩ <;>
      rw [step] at asked
    · exact advance_leads careful within fuel asked.lodges
    · exact asked
  · exact lodges.leads ended ((customary_goes index).navigate within fuel w kind url)

/-! ### Keeping a page controller where it is -/

/-- A page that hosts a page controller goes on doing so. -/
def Retains (index : Nat) (w w' : Workspace A) : Prop := w.Hosts index → w'.Hosts index

omit careful within

lemma Retains.of_same (active : w'.navigator.active = w.navigator.active)
    (activity : w'.navigator.activity = w.navigator.activity) : w.Retains index w' :=
  fun hosts => hosts.of_same active activity

/-- By itself a page controller does nothing to the pages. -/
lemma distant_retains (index : Nat) : Distant (Retains (A := A) index) where
  trans first second := second ∘ first
  still same := .of_same (by rw [same]) (by rw [same])
  deferScroll w hosts := (Navigator.Hosts.deferScroll hosts).of_same rfl rfl
  contentRendered w hosts := (Navigator.Hosts.contentRendered hosts).of_same rfl rfl

end Workspace

/-! ### Sessions -/

namespace Session

open Workspace

variable {index : Nat}

lemma retains_behaviour : behaviour.Within (Retains index) :=
  unmoved_behaviour.mono fun unmoved => (distant_retains index).still unmoved.navigator

lemma minds_perform (w : Desk) (effect : Effect (Controller Recorder)) :
    w.Minds index (w.perform behaviour effect) := by
  have distant := distant_retains (A := application) index
  have goes := (customary_goes index).perform (behaviour_within (customary_goes index)) w effect
  have within : behaviour.Within (Retains index) := retains_behaviour
  have retains : w.Retains index (w.perform behaviour effect) := by
    rcases effect with record | (c | i) | ⟨c | i, message⟩
    · exact distant.still rfl
    · exact within.disposeFeature c w
    · exact distant.closeList within w i
    · exact within.showError c message w
    · exact distant.showFailure within w i 0 message
  exact goes.minds fun hosts => .inl (retains hosts)

/-- A controller that is attached takes the place of another one. -/
lemma minds_attach (w : Desk) (c : Controller Recorder) : w.Minds index (w.attach behaviour c) := by
  have within := courteous_reactions index _ (customary_goes index)
  have goes := (customary_goes index).attach within.lists w c
  intro lodges
  refine goes.minds (fun hosts => ?_) lodges
  unfold Workspace.attach
  split
  · rename_i context _
    rcases attached : context.attach c with ⟨context', _ | previous⟩
    · exact .inl hosts
    · have put : ({ w with detached := some context' } : Desk).Lodges index :=
        ⟨lodges.here, lodges.tidy, .inl hosts⟩
      exact (minds_perform _ (.dispose previous) put).hosted
  · have stepped := stepped_leads minds_perform within lodges (Navigator.Hosts.attach hosts c)
    exact stepped.lodges.hosted

/-- A call within a navigation. -/
lemma minds_callWithin (w : Desk) (call : ScriptedCall) : w.Minds index (callWithin w call).1 := by
  have within := courteous_reactions index _ (customary_goes index)
  have goes := callWithin_within (customary_goes index) w call
  intro lodges
  refine goes.minds (fun hosts => ?_) lodges
  cases call with
  | inPlace push url => exact .inl ((Navigator.Hosts.inPlace hosts push url).of_same rfl rfl)
  | call c =>
    unfold callWithin
    dsimp only
    split
    · exact .inl hosts
    · rename_i kind url _
      have stepped :=
        stepped_leads minds_perform within lodges (Navigator.request_houses hosts kind url)
      exact stepped.lodges.hosted

/-- A list that is run. -/
lemma minds_startList (w : Desk) (i : Nat) (script : ListScript) (parameters : Parameters) :
    w.Minds index (startList w i script parameters) := by
  have distant := distant_retains (A := application) index
  refine (startList_within (customary_goes index) w i script parameters).minds fun hosts => .inl ?_
  refine distant.runList retains_behaviour _ i _ parameters (distant.still ?_ hosts)
  split <;> rfl

/-- The deed of a middleware. -/
lemma minds_carryOut (deed : Deed) (w : Desk) : w.Minds index (carryOut deed w).1 := by
  have distant := distant_retains (A := application) index
  have retained : w.Retains index (carryOut deed w).1 → w.Minds index (carryOut deed w).1 :=
    fun retains => (carryOut_within (customary_goes index) deed w).minds fun hosts => .inl (retains hosts)
  have still : (carryOut deed w).1.navigator = w.navigator → w.Minds index (carryOut deed w).1 :=
    fun same => retained (distant.still same)
  have edited : ∀ f, (∀ c, (f c).controller = c.controller) → w.Retains index (w.editContext f) := by
    intro f keeps hosts
    unfold Workspace.editContext
    split
    · exact hosts
    · exact Navigator.Hosts.editContext hosts keeps
  cases deed with
  | idle => exact still rfl
  | record label => exact still rfl
  | snapshot label => exact still (by unfold carryOut; dsimp only; split <;> rfl)
  | describe => exact still (by unfold carryOut; dsimp only; split <;> rfl)
  | attach name => exact minds_attach w _
  | set key value => exact retained (edited _ fun _ => rfl)
  | extra key value => exact retained (edited _ fun _ => rfl)
  | dropExtra key => exact retained (edited _ fun _ => rfl)
  | setUrl url => exact retained (edited _ fun _ => rfl)
  | defer =>
    refine retained ?_
    unfold carryOut
    dsimp only
    split
    · exact distant.deferScroll w
    · exact distant.still rfl
  | rendered =>
    refine retained ?_
    unfold carryOut
    dsimp only
    split
    · exact distant.contentRendered w
    · exact distant.still rfl
  | controller => exact still rfl
  | deny reason => exact still rfl
  | redirect target reason => exact still rfl
  | parse key => exact retained (edited _ fun _ => rfl)
  | privilege guard => exact still rfl
  | confirmExit message =>
    refine still ?_
    show (confirmExit message w).1.navigator = w.navigator
    unfold confirmExit
    split <;> rfl
  | gate id => exact still rfl
  | navigate call =>
    have noted : ∀ (w : Desk) n, w.Minds index (note w n) := fun w n lodges =>
      ⟨lodges.here, lodges.tidy, lodges.hosted⟩
    unfold carryOut
    dsimp only
    split
    · exact noted _ _ ∘ minds_callWithin w call
    · exact noted w _
  | list label script =>
    have made : w.Minds index (newList w label).1 :=
      (newList_within (customary_goes index) w label).minds .inl
    exact minds_attach _ _ ∘ minds_startList _ _ script _ ∘ made

/-- A session does not take a page controller out of the page that hosts it, unless it ends it. -/
theorem careful_reactions (index : Nat) : reactions.Careful index where
  perform := minds_perform
  run m w := by
    show w.Minds index (runMiddleware m w).1
    let run := (w.state.runs.lookup m.number).getD 0
    have counted : w.Minds index (onState w fun s => { s with
        runs := (m.number, run + 1) :: s.runs.filter (·.1 ≠ m.number) }) := fun lodges =>
      ⟨lodges.here, lodges.tidy, lodges.hosted⟩
    unfold runMiddleware
    dsimp only
    split
    · exact minds_carryOut m.deed _ ∘ counted
    · exact counted
  resume _ _ := id

end Session

end Wayfinder
