/-
What can be read while a page is being left.

The exit chain of a page has its context, and middlewares may write to it. Everybody else reads a copy
that was made when the chain began, and the history, which the chain does not move. So as long as the
chain runs, the answers are those that were given just before the turn of its request (`Echoes`).

* `Echoes.move`: what an act does to the answers.
* `echoes_after`: every exit chain that is waited for began in this way.
* `leaving_readable`: the answers while an exit chain runs.
-/
import Mathlib.Data.List.Induction
import Wayfinder.Proofs.Address
import Wayfinder.Session.Run

namespace Wayfinder

variable {μ κ η : Type}

/-! ### Answers -/

/-- Two navigators answer alike what can be asked about the page. -/
structure Navigator.Echo [Named κ] [History η] (n n' : Navigator μ κ η) : Prop where
  /-- The URL. -/
  url : n'.currentUrl? = n.currentUrl?
  /-- The parameters. -/
  parameters : n'.currentParameters = n.currentParameters
  /-- The name of the controller. -/
  controller : n'.controllerName? = n.controllerName?

/-- Where a controller cannot be borrowed nothing is done with it. -/
lemma Session.borrow_of_none {w : Desk} (out : w.navigator.takeController = none) (use : Borrowing) :
    borrow w use = (w, .nothing) := by
  unfold borrow
  rw [out]
  split <;> rfl

/-- An exit chain runs that began with the turn of the request `r`, and `n` is the navigator before.
Its page can be read as it was then. -/
structure Echoes [Named κ] [History η] (n : Navigator μ κ η) (r : Request) (m : Moment μ κ η) : Prop where
  /-- The request is being served. -/
  serving : m.stage = .serving r
  /-- No page is shown. -/
  bare : m.navigator.active = none
  /-- The current entry has the URL it had. -/
  url : m.navigator.currentUrl? = n.currentUrl?
  /-- A middleware is to answer, and the copy is that of the page that was shown. -/
  chain : ∃ flight page page' x rest, n.active = some page ∧
    m.navigator.activity = .exiting flight page' (Leaving.of page.context) (x :: rest)

namespace Echoes

variable [Named κ] [History η] {n₀ : Navigator μ κ η} {r : Request} {m : Moment μ κ η}

lemma phase (echoes : Echoes n₀ r m) : m.navigator.phase = .exiting := by
  obtain ⟨_, _, _, _, _, -, doing⟩ := echoes.chain
  rw [Navigator.phase, doing]
  rfl

/-- The answers are those of the page that was shown. -/
lemma echo (echoes : Echoes n₀ r m) : n₀.Echo m.navigator := by
  obtain ⟨_, page, _, _, _, shown, doing⟩ := echoes.chain
  refine ⟨echoes.url, ?_, ?_⟩
  · simp only [Navigator.currentParameters, echoes.bare, doing, shown, Activity.leaving?]
    rfl
  · simp only [Navigator.controllerName?, echoes.bare, doing, shown, Activity.leaving?]
    rfl

/-- An exit chain that has just begun. -/
lemma begin [Named μ] [ListedHistory η] {m₀ : Moment μ κ η} {a : Act κ}
    (turn : m₀.upcoming? a = some r) (exiting : (m₀.step a).1.navigator.phase = .exiting) :
    Echoes m₀.navigator r (m₀.step a).1 := by
  obtain ⟨n', flight, p, accepted, rfl, quiet, goes, -, began⟩ := Moment.step_of_upcoming turn
  rw [began] at exiting ⊢
  obtain ⟨_, -, rfl⟩ := quiet
  have beyond {p : Navigator.Progress μ κ η} (other : p.1.phase ≠ .exiting) :
      (Moment.reach flight.request flight p).1.navigator.phase ≠ .exiting :=
    (past_reach other _ _).2
  cases goes with
  | dropped target quiet
  | looped target exceeds quiet =>
    obtain ⟨_, -, rfl⟩ := quiet
    exact absurd exiting (beyond nofun)
  | departs target within goes =>
    cases goes with
    | fresh shown quiet goes => exact absurd exiting (beyond goes.phase_ne)
    | left shown chain quiet goes => exact absurd exiting (beyond goes.phase_ne)
    | waits shown chain quiet =>
      obtain ⟨_, -, rfl⟩ := quiet
      exact ⟨rfl, rfl, m₀.navigator.current?_leftHistory _, _, _, _, _, _, shown, rfl⟩

/-- Every act leaves the answers as they are, until the chain is over. No request gets its turn. -/
lemma move [Named μ] {n : Navigator μ κ η} {stage : Stage} {a : Act κ}
    {result : Moment μ κ η × List (Event μ)} (echoes : Echoes n₀ r ⟨n, stage⟩)
    (move : Moment.Move n stage a result) (exiting : result.1.navigator.phase = .exiting) :
    Echoes n₀ r result.1 ∧ ∀ r', .began r' ∉ result.2 := by
  obtain ⟨rfl, bare, url, flight, page, page', x, rest, shown, doing⟩ := id echoes
  have beyond {p : Navigator.Progress μ κ η} (other : p.1.phase ≠ .exiting) :
      (Moment.reach r flight p).1.navigator.phase ≠ .exiting :=
    (past_reach other _ _).2
  cases move with
  | still other => exact ⟨echoes, fun _ => List.not_mem_nil⟩
  | queued other quiet =>
    obtain ⟨_, -, rfl⟩ := quiet
    exact ⟨⟨rfl, bare, url, _, _, _, _, _, shown, doing⟩, by simp⟩
  | exitAnswered doing' goes =>
    cases doing.symm.trans doing'
    cases goes with
    | next quiet =>
      obtain ⟨_, -, rfl⟩ := quiet
      exact ⟨⟨rfl, bare, url, _, _, _, _, _, shown, rfl⟩, by
        simp [answerEvents, Navigator.landed, Moment.reach]⟩
    | left quiet goes => exact absurd exiting (beyond goes.phase_ne)
    | denied quiet
    | redirected quiet =>
      obtain ⟨_, -, rfl⟩ := quiet
      exact absurd exiting (beyond (by rintro ⟨⟩))
  | entryAnswered doing' => cases doing.symm.trans doing'
  | refusalShown doing' => cases doing.symm.trans doing'
  | @touched _ t =>
    have touched := t.touched n
    obtain ⟨f, edited⟩ := touched.activity
    have current : (t.apply n).currentUrl? = n.currentUrl? := by
      rw [Navigator.currentUrl?, touched.history, Navigator.currentUrl?]
    exact ⟨⟨rfl, touched.active_eq_none bare, current.trans url, flight, page, _, x, rest, shown,
      edited.trans (congrArg _ doing)⟩, fun _ => List.not_mem_nil⟩

end Echoes

/-! ### Runs -/

/-- Whenever an exit chain is waited for, one of the acts was the turn of its request, and the page can
still be read as it could before. -/
lemma echoes_after [Named μ] [Named κ] [History η] [ListedHistory η] {m : Moment μ κ η}
    (sound : m.Sound) (calm : m.navigator.phase ≠ .exiting) {acts : List (Act κ)}
    (exiting : (m.after acts).navigator.phase = .exiting) :
    ∃ before a rest r, acts = before ++ a :: rest ∧ (m.after before).upcoming? a = some r ∧
      Echoes (m.after before).navigator r (m.after acts) ∧
      ∀ r', .began r' ∉ ((m.after before).step a).1.journal rest := by
  induction acts using List.reverseRecOn with
  | nil => exact absurd exiting calm
  | append_singleton acts a ih =>
    have sound' := Moment.sound_after sound acts
    have last : m.after (acts ++ [a]) = ((m.after acts).step a).1 := Moment.after_append ..
    rw [last] at exiting ⊢
    by_cases running : (m.after acts).navigator.phase = .exiting
    · obtain ⟨before, a', rest, r, rfl, turn, echoes, alone⟩ := ih running
      obtain ⟨echoes', none⟩ := echoes.move (Moment.move sound' a) exiting
      refine ⟨before, a', rest ++ [a], r, by simp, turn, echoes', fun r' began => ?_⟩
      rw [Moment.journal_append, List.mem_append] at began
      obtain began | began := began
      · exact alone r' began
      · rw [← Moment.after_cons, ← Moment.after_append] at began
        exact none r' (by simpa using began)
    · -- Only the turn of a request begins an exit chain.
      rcases turn : (m.after acts).upcoming? a with _ | r
      · exact absurd exiting ((Moment.move sound' a).phase_ne_exiting sound' turn running)
      · exact ⟨acts, a, [], r, rfl, turn, .begin turn exiting, nofun⟩

/-- Once a call was given up without a page that is shown, nothing is shown any more, and the history
stays as it is. -/
lemma Navigator.Adrift.bare [Named μ] [Named κ] [History η] {n n' : Navigator μ κ η} {phase : Phase}
    {leaving : Option Leaving} (given_up : n.activity = .abandoned phase leaving)
    (busy : phase ≠ .idle) (bare : n.active = none) (adrift : n.Adrift n') :
    n'.active = none ∧ n'.history = n.history := by
  induction adrift with
  | here => exact ⟨bare, rfl⟩
  | @request n' before kind url ih =>
    have busy' : n'.phase ≠ .idle := by rwa [Navigator.phase, before.activity_eq given_up busy]
    obtain ⟨_, ⟨_, -, rfl⟩, h⟩ := request_of_phase_ne busy' kind url
    rw [h]
    exact ih
  | @inPlace n' before push url ih =>
    have busy' : n'.phase ≠ .idle := by rwa [Navigator.phase, before.activity_eq given_up busy]
    obtain ⟨_, ⟨_, -, rfl⟩, h⟩ := inPlace_of_phase_ne busy' push url
    rw [h]
    exact ih
  | answer before action ih =>
    rw [(history_of_abandoned (before.activity_eq given_up busy) busy).2.2.1 action]
    exact ih
  | resume before ih =>
    rw [(history_of_abandoned (before.activity_eq given_up busy) busy).2.2.2]
    exact ih
  | touch before t ih =>
    exact ⟨(t.touched _).active_eq_none ih.1, (t.touched _).history.trans ih.2⟩

/-- There is a copy of a page just while a middleware of its exit chain is to answer. -/
lemma Moment.Sound.leaving_iff {m : Moment μ κ η} (sound : m.Sound) :
    (m.navigator.activity.leaving?.isSome ↔ m.navigator.phase = .exiting) ∧
      (m.navigator.phase = .exiting ↔ ∃ hop x, m.navigator.asked? = some (.exit, hop, x)) := by
  obtain ⟨n, stage⟩ := m
  simp only [Navigator.phase, Navigator.asked?]
  cases stage with
  | resting =>
    replace sound : n.activity = .idle := sound.1
    simp [sound, Activity.leaving?, Activity.phase]
  | served =>
    replace sound : n.activity = .idle := sound
    simp [sound, Activity.leaving?, Activity.phase]
  | serving r =>
    obtain ⟨-, serves⟩ := sound
    generalize n.activity = activity at serves
    cases serves <;> simp [Activity.leaving?, Activity.phase]

/-- The navigator of a moment, or what may have become of it since the call was given up that runs at
the moment. -/
def Moment.Remains [Named μ] [Named κ] [History η] (m : Moment μ κ η) (n : Navigator μ κ η) : Prop :=
  n = m.navigator ∨ (∃ r, m.stage = .serving r) ∧ m.navigator.abandon.Adrift n

/-- What remains of a moment keeps its phase and the copy of the page that is being left. Where no page
is shown none is shown any more, and the history stays as it is. -/
lemma Moment.Remains.same [Named μ] [Named κ] [History η] {m : Moment μ κ η} {n : Navigator μ κ η}
    (remains : m.Remains n) (sound : m.Sound) :
    n.phase = m.navigator.phase ∧ n.activity.leaving? = m.navigator.activity.leaving? ∧
      (m.navigator.active = none → n.active = none ∧ n.history = m.navigator.history) := by
  obtain rfl | ⟨⟨r, serving⟩, adrift⟩ := remains
  · exact ⟨rfl, rfl, fun bare => ⟨bare, rfl⟩⟩
  · obtain ⟨n₀, stage⟩ := m
    obtain rfl : stage = .serving r := serving
    have busy : n₀.phase ≠ .idle := sound.2.phase_ne
    have given_up := Navigator.activity_abandon busy
    have same : n₀.abandon.active = n₀.active ∧ n₀.abandon.history = n₀.history := by
      unfold Navigator.abandon
      split <;> exact ⟨rfl, rfl⟩
    refine ⟨Navigator.phase_of_adrift busy adrift, ?_, fun bare => ?_⟩
    · rw [adrift.activity_eq given_up busy]
      rfl
    · obtain ⟨bare', history⟩ := adrift.bare given_up busy (same.1.trans bare)
      exact ⟨bare', history.trans same.2⟩

/-- While a page is being left everybody can read what it was. Whatever has happened, and also after the
call was given up that runs: there is a copy of a page just while an exit chain runs, which is the phase
that a call that was given up then leaves behind, and no page is shown at the same time. The chain was
begun by the turn of the request that is served, which was one of the acts, and no other request has had
its turn since. The URL, the parameters and the name of the controller are what they were just before
that act, whatever the middlewares have written and whatever was asked for since. The controller cannot
be borrowed. -/
theorem leaving_readable [Named μ] [Named κ] [History η] [ListedHistory η] {s : Setup μ κ η}
    {n : Navigator μ κ η} (built : s.build = .ok n) (acts : List (Act κ)) {n' : Navigator μ κ η}
    (remains : ((Moment.start n).after acts).Remains n') :
    let m := (Moment.start n).after acts
    (m.navigator.activity.leaving?.isSome ↔ ∃ hop x, m.navigator.asked? = some (.exit, hop, x)) ∧
    (n'.activity.leaving?.isSome ↔ n'.phase = .exiting) ∧
    (n'.activity.leaving?.isSome → n'.active = none) ∧
    (n'.phase = .exiting → n'.takeController = none ∧
      ∃ before a rest r, acts = before ++ a :: rest ∧
        ((Moment.start n).after before).upcoming? a = some r ∧ m.stage = .serving r ∧
        (∀ r', .began r' ∉ (((Moment.start n).after before).step a).1.journal rest) ∧
        ((Moment.start n).after before).navigator.Echo n') := by
  intro m
  have start := Moment.sound_start built
  have sound : m.Sound := Moment.sound_after start acts
  have calm : (Moment.start n).navigator.phase ≠ .exiting := by
    rw [Navigator.phase, start.1]
    rintro ⟨⟩
  obtain ⟨phase, leaving, kept⟩ := remains.same sound
  obtain ⟨copy, asked⟩ := sound.leaving_iff
  have copy' : n'.activity.leaving?.isSome ↔ n'.phase = .exiting := by rw [leaving, phase, copy]
  have began (exiting : n'.phase = .exiting) :=
    echoes_after start calm (phase.symm.trans exiting)
  refine ⟨copy.trans asked, copy', fun exists_copy => ?_, fun exiting => ?_⟩
  · obtain ⟨_, _, _, _, -, -, echoes, -⟩ := began (copy'.mp exists_copy)
    exact (kept echoes.bare).1
  · obtain ⟨before, a, rest, r, split, turn, echoes, alone⟩ := began exiting
    obtain ⟨bare, history⟩ := kept echoes.bare
    have echo := echoes.echo
    refine ⟨by rw [Navigator.takeController, bare], before, a, rest, r, split, turn, echoes.serving,
      alone, ?_, ?_, ?_⟩
    · rw [← echo.url, Navigator.currentUrl?, history, Navigator.currentUrl?]
    · rw [← echo.parameters, Navigator.currentParameters, bare, leaving,
        Navigator.currentParameters, echoes.bare]
    · rw [← echo.controller, Navigator.controllerName?, bare, leaving, Navigator.controllerName?,
        echoes.bare]

/-- A list is left for another page. Its exit chain exchanges the parameters, the URL and the controller of
its context, a change of the address is asked for, and in the end the call is given up. -/
theorem leaving_readable_list :
    let s : Setup String String MemoryHistory :=
      { routes := [{ (Route.new "/items" : Route String) with entry := ["list"], exit := ["ask", "gate"] },
          Route.new "/about"]
        history := {} }
    let acts : List (Act String) :=
      [.call (.start "/items"), .touch (.edit fun c => { c with parameters := .ofList [("page", "3")] }),
        .touch (.attach "list"), .answer .proceed, .next, .call (.push "/about"),
        .touch (.edit fun c => { c with url := "/lost", parameters := .empty }), .touch (.attach "other"),
        .answer .proceed, .inPlace true "/items"]
    ∃ n, s.build = .ok n ∧
      let m := (Moment.start n).after acts
      let n' := m.navigator.abandon
      m.Remains n' ∧ n'.phase = .exiting ∧ n'.queue.length = 1 ∧
      n'.currentUrl? = some "/items" ∧ n'.currentParameters = .ofList [("page", "3")] ∧
      n'.controllerName? = some "list" ∧ n'.takeController = none ∧
      ∃ before a rest r, acts = before ++ a :: rest ∧
        ((Moment.start n).after before).upcoming? a = some r ∧ m.stage = .serving r ∧
        ((Moment.start n).after before).navigator.Echo n' := by
  intro s acts
  have built : s.build = .ok _ := rfl
  refine ⟨_, built, ?_⟩
  intro m n'
  have serving : m.stage = .serving ⟨"/about", .push, 0⟩ := by decide +kernel
  have remains : m.Remains n' := .inr ⟨⟨_, serving⟩, .here⟩
  obtain ⟨-, -, -, readable⟩ := leaving_readable built acts remains
  obtain ⟨out, before, a, rest, r, split, turn, served, -, echo⟩ := readable (by decide +kernel)
  exact ⟨remains, by decide +kernel, by decide +kernel, by decide +kernel, by decide +kernel,
    by decide +kernel, out, before, a, rest, r, split, turn, served, echo⟩

end Wayfinder
