/-
A refused exit changes nothing.

While the exit chain of a page runs, the page is out of the navigator's hands: its context is with
the chain, and the application goes on around it. `Backdrop` holds what the application may change
in the meantime, and `Leaves` says that nothing else has changed since the chain began. So when the
chain refuses, everything is put back: the page with its context as the chain has left it.

What is written at the start of the chain stays written: where the page is scrolled to goes into the
scroll store, and the state of the context goes into the history entry of the page.
-/
import Wayfinder.Proofs.Entries
import Wayfinder.Proofs.Serial

namespace Wayfinder

variable {μ κ η : Type}

/-! ### What goes on around an exit chain -/

/-- What the application may change while an exit chain runs. -/
structure Backdrop (κ : Type) where
  /-- The context of the page that is being left. -/
  context : Context κ
  /-- The surface that pages are shown on. -/
  viewport : Viewport
  /-- Where to scroll for the navigation that led to the page. -/
  pendingScroll : Option ScrollPosition
  /-- Whether the page wanted to render before. -/
  scrollDeferred : Bool
  /-- The controllers that were to be disposed: those that a middleware has replaced, and those that
  were given back too late. -/
  disposed : List κ := []

namespace Backdrop

/-- What an act changes. -/
def undergo (b : Backdrop κ) : Act κ → Backdrop κ
  | .touch (.edit f) => { b with context := f b.context }
  | .touch (.attach c) =>
    { b with
      context := (b.context.attach c).1
      disposed := b.disposed ++ b.context.controller.toList }
  | .touch (.returnController c) => { b with disposed := b.disposed ++ [c] }
  | .touch .contentRendered =>
    { b with
      viewport := b.viewport.follow b.pendingScroll
      pendingScroll := none
      scrollDeferred := false }
  | .touch (.view viewport) => { b with viewport }
  | _ => b

/-- Unless a middleware attaches a controller or one is given back, no controller is disposed. -/
lemma disposed_foldl (b : Backdrop κ) {acts : List (Act κ)}
    (kept : ∀ c, .touch (.attach c) ∉ acts ∧ .touch (.returnController c) ∉ acts) :
    (acts.foldl undergo b).disposed = b.disposed := by
  induction acts generalizing b with
  | nil => rfl
  | cons a acts ih =>
    have here : (b.undergo a).disposed = b.disposed := by
      unfold undergo
      split
      case h_2 c => exact absurd (List.mem_cons_self ..) (kept c).1
      case h_3 c => exact absurd (List.mem_cons_self ..) (kept c).2
      all_goals rfl
    rw [List.foldl_cons, ih, here]
    exact fun c => ⟨fun h => (kept c).1 (.tail a h), fun h => (kept c).2 (.tail a h)⟩

/-- Unless a middleware exchanges it, the controller stays attached. -/
lemma controller_foldl (b : Backdrop κ) {acts : List (Act κ)}
    (kept : ∀ f, .touch (.edit f) ∈ acts → ∀ c : Context κ, (f c).controller = c.controller)
    (same : ∀ c, .touch (.attach c) ∉ acts) :
    (acts.foldl undergo b).context.controller = b.context.controller := by
  induction acts generalizing b with
  | nil => rfl
  | cons a acts ih =>
    have here : (b.undergo a).context.controller = b.context.controller := by
      unfold undergo
      split
      case h_1 f => exact kept f (List.mem_cons_self ..) b.context
      case h_2 c => exact absurd (List.mem_cons_self ..) (same c)
      all_goals rfl
    rw [List.foldl_cons, ih, here]
    · exact fun f h => kept f (.tail a h)
    · exact fun c h => same c (.tail a h)

end Backdrop

/-! ### Exit chains -/

namespace Navigator

variable [History η]

/-- The backdrop at the start of an exit chain. -/
def backdrop (n : Navigator μ κ η) (page : ActivePage κ) : Backdrop κ where
  context := (n.leavingPage page).context
  viewport := n.viewport
  pendingScroll := n.pendingScroll
  scrollDeferred := n.scrollDeferred

/-- The navigator `n` as it stands while a page is being left, or has been kept: all that has
changed is written at the start of the exit chain or belongs to the backdrop. -/
def left (n : Navigator μ κ η) (page : ActivePage κ) (b : Backdrop κ)
    (active : Option (ActivePage κ)) (queue : List Request) (activity : Activity μ κ) :
    Navigator μ κ η :=
  { n with
    history := n.leftHistory page.context
    scroll := n.scroll.record page.context.url n.viewport.position
    viewport := b.viewport
    pendingScroll := b.pendingScroll
    scrollDeferred := b.scrollDeferred
    outbox := n.outbox ++ b.disposed.map .dispose
    active, queue, activity }

end Navigator

/-- An exit chain runs for a request. `n` is the navigator before. -/
def Leaves [History η] (n : Navigator μ κ η) (page : ActivePage κ) (r : Request) (b : Backdrop κ)
    (queue : List Request) (m : Moment μ κ η) : Prop :=
  m.stage = .serving r ∧
    ∃ flight leaving middlewares, flight.request.redirects = r.redirects ∧
      Navigator.Quietly
        (n.left page b none queue
          (.exiting flight { page with context := b.context } leaving middlewares))
        m.navigator

/-- No exit chain runs, and none will run before the call goes on to another request. -/
def Past (m : Moment μ κ η) : Prop := m.stage ≠ .resting ∧ m.navigator.phase ≠ .exiting

section

variable [History η]

lemma Navigator.Arrival.phase_ne {n : Navigator μ κ η} {flight : Flight} {p : Progress μ κ η}
    (goes : n.Arrival flight p) : p.1.phase ≠ .exiting := by
  cases goes with
  | notFound put aim found quiet
  | waits put aim found chain quiet
  | entered put aim found chain quiet =>
    obtain ⟨_, _, rfl⟩ := quiet
    rintro ⟨⟩

lemma Navigator.TakeOff.phase_ne [Named κ] {n : Navigator μ κ η} {flight : Flight}
    {p : Progress μ κ η} (goes : n.TakeOff flight p) (bare : n.active = none) :
    p.1.phase ≠ .exiting := by
  cases goes with
  | dropped target quiet
  | looped target exceeds quiet =>
    obtain ⟨_, _, rfl⟩ := quiet
    rintro ⟨⟩
  | departs target within goes =>
    cases goes with
    | fresh shown quiet goes => exact goes.phase_ne
    | waits shown => cases bare.symm.trans shown
    | left shown => cases bare.symm.trans shown

omit [History η] in
lemma past_reach {p : Navigator.Progress μ κ η} (other : p.1.phase ≠ .exiting) (r : Request)
    (flight : Flight) : Past (Moment.reach r flight p).1 := by
  rcases p with ⟨n, _ | outcome⟩
  · exact ⟨by rintro ⟨⟩, other⟩
  · obtain ⟨_, -, h⟩ := n.quietly_reportServed flight outcome
    refine ⟨by rintro ⟨⟩, ?_⟩
    simp only [Moment.reach, h]
    exact other

/-- An exit chain that is over does not come back before the next request. -/
lemma Moment.Move.past [Named μ] [Named κ] {n : Navigator μ κ η} {stage : Stage} {a : Act κ}
    {result : Moment μ κ η × List (Event μ)} (move : Moment.Move n stage a result)
    (sound : Moment.Sound ⟨n, stage⟩) (past : Past ⟨n, stage⟩) (same : a ≠ .next) :
    Past result.1 := by
  cases move with
  | still other => exact past
  | called | readdressed => exact absurd rfl past.1
  | queued other quiet =>
    obtain ⟨_, _, rfl⟩ := quiet
    exact past
  | exitAnswered doing => exact absurd (by rw [Navigator.phase, doing]; rfl) past.2
  | entryAnswered doing goes =>
    refine past_reach ?_ _ _
    cases goes with
    | next quiet
    | entered quiet
    | refused shows quiet
    | denied shows quiet =>
      obtain ⟨_, _, rfl⟩ := quiet
      rintro ⟨⟩
    | followed quiet goes =>
      obtain ⟨_, _, rfl⟩ := quiet
      exact goes.phase_ne sound.1
  | refusalShown doing quiet =>
    obtain ⟨_, _, rfl⟩ := quiet
    refine past_reach ?_ _ _
    rintro ⟨⟩
  | returned | dequeued => exact absurd rfl same
  | touched => exact ⟨past.1, fun other => past.2 (by rw [← (Touch.touched n _).phase_eq, other])⟩

variable {n₀ : Navigator μ κ η} {page : ActivePage κ} {r : Request} {b : Backdrop κ}
  {queue : List Request}

/-- A touch reaches nothing but the backdrop of an exit chain. -/
lemma Leaves.touch {m : Moment μ κ η} (leaves : Leaves n₀ page r b queue m) (t : Touch κ) :
    Leaves n₀ page r (b.undergo (.touch t)) queue
      { m with navigator := t.apply m.navigator } := by
  obtain ⟨stage, flight, leaving, middlewares, redirects, outbox, told, h⟩ := leaves
  refine ⟨stage, flight, leaving, middlewares, redirects, ?_⟩
  rw [h]
  cases t with
  | edit f => exact ⟨outbox, told, rfl⟩
  | attach c =>
    simp only [Touch.apply, Navigator.attach, Navigator.discard_eq]
    refine ⟨outbox ++ disposal b.context.controller, ?_, rfl⟩
    simp only [orders_append, told]
    simp [Navigator.left, Backdrop.undergo, disposal_eq]
  | takeController => exact ⟨outbox, told, rfl⟩
  | returnController c =>
    exact ⟨outbox ++ [.dispose c], by simp [told, Navigator.left, Backdrop.undergo], rfl⟩
  | deferScroll => exact ⟨outbox, told, rfl⟩
  | contentRendered =>
    obtain ⟨outbox', told', h'⟩ := Navigator.quietly_scrollNow
      { n₀.left page b none queue
          (.exiting flight { page with context := b.context } leaving middlewares) with outbox }
      fun p => "Restoring scroll to " ++ p.describe ++ " after render"
    exact ⟨outbox', Eq.trans told' told, h'⟩
  | view viewport => exact ⟨outbox, told, rfl⟩

omit [History η] in
lemma Backdrop.undergo_of_touch? {a : Act κ} (other : a.touch? = none) : b.undergo a = b := by
  cases a with
  | touch t => cases other
  | _ => rfl

/-- While an exit chain runs every act belongs to the backdrop or joins the queue, until the chain
is over. No entry middleware runs. -/
lemma Leaves.move [Named μ] [Named κ] {n : Navigator μ κ η} {stage : Stage} {a : Act κ}
    {result : Moment μ κ η × List (Event μ)} (leaves : Leaves n₀ page r b queue ⟨n, stage⟩)
    (move : Moment.Move n stage a result) :
    (Leaves n₀ page r (b.undergo a) (queue ++ acceptedIn result.2) result.1 ∧
      ∀ hop c action, .answered .entry hop c action ∉ result.2) ∨ Past result.1 := by
  obtain ⟨turn, flight, leaving, middlewares, redirects, outbox, told, h⟩ := id leaves
  dsimp only at turn h
  have exiting : n.activity =
      .exiting flight { page with context := b.context } leaving middlewares := by rw [h]; rfl
  cases move with
  | still other =>
    rw [Backdrop.undergo_of_touch? other]
    exact .inl ⟨by simpa using leaves, by simp⟩
  | called | readdressed => cases turn
  | queued other quiet =>
    obtain ⟨outbox', told', rfl⟩ := quiet
    rw [Backdrop.undergo_of_touch? other]
    subst h
    exact .inl ⟨⟨turn, flight, leaving, middlewares, redirects, outbox', told'.trans told, rfl⟩,
      by simp⟩
  | exitAnswered doing goes =>
    rw [exiting] at doing
    cases doing
    cases goes with
    | @next c rest _ quiet =>
      obtain ⟨outbox', told', rfl⟩ := quiet
      subst h
      refine .inl ⟨?_, by simp [answerEvents, Navigator.landed, Moment.reach]⟩
      simp only [answerEvents, Navigator.landed, Moment.reach, List.append_nil, acceptedIn,
        gather_cons, gather_nil, Event.accepted?, Option.toList]
      exact ⟨turn, flight, leaving, c :: rest, redirects, outbox', told'.trans told, rfl⟩
    | left quiet goes => exact .inr (past_reach goes.phase_ne _ _)
    | denied quiet
    | redirected quiet =>
      obtain ⟨_, _, rfl⟩ := quiet
      refine .inr (past_reach ?_ _ _)
      rintro ⟨⟩
  | entryAnswered doing => cases exiting.symm.trans doing
  | refusalShown doing => cases exiting.symm.trans doing
  | returned | dequeued => cases turn
  | touched => exact .inl ⟨by simpa using leaves.touch _, by simp⟩

/-- The turn of a request while a page is shown: its exit chain runs, or is over at once. -/
lemma leaves_or_past_begun [Named κ] {n : Navigator μ κ η} {flight : Flight}
    {p : Navigator.Progress μ κ η} (quiet : Navigator.Quietly { n₀ with queue } n)
    (shown : n₀.active = some page) (goes : n.TakeOff flight p) (turn : flight.request = r) :
    (Leaves n₀ page r (n₀.backdrop page) queue (Moment.begun r flight p).1 ∧
      (Moment.begun r flight p).2 = [.began r]) ∨ Past (Moment.begun r flight p).1 := by
  obtain ⟨outbox, told, rfl⟩ := quiet
  cases goes with
  | dropped target quiet
  | looped target exceeds quiet =>
    obtain ⟨_, _, rfl⟩ := quiet
    refine .inr (past_reach ?_ _ _)
    rintro ⟨⟩
  | departs target within goes =>
    have redirects := Navigator.redirects_of_located target
    cases goes with
    | fresh bare => cases bare.symm.trans shown
    | waits shown' chain quiet =>
      cases shown'.symm.trans shown
      obtain ⟨outbox', told', rfl⟩ := quiet
      refine .inl ⟨⟨rfl, _, _, _, redirects.trans (turn ▸ rfl), outbox', ?_, rfl⟩, ?_⟩
      · simp [Navigator.left, Navigator.backdrop, told', told]
      · simp [Moment.begun, Moment.reach, Navigator.landed]
    | left shown' chain quiet goes => exact .inr (past_reach goes.phase_ne _ _)

variable [Named μ] [Named κ]

lemma past_after {m : Moment μ κ η} (sound : m.Sound) (past : Past m) {acts : List (Act κ)}
    (same : .next ∉ acts) : Past (m.after acts) := by
  induction acts generalizing m with
  | nil => exact past
  | cons a acts ih =>
    refine ih (Moment.sound_step sound a) ?_ fun h => same (.tail a h)
    exact (Moment.move sound a).past sound past fun h => same (h ▸ List.mem_cons_self ..)

/-- As long as an exit chain runs, every act belongs to the backdrop or joins the queue. -/
lemma leaves_or_past_after {m : Moment μ κ η} (sound : m.Sound)
    (leaves : Leaves n₀ page r b queue m) {acts : List (Act κ)} (same : .next ∉ acts) :
    (Leaves n₀ page r (acts.foldl Backdrop.undergo b) (queue ++ acceptedIn (m.journal acts))
        (m.after acts) ∧
      ∀ hop c action, .answered .entry hop c action ∉ m.journal acts) ∨ Past (m.after acts) := by
  induction acts generalizing m b queue with
  | nil => exact .inl ⟨by simpa using leaves, by simp⟩
  | cons a acts ih =>
    have sound' := Moment.sound_step sound a
    have same' : .next ∉ acts := fun h => same (.tail a h)
    obtain ⟨leaves', none⟩ | past := leaves.move (Moment.move sound a)
    · obtain ⟨leaves', none'⟩ | past := ih sound' leaves' same'
      · -- Both parts of the run belong to the chain: no entry middleware answers in either of them.
        refine .inl ⟨by simpa using leaves', fun hop c action h => ?_⟩
        obtain h | h := List.mem_append.mp h
        · exact none hop c action h
        · exact none' hop c action h
      · exact .inr past
    · exact .inr (past_after sound' past same')

/-- The outcome of a request whose exit chain gives an answer that refuses. -/
def Action.refusal? : Action → Option Outcome
  | proceed => none
  | deny reason => some (.blocked reason none)
  | redirect target reason => some (.blocked (reason.getD "Redirected") (some target))

/-- The requests that come to the front of the queue when the exit chain of a request gives an
answer. -/
def Action.inFront (r : Request) : Action → List Request
  | redirect target _ => [r.redirected target .push]
  | _ => []

/-- When an exit chain refuses, the page is put back as the chain has left it. -/
lemma Leaves.refused {m : Moment μ κ η} (sound : m.Sound) (leaves : Leaves n₀ page r b queue m)
    {action : Action} {outcome : Outcome} (refuses : action.refusal? = some outcome) :
    (∃ owed, (m.step (.answer action)).1.stage = .served r outcome owed) ∧
      Navigator.Quietly
        (n₀.left page b (some { page with context := b.context }) (action.inFront r ++ queue) .idle)
        (m.step (.answer action)).1.navigator ∧
      ∀ hop c answer, .answered .entry hop c answer ∉ (m.step (.answer action)).2 := by
  obtain ⟨turn, flight, leaving, middlewares, redirects, outbox, told, h⟩ := leaves
  obtain ⟨n, stage⟩ := m
  dsimp only at turn h
  subst turn
  have serves : n.activity.Serves r := sound.2
  have exiting : n.activity =
      .exiting flight { page with context := b.context } leaving middlewares := by rw [h]; rfl
  rw [exiting] at serves
  cases serves with
  | exiting leads =>
    obtain ⟨p, reacts, goes⟩ := Navigator.react_exiting exiting action
    simp only [Moment.step, Moment.answer, Navigator.asked?, exiting, reacts]
    cases goes with
    | next | left => cases refuses
    | denied quiet =>
      cases refuses
      obtain ⟨outbox', told', rfl⟩ := quiet
      subst h
      refine ⟨⟨_, rfl⟩, ?_, by simp [answerEvents, Moment.reach]⟩
      exact .trans ⟨outbox', told'.trans told, rfl⟩ (Navigator.quietly_reportServed _ _ _)
    | redirected quiet =>
      cases refuses
      obtain ⟨outbox', told', rfl⟩ := quiet
      subst h
      refine ⟨⟨_, rfl⟩, ?_, by simp [answerEvents, Moment.reach]⟩
      refine .trans ⟨outbox', told'.trans told, ?_⟩ (Navigator.quietly_reportServed _ _ _)
      simp only [Navigator.left, Action.inFront, Request.redirected, redirects, List.cons_append,
        List.nil_append]

/-- A refused exit changes nothing. Whatever call or queued request `a` begins, when the exit chain
of the page that is shown refuses, the request is blocked, nothing is in progress, and the navigator
is as it was before but for what the application has done around the chain, the log, and three
things: the scroll store has the position of the page, the history entry of the page has the state
of its context with that position, and a redirect stands in front of the queue. The history has the
same URLs and the same position, no entry middleware has run, and the controller is neither disposed
nor taken away unless somebody else has done so. -/
theorem refused_exit_keeps_page [ListedHistory η] {s : Setup μ κ η} {n : Navigator μ κ η}
    (built : s.build = .ok n) (before : List (Act κ)) {page : ActivePage κ} {a : Act κ}
    {r : Request} (shown : ((Moment.start n).after before).navigator.active = some page)
    (turn : ((Moment.start n).after before).upcoming? a = some r) {acts : List (Act κ)}
    (same : .next ∉ acts)
    (leaving : (((Moment.start n).after before).after (a :: acts)).navigator.phase = .exiting)
    {action : Action} {outcome : Outcome} (refuses : action.refusal? = some outcome) :
    let m₀ := (Moment.start n).after before
    let result := (m₀.after (a :: acts)).step (.answer action)
    let b := acts.foldl Backdrop.undergo (m₀.navigator.backdrop page)
    let past := ListedHistory.listed m₀.navigator.history
    let past' := ListedHistory.listed result.1.navigator.history
    (∃ owed, result.1.stage = .served r outcome owed) ∧
    result.1.navigator.phase = .idle ∧
    Navigator.Quietly
      (m₀.navigator.left page b (some { page with context := b.context })
        (action.inFront r ++ (m₀.waiting a ++ acceptedIn ((m₀.step a).1.journal acts))) .idle)
      result.1.navigator ∧
    (past'.urls = past.urls ∧ past'.position = past.position ∧
      past'.entries = if m₀.navigator.currentUrl? = some page.context.url then
          past.entries.set past.position
            { url := page.context.url, state := m₀.navigator.leftState page.context }
        else past.entries) ∧
    (∀ hop c answer, .answered .entry hop c answer ∉
      m₀.journal (a :: (acts ++ [.answer action]))) ∧
    ((∀ c, .touch (.attach c) ∉ acts ∧ .touch (.returnController c) ∉ acts) → b.disposed = []) ∧
    ((∀ f, .touch (.edit f) ∈ acts → ∀ c : Context κ, (f c).controller = c.controller) →
      (∀ c, .touch (.attach c) ∉ acts) → b.context.controller = page.context.controller) := by
  intro m₀ result b past past'
  have sound₀ : m₀.Sound := Moment.sound_after (Moment.sound_start built) before
  have sound₁ := Moment.sound_step sound₀ a
  obtain ⟨n', flight, p, accepted, request, quiet, goes, shape, began⟩ :=
    Moment.step_of_upcoming turn
  -- The act begins the exit chain: it is still running in the end, so it was not over at once.
  obtain ⟨leaves, events⟩ | gone := leaves_or_past_begun quiet shown goes request
  · have none : ∀ hop c answer, .answered .entry hop c answer ∉ (m₀.step a).2 := by
      rw [began, events]
      rcases shape with rfl | rfl <;> simp
    rw [← congrArg Prod.fst began] at leaves
    obtain ⟨leaves', none'⟩ | gone := leaves_or_past_after sound₁ leaves same
    · obtain ⟨served, kept, none''⟩ := leaves'.refused (Moment.sound_after sound₁ acts) refuses
      obtain ⟨outbox, told, h⟩ := id kept
      have history : result.1.navigator.history = m₀.navigator.leftHistory page.context :=
        congrArg Navigator.history h
      have idle : result.1.navigator.phase = .idle := congrArg Navigator.phase h
      obtain ⟨entries, urls, position⟩ := m₀.navigator.listed_leftHistory page.context
      rw [← history] at entries urls position
      refine ⟨served, idle, kept, ⟨urls, position, entries⟩, fun hop c answer h => ?_,
        Backdrop.disposed_foldl _, Backdrop.controller_foldl _⟩
      rw [Moment.journal_cons, Moment.journal_append, Moment.journal_cons, Moment.journal_nil,
        List.append_nil, List.mem_append, List.mem_append] at h
      rcases h with h | h | h
      · exact none hop c answer h
      · exact none' hop c answer h
      · exact none'' hop c answer h
    · exact absurd leaving gone.2
  · rw [← congrArg Prod.fst began] at gone
    exact absurd leaving (past_after sound₁ gone same).2

end

/-- A page with a controller is asked before it is left, and leads to another page while a second
request waits. -/
theorem refused_exit_keeps_page_redirect :
    let s : Setup String String MemoryHistory :=
      { routes := [{ (Route.catchAll : Route String) with entry := ["form"], exit := ["confirm"] }],
        history := {} }
    let before : List (Act String) :=
      [.call (.start "/a"), .touch (.attach "form"), .answer .proceed, .next]
    let acts : List (Act String) := [.call (.push "/c")]
    ∃ n, s.build = .ok n ∧
      let m₀ := (Moment.start n).after before
      let m := ((m₀.after (.call (.push "/b") :: acts)).step (.answer (.redirect "/d" none))).1
      (∃ owed, m.stage = .served ⟨"/b", .push, 0⟩ (.blocked "Redirected" (some "/d")) owed) ∧
      m.navigator.queue = [⟨"/d", .push, 1⟩, ⟨"/c", .push, 0⟩] ∧
      m.navigator.active.bind (·.context.controller) = some "form" ∧
      m.navigator.history.urls = m₀.navigator.history.urls := by
  intro s before acts
  have built : s.build = .ok _ := rfl
  have same : .next ∉ acts := by simp [acts]
  have kept := @refused_exit_keeps_page _ _ _ _ _ _ _ s _ built before _ (.call (.push "/b"))
    ⟨"/b", .push, 0⟩ (Option.some_get (by decide)).symm (by decide) acts same (by decide)
    (.redirect "/d" none) (.blocked "Redirected" (some "/d")) (by decide)
  exact ⟨_, built, kept.1, by decide, by decide, kept.2.2.2.1.1⟩

/-- The state of the page goes into the history as a whole: with the position also the values that a
middleware has put there since the entry was made. -/
theorem refused_exit_writes_values :
    let s : Setup String String MemoryHistory :=
      { routes := [{ (Route.catchAll : Route String) with entry := ["draft"], exit := ["stay"] }],
        history := {} }
    let values : Parameters := .ofList [("draft", "1")]
    let before : List (Act String) :=
      [.call (.start "/a"), .touch (.edit fun c => { c with state.extra := values }),
        .answer .proceed, .next]
    ∃ n, s.build = .ok n ∧
      let m₀ := (Moment.start n).after before
      let m := m₀.after [.call (.push "/b"), .answer (.deny "stay")]
      m.stage = .served ⟨"/b", .push, 0⟩ (.blocked "stay" none) (.blocked "stay" none) ∧
      m₀.navigator.history.entries = [{ url := "/a" }] ∧
      m.navigator.history.entries =
        [{ url := "/a", state := { scroll := some .top, extra := values } }] ∧
      ∀ offset, m.navigator.history.entries ≠
        [{ url := "/a", state := { scroll := some offset } }] := by
  intro s values before
  refine ⟨_, rfl, by decide, by decide, ?_⟩
  refine (and_iff_left_of_imp ?_).mpr (by decide)
  rintro h offset
  rw [h]
  have other : values ≠ .empty := by decide
  simp [other]

end Wayfinder
