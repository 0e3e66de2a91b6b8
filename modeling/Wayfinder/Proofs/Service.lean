/-
How requests are served.

What holds at every moment of a run: while something is waited for, no page is shown and the
activity of the navigator belongs to the request whose turn it is (`Moment.Sound`). From this
follows all that a step can do (`Moment.Move`), which every proof about runs goes through.

At the end it is shown that the calls of the navigator, which may serve many requests in one go, are
made of these steps.
-/
import Wayfinder.Navigator.Setup
import Wayfinder.Proofs.Moment

namespace Wayfinder

/-- The requests that a request leads to while it is served: a traversal is given the URL of the
entry it goes to, and entry chains lead to other URLs. -/
inductive Request.Leads (r : Request) : Request → Prop
  /-- It starts with itself. -/
  | here : Leads r r
  /-- The target of a traversal is looked up. -/
  | located {hop : Request} (url : String) (leads : Leads r hop) (kind : hop.kind.isTraversal) :
      Leads r { hop with url }
  /-- An entry chain leads elsewhere. -/
  | redirected {hop : Request} (url : String) (leads : Leads r hop) :
      Leads r (hop.redirected url .replace)

variable {μ κ η : Type}

/-- The activities that belong to a request. -/
inductive Activity.Serves (r : Request) : Activity μ κ → Prop
  /-- A middleware of an exit chain is to answer. -/
  | exiting {flight page leaving m rest} (leads : r.Leads flight.request) :
      Serves r (.exiting flight page leaving (m :: rest))
  /-- A middleware of an entry chain is to answer. -/
  | entering {flight route context m rest} (leads : r.Leads flight.request) :
      Serves r (.entering flight route context (m :: rest))
  /-- A controller is to show a refusal. -/
  | refused {flight route context reason} (leads : r.Leads flight.request) :
      Serves r (.refused flight route context reason)

lemma Activity.Serves.phase_ne {r : Request} {a : Activity μ κ} (h : a.Serves r) :
    a.phase ≠ .idle := by
  cases h <;> rintro ⟨⟩

lemma Activity.Serves.edit {r : Request} {a : Activity μ κ} (h : a.Serves r)
    (f : Context κ → Context κ) : (a.edit f).Serves r := by
  cases h with
  | exiting leads => exact .exiting leads
  | entering leads => exact .entering leads
  | refused leads => exact .refused leads

namespace Navigator

/-! ### The progress of one request -/

/-- The progress of a request: it waits for something that belongs to it, or nothing is in progress.
`queue` are the requests that wait. -/
def Underway (r : Request) (queue : List Request) : Progress μ κ η → Prop
  | (n, none) => n.active = none ∧ n.activity.Serves r ∧ n.queue = queue
  | (n, some _) => n.activity = .idle ∧ n.queue = queue

variable [History η]

lemma Arrival.underway {n : Navigator μ κ η} {flight : Flight} {p : Progress μ κ η} {r : Request}
    (goes : n.Arrival flight p) (bare : n.active = none) (leads : r.Leads flight.request) :
    Underway r n.queue p := by
  cases goes with
  | notFound put aim found quiet =>
    obtain ⟨_, _, rfl⟩ := quiet
    exact ⟨rfl, rfl⟩
  | waits put aim found chain quiet =>
    obtain ⟨_, _, rfl⟩ := quiet
    exact ⟨bare, .entering leads, rfl⟩
  | entered put aim found chain quiet =>
    obtain ⟨_, _, rfl⟩ := quiet
    exact ⟨rfl, rfl⟩

lemma Departure.underway [Named κ] {n : Navigator μ κ η} {flight : Flight} {p : Progress μ κ η}
    {r : Request} (goes : n.Departure flight p) (leads : r.Leads flight.request) :
    Underway r n.queue p := by
  cases goes with
  | fresh shown quiet goes =>
    obtain ⟨_, _, rfl⟩ := quiet
    exact goes.underway shown leads
  | waits shown chain quiet =>
    obtain ⟨_, _, rfl⟩ := quiet
    exact ⟨rfl, .exiting leads, rfl⟩
  | left shown chain quiet goes =>
    obtain ⟨_, _, rfl⟩ := quiet
    exact goes.underway rfl leads

lemma leads_of_located {n : Navigator μ κ η} {r hop hop' : Request} (leads : r.Leads hop)
    (target : n.located? hop = some hop') : r.Leads hop' := by
  unfold located? at target
  split at target
  · obtain rfl := Option.some.inj target
    exact leads
  · rename_i offset kind
    obtain ⟨entry, -, rfl⟩ := Option.map_eq_some_iff.mp target
    exact .located _ leads (by simp [Kind.isTraversal_eq, kind])

/-- Looking the target of a traversal up leaves the number of redirects as it is. -/
lemma redirects_of_located {n : Navigator μ κ η} {r hop : Request}
    (target : n.located? r = some hop) : hop.redirects = r.redirects := by
  unfold located? at target
  split at target
  · rw [Option.some.inj target]
  · obtain ⟨_, -, rfl⟩ := Option.map_eq_some_iff.mp target
    rfl

lemma TakeOff.underway [Named κ] {n : Navigator μ κ η} {flight : Flight} {p : Progress μ κ η}
    {r : Request} (goes : n.TakeOff flight p) (leads : r.Leads flight.request) :
    Underway r n.queue p := by
  cases goes with
  | dropped target quiet =>
    obtain ⟨_, _, rfl⟩ := quiet
    exact ⟨rfl, rfl⟩
  | looped target exceeds quiet =>
    obtain ⟨_, _, rfl⟩ := quiet
    exact ⟨rfl, rfl⟩
  | departs target within goes => exact goes.underway (leads_of_located leads target)

/-- The requests that wait after an exit chain has given an answer. -/
def queueAfter (n : Navigator μ κ η) (hop : Request) : Action → List Request
  | .redirect target _ => hop.redirected target .push :: n.queue
  | _ => n.queue

lemma ExitReaction.underway {n : Navigator μ κ η} {flight : Flight} {page : ActivePage κ}
    {leaving : Leaving} {rest : List μ} {action : Action} {p : Progress μ κ η} {r : Request}
    (goes : n.ExitReaction flight page leaving rest action p) (bare : n.active = none)
    (leads : r.Leads flight.request) : Underway r (n.queueAfter flight.request action) p := by
  cases goes with
  | next quiet =>
    obtain ⟨_, _, rfl⟩ := quiet
    exact ⟨bare, .exiting leads, rfl⟩
  | left quiet goes =>
    obtain ⟨_, _, rfl⟩ := quiet
    exact goes.underway bare leads
  | denied quiet =>
    obtain ⟨_, _, rfl⟩ := quiet
    exact ⟨rfl, rfl⟩
  | redirected quiet =>
    obtain ⟨_, _, rfl⟩ := quiet
    exact ⟨rfl, rfl⟩

lemma EntryReaction.underway [Named κ] {n : Navigator μ κ η} {flight : Flight} {route : Nat}
    {context : Context κ} {rest : List μ} {action : Action} {p : Progress μ κ η} {r : Request}
    (goes : n.EntryReaction flight route context rest action p) (bare : n.active = none)
    (leads : r.Leads flight.request) : Underway r n.queue p := by
  cases goes with
  | next quiet =>
    obtain ⟨_, _, rfl⟩ := quiet
    exact ⟨bare, .entering leads, rfl⟩
  | entered quiet =>
    obtain ⟨_, _, rfl⟩ := quiet
    exact ⟨rfl, rfl⟩
  | refused shows quiet =>
    obtain ⟨_, _, rfl⟩ := quiet
    exact ⟨bare, .refused leads, rfl⟩
  | denied shows quiet =>
    obtain ⟨_, _, rfl⟩ := quiet
    exact ⟨rfl, rfl⟩
  | followed quiet goes =>
    obtain ⟨_, _, rfl⟩ := quiet
    exact goes.underway (.redirected _ leads)

omit [History η] in
lemma underway_of_settled {n n' : Navigator μ κ η} {route : Nat} {context : Context κ} {r : Request}
    (quiet : Quietly (n.settled route context) n') (outcome : Outcome) :
    Underway r n.queue (n', some outcome) := by
  obtain ⟨_, _, rfl⟩ := quiet
  exact ⟨rfl, rfl⟩

/-! ### Requests that wait -/

omit [History η] in
/-- A navigator without a navigation in progress takes no request for later. -/
lemma phase_ne_idle {n : Navigator μ κ η} {r : Request} (serves : n.activity.Serves r) :
    n.phase ≠ .idle :=
  serves.phase_ne

/-- A request that comes while a navigation is in progress has to wait, and that is all. -/
theorem request_of_phase_ne [Named μ] [Named κ] {n : Navigator μ κ η} (busy : n.phase ≠ .idle)
    (kind : Kind) (url : String) :
    ∃ n', Quietly { n with queue := n.queue ++ [{ url, kind }] } n' ∧
      n.request kind url = (n', some (.queued url)) := by
  refine ⟨_, ?_, by rw [request, if_neg busy]⟩
  exact ⟨_, by simp [report], rfl⟩

/-- So does a request to change the address of a page. -/
theorem inPlace_of_phase_ne {n : Navigator μ κ η} (busy : n.phase ≠ .idle) (push : Bool)
    (url : String) :
    ∃ n', Quietly
        { n with queue := n.queue ++ [{ url, kind := if push then .push else .replace }] } n' ∧
      n.inPlace push url = (n', .queued url) := by
  refine ⟨_, ?_, by rw [inPlace, if_neg busy]⟩
  exact ⟨_, by simp [report], rfl⟩

/-! ### Changes of the address -/

/-- What comes of a request to change the address of the page that is shown, while no navigation is
in progress. -/
inductive Readdressing (n : Navigator μ κ η) (url : String) : Navigator μ κ η × Outcome → Prop
  /-- There is no page. -/
  | nowhere (shown : n.active = none) :
      Readdressing n url (n, .blocked "No active route" (some url))
  /-- The URL does not lead to the route of the page. -/
  | elsewhere {page table found n'} (shown : n.active = some page)
      (resolved : n.table.resolve url = (table, found))
      (other : ∀ m, found = some m → page.route ≠ some m.index)
      (quiet : Quietly { n with table } n') :
      Readdressing n url (n', .blocked "URL belongs to another route" (some url))
  /-- The page goes on with the new URL. -/
  | here {page table m history scroll context n'} (shown : n.active = some page)
      (resolved : n.table.resolve url = (table, some m))
      (same : page.route = some m.index)
      (held : context.controller = page.context.controller)
      (quiet : Quietly { n with
          table, history, scroll, active := some { page with context } } n') :
      Readdressing n url (n', .success url)

lemma readdressing_of_phase {n : Navigator μ κ η} (free : n.phase = .idle) (push : Bool)
    (url : String) : n.Readdressing url (n.inPlace push url) := by
  unfold inPlace
  rw [if_pos free]
  rcases shown : n.active with _ | page
  · exact .nowhere shown
  · rcases resolved : n.table.resolve url with ⟨table, found⟩
    dsimp only
    split
    · rename_i other
      refine .elsewhere shown resolved ?other ⟨_, ?told, by rw [shown]; rfl⟩
      case told => simp [report]
      case other =>
        rintro m rfl same
        simp [same] at other
    · rename_i m here
      obtain ⟨rfl, same⟩ := Option.filter_eq_some_iff.mp here
      cases push with
      | true =>
        exact .here shown resolved (by simpa using same) (by rfl)
          ⟨_, by simp [commitInPlace, report], rfl⟩
      | false =>
        exact .here shown resolved (by simpa using same) (by rfl)
          ⟨_, by simp [commitInPlace, report], rfl⟩

lemma readdressing {n : Navigator μ κ η} (idle : n.activity = .idle) (push : Bool) (url : String) :
    n.Readdressing url (n.inPlace push url) :=
  readdressing_of_phase (by rw [phase, idle]; rfl) push url

omit [History η] in
lemma Readdressing.queue_eq {n : Navigator μ κ η} {url : String}
    {result : Navigator μ κ η × Outcome} (h : n.Readdressing url result) :
    result.1.queue = n.queue := by
  cases h with
  | nowhere shown => rfl
  | elsewhere shown resolved other quiet =>
    obtain ⟨_, _, rfl⟩ := quiet
    rfl
  | here shown resolved same held quiet =>
    obtain ⟨_, _, rfl⟩ := quiet
    rfl

omit [History η] in
lemma Readdressing.activity_eq {n : Navigator μ κ η} {url : String}
    {result : Navigator μ κ η × Outcome} (h : n.Readdressing url result) :
    result.1.activity = n.activity := by
  cases h with
  | nowhere shown => rfl
  | elsewhere shown resolved other quiet =>
    obtain ⟨_, _, rfl⟩ := quiet
    rfl
  | here shown resolved same held quiet =>
    obtain ⟨_, _, rfl⟩ := quiet
    rfl

end Navigator

/-! ### Touches -/

@[simp] lemma Activity.edit_id (a : Activity μ κ) : a.edit (fun c => c) = a := by
  cases a <;> rfl

@[simp] lemma Activity.phase_edit (a : Activity μ κ) (f : Context κ → Context κ) :
    (a.edit f).phase = a.phase := by
  cases a <;> rfl

/-- The page with another controller, or with none. -/
def ActivePage.holding (page : ActivePage κ) (controller : Option κ) : ActivePage κ :=
  { page with context := { page.context with controller } }

@[simp] lemma ActivePage.holding_self (page : ActivePage κ) :
    page.holding page.context.controller = page := rfl

/-- What a touch leaves as it is: it reaches the context that a chain runs on, of the page that is
shown only the controller, and what has to do with scrolling. -/
structure Navigator.Touched (n n' : Navigator μ κ η) : Prop where
  config : n'.config = n.config
  table : n'.table = n.table
  history : n'.history = n.history
  scroll : n'.scroll = n.scroll
  handlers : n'.handlers = n.handlers
  queue : n'.queue = n.queue
  active : ∃ hold : ActivePage κ → Option κ,
    n'.active = n.active.map fun page => page.holding (hold page)
  activity : ∃ f, n'.activity = n.activity.edit f

lemma Touch.touched (n : Navigator μ κ η) (t : Touch κ) : n.Touched (t.apply n) := by
  have same : n.active = n.active.map fun page => page.holding page.context.controller := by simp
  have still : n.activity = n.activity.edit fun c => c := by simp
  cases t with
  | edit f => exact ⟨rfl, rfl, rfl, rfl, rfl, rfl, ⟨_, same⟩, ⟨f, rfl⟩⟩
  | attach c =>
    simp only [apply, Navigator.attach, Navigator.discard_eq]
    exact ⟨rfl, rfl, rfl, rfl, rfl, rfl, ⟨_, same⟩, ⟨fun context => (context.attach c).1, rfl⟩⟩
  | takeController =>
    simp only [apply, Navigator.takeController]
    rcases shown : n.active with _ | page
    · exact ⟨rfl, rfl, rfl, rfl, rfl, rfl, ⟨_, same⟩, ⟨_, still⟩⟩
    · rcases held : page.context.controller with _ | c
      · simp only [held]
        exact ⟨rfl, rfl, rfl, rfl, rfl, rfl, ⟨_, same⟩, ⟨_, still⟩⟩
      · simp only [held]
        exact ⟨rfl, rfl, rfl, rfl, rfl, rfl, ⟨fun _ => none, by rw [shown]; rfl⟩, ⟨_, still⟩⟩
  | returnController c =>
    simp only [apply, Navigator.returnController]
    rcases shown : n.active with _ | page
    · exact ⟨rfl, rfl, rfl, rfl, rfl, rfl, ⟨_, same⟩, ⟨_, still⟩⟩
    · rcases held : page.context.controller with _ | c'
      · simp only [held]
        exact ⟨rfl, rfl, rfl, rfl, rfl, rfl, ⟨fun _ => some c, by rw [shown]; rfl⟩, ⟨_, still⟩⟩
      · simp only [held]
        exact ⟨rfl, rfl, rfl, rfl, rfl, rfl, ⟨_, same⟩, ⟨_, still⟩⟩
  | deferScroll =>
    simp only [apply, Navigator.deferScroll]
    split
    · exact ⟨rfl, rfl, rfl, rfl, rfl, rfl, ⟨_, same⟩, ⟨_, still⟩⟩
    · exact ⟨rfl, rfl, rfl, rfl, rfl, rfl, ⟨_, same⟩, ⟨_, still⟩⟩
  | contentRendered =>
    simp only [apply, Navigator.contentRendered]
    split
    · exact ⟨rfl, rfl, rfl, rfl, rfl, rfl, ⟨_, same⟩, ⟨_, still⟩⟩
    · obtain ⟨outbox, -, h⟩ :=
        n.quietly_scrollNow fun p => "Restoring scroll to " ++ p.describe ++ " after render"
      rw [h]
      exact ⟨rfl, rfl, rfl, rfl, rfl, rfl, ⟨_, same⟩, ⟨_, still⟩⟩
  | view viewport => exact ⟨rfl, rfl, rfl, rfl, rfl, rfl, ⟨_, same⟩, ⟨_, still⟩⟩

namespace Navigator.Touched

variable {n n' : Navigator μ κ η} (h : n.Touched n')
include h

lemma active_eq_none (bare : n.active = none) : n'.active = none := by
  obtain ⟨hold, shown⟩ := h.active
  rw [shown, bare, Option.map_none]

lemma activity_eq_idle (idle : n.activity = .idle) : n'.activity = .idle := by
  obtain ⟨f, doing⟩ := h.activity
  rw [doing, idle]
  rfl

lemma phase_eq : n'.phase = n.phase := by
  obtain ⟨f, doing⟩ := h.activity
  rw [Navigator.phase, doing, Activity.phase_edit, Navigator.phase]

lemma serves {r : Request} (serves : n.activity.Serves r) : n'.activity.Serves r := by
  obtain ⟨f, doing⟩ := h.activity
  rw [doing]
  exact serves.edit f

end Navigator.Touched

/-! ### Beginnings -/

/-- What a navigator is that has just been set up. -/
lemma Setup.eq_of_build {s : Setup μ κ η} {n : Navigator μ κ η} (built : s.build = .ok n) :
    n = { config := s.config, table := s.table, history := s.history, viewport := s.viewport,
          scroll := .empty s.config.scrollCapacity, handlers := s.handlers } := by
  simp only [build] at built
  rcases config : s.config.validate with e | _
  · rw [config] at built
    cases built
  · rcases table : s.table.validate s.config.requireCatchAll with e | _
    · rw [config, table] at built
      cases built
    · rw [config, table] at built
      cases built
      rfl

/-! ### Sound moments -/

namespace Moment

/-- Between two calls nothing waits and nothing is in progress. While something is waited for, no
page is shown, and it belongs to the request whose turn it is. -/
def Sound (m : Moment μ κ η) : Prop :=
  match m.stage with
  | .resting => m.navigator.activity = .idle ∧ m.navigator.queue = []
  | .serving r => m.navigator.active = none ∧ m.navigator.activity.Serves r
  | .served .. => m.navigator.activity = .idle

lemma sound_touch {m : Moment μ κ η} (sound : m.Sound) (t : Touch κ) :
    Sound { m with navigator := t.apply m.navigator } := by
  have touched := t.touched m.navigator
  rcases m with ⟨n, _ | r | ⟨r, outcome, owed⟩⟩
  · exact ⟨touched.activity_eq_idle sound.1, touched.queue.trans sound.2⟩
  · exact ⟨touched.active_eq_none sound.1, touched.serves sound.2⟩
  · exact touched.activity_eq_idle sound

/-- The progress of a request leads to a sound moment. -/
lemma sound_reach {r : Request} {queue : List Request} {p : Navigator.Progress μ κ η}
    (underway : Navigator.Underway r queue p) (flight : Flight) : (reach r flight p).1.Sound := by
  rcases p with ⟨n, _ | outcome⟩
  · exact ⟨underway.1, underway.2.1⟩
  · obtain ⟨_, -, h⟩ := n.quietly_reportServed flight outcome
    simp only [reach, Sound, h]
    exact underway.1

/-- What a request leaves waiting goes on waiting. -/
lemma queue_reach {r : Request} {queue : List Request} {p : Navigator.Progress μ κ η}
    (underway : Navigator.Underway r queue p) (flight : Flight) :
    (reach r flight p).1.navigator.queue = queue := by
  rcases p with ⟨n, _ | outcome⟩
  · exact underway.2.2
  · obtain ⟨_, -, h⟩ := n.quietly_reportServed flight outcome
    simp only [reach, h]
    exact underway.2

/-! ### Steps -/

section Steps

variable [Named μ] [Named κ] [History η]

/-- The turn of a request that begins with some progress. -/
def begun (r : Request) (flight : Flight) (p : Navigator.Progress μ κ η) :
    Moment μ κ η × List (Event μ) :=
  ((reach r flight p).1, .began r :: (Navigator.landed p ++ (reach r flight p).2))

/-- All that can happen at a moment. -/
inductive Move (n : Navigator μ κ η) : Stage → Act κ → Moment μ κ η × List (Event μ) → Prop
  /-- Nothing, if it is not the time for an act. -/
  | still {stage a} (other : a.touch? = none) : Move n stage a (⟨n, stage⟩, [])
  /-- A call whose request is served at once. -/
  | called {c url kind p} (target : n.target? c = some (kind, url))
      (goes : n.TakeOff { request := { url, kind } } p) :
      Move n .resting (.call c)
        ((begun { url, kind } { request := { url, kind } } p).1,
          .accepted { url, kind } :: (begun { url, kind } { request := { url, kind } } p).2)
  /-- A request that has to wait. -/
  | queued {r a url kind n'} (other : a.touch? = none)
      (quiet : Navigator.Quietly { n with queue := n.queue ++ [{ url, kind }] } n') :
      Move n (.serving r) a (⟨n', .serving r⟩, [.accepted { url, kind }])
  /-- A change of the address of the page that is shown. -/
  | readdressed {push url} :
      Move n .resting (.inPlace push url)
        (⟨(n.inPlace push url).1, .resting⟩, [.readdressed (n.inPlace push url).2])
  /-- The answer of an exit middleware. -/
  | exitAnswered {r flight page leaving m rest action p}
      (doing : n.activity = .exiting flight page leaving (m :: rest))
      (goes : n.ExitReaction flight page leaving rest action p) :
      Move n (.serving r) (.answer action)
        ((reach r flight p).1,
          answerEvents .exit flight.request m action p ++ (reach r flight p).2)
  /-- The answer of an entry middleware. -/
  | entryAnswered {r flight route context m rest action p}
      (doing : n.activity = .entering flight route context (m :: rest))
      (goes : n.EntryReaction flight route context rest action p) :
      Move n (.serving r) (.answer action)
        ((reach r flight p).1,
          answerEvents .entry flight.request m action p ++ (reach r flight p).2)
  /-- A refusal has been shown. -/
  | refusalShown {r flight route context reason n'}
      (doing : n.activity = .refused flight route context reason)
      (quiet : Navigator.Quietly (n.settled route context) n') :
      Move n (.serving r) .shown (reach r flight (n', some (.blocked reason none)))
  /-- The call returns. -/
  | returned {r outcome owed} (queue : n.queue = []) :
      Move n (.served r outcome owed) .next (⟨n, .resting⟩, [.returned owed])
  /-- The turn of the request that has waited longest. -/
  | dequeued {r outcome owed r' rest n' p} (queue : n.queue = r' :: rest)
      (quiet : Navigator.Quietly { n with queue := rest } n')
      (goes : n'.TakeOff { request := r', owed := some owed } p) :
      Move n (.served r outcome owed) .next (begun r' { request := r', owed := some owed } p)
  /-- A touch. -/
  | touched {stage t} : Move n stage (.touch t) (⟨t.apply n, stage⟩, [])

/-- What every act does at a sound moment. -/
theorem move {m : Moment μ κ η} (sound : m.Sound) (a : Act κ) :
    Move m.navigator m.stage a (m.step a) := by
  rcases m with ⟨n, stage⟩
  cases a with
  | call c =>
    rcases target : n.target? c with _ | ⟨kind, url⟩
    · simp only [step, call, target]
      exact .still rfl
    · rcases stage with _ | r | ⟨r, outcome, owed⟩
      · simp only [step, call, target, takeUp]
        exact .called target (n.takeOff_eq _)
      · obtain ⟨n', quiet, h⟩ :=
          Navigator.request_of_phase_ne (Navigator.phase_ne_idle sound.2) kind url
        simp only [step, call, target, h]
        exact .queued rfl quiet
      · simp only [step, call, target]
        exact .still rfl
  | inPlace push url =>
    rcases stage with _ | r | ⟨r, outcome, owed⟩
    · exact .readdressed
    · obtain ⟨n', quiet, h⟩ :=
        Navigator.inPlace_of_phase_ne (Navigator.phase_ne_idle sound.2) push url
      simp only [step, inPlace, h]
      exact .queued rfl quiet
    · exact .still rfl
  | answer action =>
    rcases stage with _ | r | ⟨r, outcome, owed⟩
    · exact .still rfl
    · -- What is waited for tells which side answers; a refusal that is being shown has no answer.
      generalize doing : n.activity = activity
      have serves : activity.Serves r := doing ▸ sound.2
      cases serves with
      | exiting leads =>
        obtain ⟨p, h, goes⟩ := Navigator.react_exiting doing action
        simp only [step, answer, Navigator.asked?, doing, h]
        exact .exitAnswered doing goes
      | entering leads =>
        obtain ⟨p, h, goes⟩ := Navigator.react_entering doing action
        simp only [step, answer, Navigator.asked?, doing, h]
        exact .entryAnswered doing goes
      | refused leads =>
        simp only [step, answer, Navigator.asked?, doing]
        exact .still rfl
    · exact .still rfl
  | shown =>
    rcases stage with _ | r | ⟨r, outcome, owed⟩
    · exact .still rfl
    · generalize doing : n.activity = activity
      have serves : activity.Serves r := doing ▸ sound.2
      cases serves with
      | exiting leads =>
        simp only [step, shown, Navigator.resumeRefused, doing]
        exact .still rfl
      | entering leads =>
        simp only [step, shown, Navigator.resumeRefused, doing]
        exact .still rfl
      | refused leads =>
        obtain ⟨n', quiet, h⟩ := Navigator.resumeRefused_eq doing
        simp only [step, shown, h]
        exact .refusalShown doing quiet
    · exact .still rfl
  | next =>
    rcases stage with _ | r | ⟨r, outcome, owed⟩
    · exact .still rfl
    · exact .still rfl
    · rcases queue : n.queue with _ | ⟨r', rest⟩
      · simp only [step, next, queue]
        exact .returned queue
      · simp only [step, next, queue, takeUp]
        exact .dequeued queue (n.quietly_dequeue r' rest) (Navigator.takeOff_eq _ _)
  | touch t => exact .touched

omit [Named μ] [Named κ] in
/-- A turn begins while nothing is in progress. -/
lemma Sound.idle_of_upcoming {m : Moment μ κ η} (sound : m.Sound) {a : Act κ} {r : Request}
    (turn : m.upcoming? a = some r) : m.navigator.activity = .idle := by
  rcases m with ⟨n, _ | r' | ⟨r', outcome, owed⟩⟩
  · exact sound.1
  · cases a <;> cases turn
  · exact sound

/-- An act that begins the turn of a request makes it take off, and does nothing else. -/
lemma step_of_upcoming {m : Moment μ κ η} {a : Act κ} {r : Request}
    (turn : m.upcoming? a = some r) :
    ∃ n' flight p accepted, flight.request = r ∧
      Navigator.Quietly { m.navigator with queue := m.waiting a } n' ∧ n'.TakeOff flight p ∧
      (accepted = [] ∨ accepted = [.accepted r]) ∧
      m.step a = ((begun r flight p).1, accepted ++ (begun r flight p).2) := by
  rcases m with ⟨n, stage⟩
  unfold upcoming? at turn
  split at turn
  case h_1 c =>
    split at turn
    case h_1 resting =>
      obtain ⟨⟨kind, url⟩, target, rfl⟩ := Option.map_eq_some_iff.mp turn
      cases resting
      refine ⟨n, { request := { url, kind } }, _, [.accepted { url, kind }], rfl,
        ⟨n.outbox, rfl, rfl⟩, n.takeOff_eq _, .inr rfl, ?_⟩
      simp only [step, call, target, takeUp, begun]
      rfl
    case h_2 => cases turn
  case h_2 =>
    split at turn
    case h_1 r₀ outcome owed served =>
      obtain ⟨rest, queue⟩ := List.head?_eq_some_iff.mp turn
      replace queue : n.queue = r :: rest := queue
      cases served
      refine ⟨n.dequeue r rest, { request := r, owed := some owed }, _, [], rfl, ?_,
        Navigator.takeOff_eq _ _, .inl rfl, ?_⟩
      · simpa only [waiting, queue, List.tail_cons] using n.quietly_dequeue r rest
      · simp only [step, next, queue, takeUp, begun]
        rfl
    case h_2 => cases turn
  case h_3 => cases turn

omit [Named μ] in
lemma Move.sound {n : Navigator μ κ η} {stage : Stage} {a : Act κ}
    {result : Moment μ κ η × List (Event μ)} (move : Move n stage a result)
    (sound : Sound ⟨n, stage⟩) : result.1.Sound := by
  cases move with
  | still other => exact sound
  | called target goes => exact sound_reach (goes.underway .here) _
  | queued other quiet =>
    obtain ⟨_, _, rfl⟩ := quiet
    exact sound
  | @readdressed push url =>
    have readdressing := Navigator.readdressing sound.1 push url
    exact ⟨readdressing.activity_eq.trans sound.1, readdressing.queue_eq.trans sound.2⟩
  | exitAnswered doing goes =>
    cases doing ▸ sound.2 with
    | exiting leads => exact sound_reach (goes.underway sound.1 leads) _
  | entryAnswered doing goes =>
    cases doing ▸ sound.2 with
    | entering leads => exact sound_reach (goes.underway sound.1 leads) _
  | refusalShown doing quiet => exact sound_reach (Navigator.underway_of_settled quiet _) _
  | returned queue => exact ⟨sound, queue⟩
  | dequeued queue quiet goes => exact sound_reach (goes.underway .here) _
  | touched => exact sound_touch sound _

lemma sound_step {m : Moment μ κ η} (sound : m.Sound) (a : Act κ) : (m.step a).1.Sound :=
  (move sound a).sound sound

theorem sound_after {m : Moment μ κ η} (sound : m.Sound) (acts : List (Act κ)) :
    (m.after acts).Sound := by
  induction acts generalizing m with
  | nil => exact sound
  | cons a acts ih => exact ih (sound_step sound a)

end Steps

/-- A navigator that has just been set up is sound. -/
lemma sound_start {s : Setup μ κ η} {n : Navigator μ κ η} (built : s.build = .ok n) :
    (start n).Sound := by
  obtain rfl := Setup.eq_of_build built
  exact ⟨rfl, rfl⟩

/-! ### Calls -/

section Calls

variable [Named μ] [Named κ] [History η]

/-- The run of some acts leads where a call leads: the navigator is the same, and the call waits
for something or has returned an outcome. -/
def Amounts (m : Moment μ κ η) (acts : List (Act κ)) (p : Navigator.Progress μ κ η) : Prop :=
  (m.after acts).navigator = p.1 ∧
    match p.2 with
    | none => ∃ r, (m.after acts).stage = .serving r
    | some outcome => (m.after acts).stage = .resting ∧
        (m.journal acts).getLast? = some (.returned outcome)

lemma Amounts.cons {m : Moment μ κ η} {a : Act κ} {acts : List (Act κ)}
    {p : Navigator.Progress μ κ η} (h : (m.step a).1.Amounts acts p) :
    m.Amounts (a :: acts) p := by
  rcases p with ⟨n, _ | outcome⟩
  · exact h
  · refine ⟨h.1, h.2.1, ?_⟩
    rw [journal_cons, List.getLast?_append, h.2.2]
    rfl

/-- Emptying the queue is going on to the next request until there is none. -/
lemma amounts_drain (n : Navigator μ κ η) (r : Request) (outcome owed : Outcome)
    (queue : List Request) (waiting : n.queue = queue) :
    ∃ k, Amounts ⟨n, .served r outcome owed⟩ (List.replicate k .next) (n.drain owed queue) := by
  induction queue generalizing n r outcome with
  | nil =>
    refine ⟨1, ?_⟩
    have h : (step (κ := κ) ⟨n, .served r outcome owed⟩ .next) =
        (⟨n, .resting⟩, [.returned owed]) := by
      simp only [step, next, waiting]
    refine ⟨?_, ?_, ?_⟩
    · simp only [List.replicate_one, after_cons, after_nil, h, Navigator.drain, ← waiting]
    · simp only [List.replicate_one, after_cons, after_nil, h]
    · simp only [List.replicate_one, journal_cons, journal_nil, h]
      rfl
  | cons r' rest ih =>
    let flight : Flight := { request := r', owed := some owed }
    have goes := (n.dequeue r' rest).takeOff_eq flight
    have h : (step (κ := κ) ⟨n, .served r outcome owed⟩ .next).1 =
        (reach r' flight ((n.dequeue r' rest).takeOff flight)).1 := by
      simp only [step, next, waiting, takeUp, flight]
    have underway := goes.underway .here
    simp only [Navigator.drain]
    rcases taken : (n.dequeue r' rest).takeOff flight with ⟨n', _ | outcome'⟩
    · rw [taken] at h
      exact ⟨1, Amounts.cons (by rw [h]; exact ⟨rfl, r', rfl⟩)⟩
    · -- The request has ended at once, and the queue is the rest: the induction goes on from there.
      rw [taken] at h underway
      have waiting' := queue_reach underway flight
      obtain ⟨k, amounts⟩ := ih (n'.reportServed flight outcome') r' outcome' waiting'
      exact ⟨k + 1, Amounts.cons (by rw [h]; exact amounts)⟩

/-- Going on after a request is going on to the requests that wait. -/
lemma amounts_proceed (r : Request) (flight : Flight) (p : Navigator.Progress μ κ η) :
    ∃ k, (reach r flight p).1.Amounts (List.replicate k .next) (Navigator.proceed flight p) := by
  rcases p with ⟨n, _ | outcome⟩
  · exact ⟨0, rfl, r, rfl⟩
  · refine amounts_drain _ r outcome _ n.queue ?_
    obtain ⟨_, -, h⟩ := n.quietly_reportServed flight outcome
    rw [h]

/-- A call of a navigator that is not busy is its act, followed by the turns of those that have come
to wait. -/
theorem amounts_request {n : Navigator μ κ η} (idle : n.activity = .idle) {c : Call} {kind : Kind}
    {url : String} (target : n.target? c = some (kind, url)) :
    ∃ k, (start n).Amounts (.call c :: List.replicate k .next) (n.request kind url) := by
  have free : n.phase = .idle := by rw [Navigator.phase, idle]; rfl
  obtain ⟨k, amounts⟩ :=
    amounts_proceed { url, kind } { request := { url, kind } }
      (n.takeOff { request := { url, kind } })
  refine ⟨k, Amounts.cons ?_⟩
  rw [Navigator.request, if_pos free]
  simp only [start, step, call, target, takeUp]
  exact amounts

/-- The answer of a middleware is its act, followed by the turns of those that have come to wait. -/
theorem amounts_answer {n : Navigator μ κ η} {r : Request} (sound : Sound ⟨n, .serving r⟩)
    (action : Action) :
    ∃ k, Amounts ⟨n, .serving r⟩ (.answer action :: List.replicate k .next) (n.answer action) := by
  generalize doing : n.activity = activity
  have serves : activity.Serves r := doing ▸ sound.2
  cases serves with
  | exiting leads =>
    obtain ⟨p, h, -⟩ := Navigator.react_exiting doing action
    obtain ⟨k, amounts⟩ := amounts_proceed r _ p
    refine ⟨k, Amounts.cons ?_⟩
    simp only [step, answer, Navigator.asked?, doing, h, Navigator.answer]
    exact amounts
  | entering leads =>
    obtain ⟨p, h, -⟩ := Navigator.react_entering doing action
    obtain ⟨k, amounts⟩ := amounts_proceed r _ p
    refine ⟨k, Amounts.cons ?_⟩
    simp only [step, answer, Navigator.asked?, doing, h, Navigator.answer]
    exact amounts
  | refused leads =>
    refine ⟨0, Amounts.cons ?_⟩
    simp only [step, answer, Navigator.asked?, doing, Navigator.answer, Navigator.react]
    exact ⟨rfl, r, rfl⟩

/-- So is going on after a refusal was shown. -/
theorem amounts_resume (n : Navigator μ κ η) (r : Request) :
    ∃ k, Amounts ⟨n, .serving r⟩ (.shown :: List.replicate k .next) n.resume := by
  rcases resumed : n.resumeRefused with _ | ⟨flight, p⟩
  · refine ⟨0, Amounts.cons ?_⟩
    simp only [step, shown, resumed, Navigator.resume]
    exact ⟨rfl, r, rfl⟩
  · obtain ⟨k, amounts⟩ := amounts_proceed r flight p
    refine ⟨k, Amounts.cons ?_⟩
    simp only [step, shown, resumed, Navigator.resume]
    exact amounts

end Calls

end Moment

end Wayfinder
