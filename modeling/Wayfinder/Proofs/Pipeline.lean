/-
What one request does to a navigator.

`takeOff`, `arrive` and the reactions to answers are put together from many small steps, most of
which only write to the log. Here each of them is described once by all that it can lead to, as an
explicit navigator whose outbox holds the same orders and possibly more log records:

* `Arrival`: a URL is put into the history and looked up, and its entry chain starts;
* `Departure`: the page that is shown is left, then there is an arrival;
* `TakeOff`: a request is dropped, stopped because of too many redirects, or departs;
* `ExitReaction`, `EntryReaction`: what follows the answer of a middleware.

Everything that is said elsewhere about navigations goes through these descriptions.
-/
import Mathlib.Tactic.Lemma
import Wayfinder.Navigator.Navigate

namespace Wayfinder

variable {μ κ η : Type}

/-! ### Orders -/

/-- What has to be done outside of a navigator, its log left out. -/
def orders (outbox : List (Effect κ)) : List (Effect κ) :=
  outbox.filter fun e => match e with
    | .log _ => false
    | _ => true

@[simp] lemma orders_nil : orders ([] : List (Effect κ)) = [] := rfl

@[simp] lemma orders_append (a b : List (Effect κ)) : orders (a ++ b) = orders a ++ orders b := by
  simp [orders]

@[simp] lemma orders_log (records : List LogRecord) :
    orders (records.map (Effect.log (κ := κ))) = [] := by
  simp [orders]

@[simp] lemma orders_cons_log (record : LogRecord) (rest : List (Effect κ)) :
    orders (.log record :: rest) = orders rest := rfl

/-- The order to dispose a controller, if there is one. -/
def disposal (controller : Option κ) : List (Effect κ) := (controller.map .dispose).toList

lemma disposal_eq (controller : Option κ) :
    disposal controller = controller.toList.map .dispose := by
  cases controller <;> rfl

/-- Scroll to a target, if there is one. -/
def Viewport.follow (v : Viewport) : Option ScrollPosition → Viewport
  | none => v
  | some p => v.scrollTo p

namespace Navigator

/-! ### Quiet steps -/

/-- A step that does nothing but write to the log. -/
def Quietly (n n' : Navigator μ κ η) : Prop :=
  ∃ outbox, orders outbox = orders n.outbox ∧ n' = { n with outbox }

lemma Quietly.trans {n₁ n₂ n₃ : Navigator μ κ η} (h : Quietly n₁ n₂) (h' : Quietly n₂ n₃) :
    Quietly n₁ n₃ := by
  obtain ⟨_, told, rfl⟩ := h
  obtain ⟨outbox, told', rfl⟩ := h'
  exact ⟨outbox, told'.trans told, rfl⟩

lemma quietly_report (n : Navigator μ κ η) (records : List LogRecord) :
    Quietly n (n.report records) :=
  ⟨_, by simp, rfl⟩

lemma quietly_reportPhase (n : Navigator μ κ η) (phase : Phase) :
    Quietly n (n.reportPhase phase) :=
  quietly_report n _

/-- Discarding a controller gives one order, if there is a controller. -/
lemma discard_eq (n : Navigator μ κ η) (controller : Option κ) :
    n.discard controller = { n with outbox := n.outbox ++ disposal controller } := by
  cases controller <;> simp [discard, tell, disposal]

/-- Scrolling changes nothing but the viewport and what says that it is still to come. -/
lemma quietly_scrollNow (n : Navigator μ κ η) (message : ScrollPosition → String) :
    Quietly { n with
        viewport := n.viewport.follow n.pendingScroll
        pendingScroll := none
        scrollDeferred := false }
      (n.scrollNow message) := by
  unfold scrollNow
  rcases hp : n.pendingScroll with _ | p
  · refine ⟨n.outbox, rfl, ?_⟩
    simp only [Viewport.follow]
  · exact quietly_report _ _

/-- A page whose entry chain has ended is shown, and nothing is in progress any more. -/
def settled (n : Navigator μ κ η) (route : Nat) (context : Context κ) : Navigator μ κ η :=
  let now := !n.scrollDeferred || n.contentReady
  { n with
    active := some { route := some route, context }
    viewport := if now then n.viewport.follow n.pendingScroll else n.viewport
    pendingScroll := if now then none else n.pendingScroll
    scrollDeferred := if now then false else n.scrollDeferred
    activity := .idle }

lemma settle_eq (n : Navigator μ κ η) (route : Nat) (context : Context κ) (outcome : Outcome) :
    ∃ n', Quietly (n.settled route context) n' ∧
      n.settle route context outcome = (n', outcome) := by
  refine ⟨_, ?_, rfl⟩
  refine Quietly.trans ?_ (quietly_reportPhase _ _)
  unfold settled
  by_cases now : (!n.scrollDeferred || n.contentReady) = true
  · obtain ⟨outbox, told, h⟩ := quietly_scrollNow
      { n with active := some { route := some route, context } }
      fun p => "Scrolling to " ++ p.describe
    refine ⟨outbox, told, ?_⟩
    simp only [now, if_true, applyScroll, h]
  · exact ⟨n.outbox, rfl, by simp only [now]; rfl⟩

lemma showNotFound_eq (n : Navigator μ κ η) (url : String) (context : Context κ)
    (target : Option ScrollPosition) :
    ∃ n', Quietly { n with
        active := some { route := none,
                         context := { context with controller := n.handlers.renderNotFound url } }
        viewport := n.viewport.follow target
        pendingScroll := none
        scrollDeferred := false
        activity := .idle } n' ∧
      n.showNotFound url context target = (n', .notFound url) := by
  refine ⟨_, ?_, rfl⟩
  cases target with
  | none => exact ⟨_, by simp [applyScroll, scrollNow, report], rfl⟩
  | some p => exact ⟨_, by simp [applyScroll, scrollNow, report], rfl⟩

variable [Named μ]

lemma runEntry_cons (n : Navigator μ κ η) (flight : Flight) (route : Nat) (context : Context κ)
    (c : μ) (rest : List μ) :
    ∃ n', Quietly { n with activity := .entering flight route context (c :: rest) } n' ∧
      n.runEntry flight route context (c :: rest) = (n', none) :=
  ⟨_, quietly_report _ _, rfl⟩

lemma runEntry_nil (n : Navigator μ κ η) (flight : Flight) (route : Nat) (context : Context κ) :
    ∃ n', Quietly (n.settled route context) n' ∧
      n.runEntry flight route context [] = (n', some (.success flight.request.url)) := by
  obtain ⟨n', ⟨outbox, told, rfl⟩, h⟩ := settle_eq
    ({ n with activity := .entering flight route context [] }.report [.debug
      s!"Entered '{flight.request.url}' via '{n.table.sourceAt route}'"])
    route context (.success flight.request.url)
  refine ⟨_, ⟨outbox, told.trans (by simp [settled, report]), rfl⟩, ?_⟩
  simp only [runEntry, enter]
  exact congrArg (fun p => (p.1, some p.2)) h

/-! ### The queue -/

omit [Named μ] in
lemma quietly_reportServed (n : Navigator μ κ η) (flight : Flight) (outcome : Outcome) :
    Quietly n (n.reportServed flight outcome) := by
  unfold reportServed
  split
  · exact ⟨n.outbox, rfl, rfl⟩
  · exact quietly_report n _

omit [Named μ] in
lemma quietly_dequeue (n : Navigator μ κ η) (next : Request) (rest : List Request) :
    Quietly { n with queue := rest } (n.dequeue next rest) :=
  quietly_report _ _

/-! ### Arriving -/

variable [History η]

/-- The context of a page before its route is known. -/
def freshContext (flight : Flight) (state : HistoryState) : Context κ :=
  { url := flight.request.url, kind := flight.request.kind, cameFrom := flight.cameFrom, state }

/-- What comes of a request once its URL is put into the history. -/
inductive Arrival (n : Navigator μ κ η) (flight : Flight) : Progress μ κ η → Prop
  /-- The URL has no route. -/
  | notFound {history state scroll target table n'}
      (put : commit n.history flight.request = (history, state))
      (aim : n.scrollTarget flight.request state = (scroll, target))
      (found : n.table.resolve flight.request.url = (table, none))
      (quiet : Quietly { n with
          history, scroll, table
          active := some { route := none, context := { (freshContext flight state : Context κ) with
            controller := n.handlers.renderNotFound flight.request.url } }
          viewport := n.viewport.follow target
          pendingScroll := none
          scrollDeferred := false
          activity := .idle } n') :
      Arrival n flight (n', some (.notFound flight.request.url))
  /-- The entry chain has a middleware to run. -/
  | waits {history state scroll target table m c rest n'}
      (put : commit n.history flight.request = (history, state))
      (aim : n.scrollTarget flight.request state = (scroll, target))
      (found : n.table.resolve flight.request.url = (table, some m))
      (chain : table.entryChain m.index = c :: rest)
      (quiet : Quietly { n with
          history, scroll, table
          pendingScroll := target
          scrollDeferred := false
          contentReady := false
          activity := .entering flight m.index (fillIn table (freshContext flight state) m)
            (c :: rest) } n') :
      Arrival n flight (n', none)
  /-- The entry chain is empty. -/
  | entered {history state scroll target table m n'}
      (put : commit n.history flight.request = (history, state))
      (aim : n.scrollTarget flight.request state = (scroll, target))
      (found : n.table.resolve flight.request.url = (table, some m))
      (chain : table.entryChain m.index = [])
      (quiet : Quietly { n with
          history, scroll, table
          active := some { route := some m.index,
                           context := fillIn table (freshContext flight state) m }
          viewport := n.viewport.follow target
          pendingScroll := none
          scrollDeferred := false
          contentReady := false
          activity := .idle } n') :
      Arrival n flight (n', some (.success flight.request.url))

lemma arrival (n : Navigator μ κ η) (flight : Flight) : Arrival n flight (n.arrive flight) := by
  rcases put : commit n.history flight.request with ⟨history, state⟩
  rcases aim : n.scrollTarget flight.request state with ⟨scroll, target⟩
  rcases found : n.table.resolve flight.request.url with ⟨table, _ | m⟩
  all_goals
    have put' : commit (n.reportPhase .matching).history flight.request = (history, state) := put
    have aim' : (n.reportPhase .matching).scrollTarget flight.request state = (scroll, target) :=
      aim
    have found' : (n.reportPhase .matching).table.resolve flight.request.url = (table, _) := found
    simp only [arrive, put', aim', found']
  · obtain ⟨n', ⟨outbox, told, rfl⟩, h⟩ := showNotFound_eq
      ({ n.reportPhase .matching with history, scroll, table }.report
        ((n.reportPhase .matching).table.resolveLog flight.request.url))
      flight.request.url (freshContext flight state) target
    rw [← freshContext, h]
    exact .notFound put aim found ⟨outbox, by simpa [reportPhase, report] using told, rfl⟩
  · -- The records written before the entry chain starts are of no interest: they stay in `b`.
    rw [← freshContext]
    generalize hb : reportPhase _ Phase.entering = b
    rcases chain : table.entryChain m.index with _ | ⟨c, rest⟩
    · obtain ⟨n', ⟨outbox, told, rfl⟩, h⟩ :=
        b.runEntry_nil flight m.index (fillIn table (freshContext flight state) m)
      rw [h]
      subst hb
      exact .entered put aim found chain
        ⟨outbox, by simpa [settled, reportPhase, report] using told, rfl⟩
    · obtain ⟨n', ⟨outbox, told, rfl⟩, h⟩ :=
        b.runEntry_cons flight m.index (fillIn table (freshContext flight state) m) c rest
      rw [h]
      subst hb
      exact .waits put aim found chain
        ⟨outbox, by simpa [reportPhase, report] using told, rfl⟩

/-! ### Departing -/

/-- The page that is shown, as it stands once it is about to be left. -/
def leavingPage (n : Navigator μ κ η) (page : ActivePage κ) : ActivePage κ :=
  { page with context := { page.context with state := n.leftState page.context } }

/-- What comes of a request within the limit of redirects: the page that is shown is left. -/
inductive Departure [Named κ] (n : Navigator μ κ η) (flight : Flight) : Progress μ κ η → Prop
  /-- There is no page. -/
  | fresh {n' p}
      (shown : n.active = none)
      (quiet : Quietly n n')
      (goes : Arrival n' { flight with cameFrom := n.currentUrl? } p) :
      Departure n flight p
  /-- The exit chain has a middleware to run. -/
  | waits {page c rest n'}
      (shown : n.active = some page)
      (chain : n.table.exitChain page.route = c :: rest)
      (quiet : Quietly { n with
          active := none
          scroll := n.scroll.record page.context.url n.viewport.position
          history := n.leftHistory page.context
          activity := .exiting { flight with cameFrom := n.currentUrl? } (n.leavingPage page)
            (Leaving.of page.context) (c :: rest) } n') :
      Departure n flight (n', none)
  /-- The exit chain is empty. -/
  | left {page n' p}
      (shown : n.active = some page)
      (chain : n.table.exitChain page.route = [])
      (quiet : Quietly { n with
          active := none
          scroll := n.scroll.record page.context.url n.viewport.position
          history := n.leftHistory page.context
          activity := .exiting { flight with cameFrom := n.currentUrl? } (n.leavingPage page)
            (Leaving.of page.context) []
          outbox := n.outbox ++ disposal page.context.controller } n')
      (goes : Arrival n' { flight with cameFrom := n.currentUrl? } p) :
      Departure n flight p

lemma runExit_cons (n : Navigator μ κ η) (flight : Flight) (page : ActivePage κ)
    (leaving : Leaving) (c : μ) (rest : List μ) :
    ∃ n', Quietly { n with activity := .exiting flight page leaving (c :: rest) } n' ∧
      n.runExit flight page leaving (c :: rest) = (n', none) :=
  ⟨_, quietly_report _ _, rfl⟩

lemma runExit_nil (n : Navigator μ κ η) (flight : Flight) (page : ActivePage κ)
    (leaving : Leaving) :
    ∃ n', Quietly { n with
        activity := .exiting flight page leaving []
        outbox := n.outbox ++ disposal page.context.controller } n' ∧
      Arrival n' flight (n.runExit flight page leaving []) := by
  refine ⟨_, ?_, arrival _ flight⟩
  rw [discard_eq]
  exact ⟨_, by simp [reportSettled, report], rfl⟩

omit [Named μ] in
/-- Capturing the scroll position of a page writes it to all the places that keep it. -/
lemma captureScroll_eq (n : Navigator μ κ η) (context : Context κ) :
    ∃ n', Quietly { n with
        scroll := n.scroll.record context.url n.viewport.position
        history := n.leftHistory context } n' ∧
      n.captureScroll context = (n', { context with state := n.leftState context }) :=
  ⟨_, quietly_report _ _, rfl⟩

lemma departure [Named κ] (n : Navigator μ κ η) (flight : Flight) :
    Departure n flight (n.depart flight) := by
  unfold depart
  dsimp only
  generalize hb : (n.reportPhase .exiting).report _ = b
  have quiet : Quietly n b := by
    subst hb
    exact (quietly_reportPhase n _).trans (quietly_report _ _)
  obtain ⟨outbox, told, rfl⟩ := quiet
  split
  case h_1 shown => exact .fresh shown ⟨outbox, told, rfl⟩ (arrival _ _)
  case h_2 page shown =>
    obtain ⟨b, ⟨outbox', told', rfl⟩, captured⟩ :=
      captureScroll_eq { n with active := none, outbox } page.context
    replace told' : orders outbox' = orders n.outbox := told'.trans told
    simp only [captured]
    clear captured told
    -- An empty exit chain is over at once, so there is an arrival already.
    generalize hm : n.table.exitChain page.route = middlewares
    rcases middlewares with _ | ⟨m, rest⟩
    · obtain ⟨n', ⟨outbox, told, rfl⟩, goes⟩ := runExit_nil (μ := μ)
        { n with
          active := none
          scroll := n.scroll.record page.context.url n.viewport.position
          history := n.leftHistory page.context
          outbox := outbox' }
        { flight with cameFrom := n.currentUrl? } (n.leavingPage page) (Leaving.of page.context)
      replace told : orders outbox = orders (n.outbox ++ disposal page.context.controller) := by
        rw [told, orders_append, told', ← orders_append]
        rfl
      exact .left shown hm ⟨outbox, told, rfl⟩ goes
    · obtain ⟨n', ⟨outbox, told, rfl⟩, goes⟩ := runExit_cons
        { n with
          active := none
          scroll := n.scroll.record page.context.url n.viewport.position
          history := n.leftHistory page.context
          outbox := outbox' }
        { flight with cameFrom := n.currentUrl? } (n.leavingPage page) (Leaving.of page.context)
        m rest
      replace told : orders outbox = orders n.outbox := Eq.trans told told'
      erw [goes]
      exact .waits shown hm ⟨outbox, told, rfl⟩

/-! ### Taking off -/

/-- A request with the URL it leads to: that of a traversal is looked up in the history. -/
def located? (n : Navigator μ κ η) (r : Request) : Option Request :=
  match r.kind.offset? with
  | none => some r
  | some offset => (History.peek? n.history offset).map fun entry => { r with url := entry.url }

/-- What comes of a request that is taken up. -/
inductive TakeOff [Named κ] (n : Navigator μ κ η) (flight : Flight) : Progress μ κ η → Prop
  /-- A traversal has nowhere to go. -/
  | dropped {n'}
      (target : n.located? flight.request = none)
      (quiet : Quietly { n with activity := .idle } n') :
      TakeOff n flight (n', some (.blocked "No history entry to go to" none))
  /-- Too many redirects have led to the request. -/
  | looped {r n'}
      (target : n.located? flight.request = some r)
      (exceeds : n.config.maxRedirects < r.redirects)
      (quiet : Quietly { n with activity := .idle } n') :
      TakeOff n flight (n', some (.failed (.redirectLoop n.config.maxRedirects r.url)))
  /-- The request goes on. -/
  | departs {r p}
      (target : n.located? flight.request = some r)
      (within : r.redirects ≤ n.config.maxRedirects)
      (goes : Departure n { flight with request := r } p) :
      TakeOff n flight p

lemma takeOff_of_located [Named κ] {n : Navigator μ κ η} {flight : Flight} {r : Request}
    (target : n.located? flight.request = some r) :
    TakeOff n flight (n.checkRedirects { flight with request := r }) := by
  unfold checkRedirects
  by_cases exceeds : n.config.maxRedirects < r.redirects
  · simp only [exceeds, if_true, report, finish, reportPhase]
    exact .looped target exceeds ⟨_, by simp, rfl⟩
  · simp only [exceeds, if_false]
    exact .departs target (Nat.le_of_not_lt exceeds) (departure _ _)

lemma takeOff_eq [Named κ] (n : Navigator μ κ η) (flight : Flight) :
    TakeOff n flight (n.takeOff flight) := by
  unfold takeOff
  rcases kind : flight.request.kind.offset? with _ | offset
  · exact takeOff_of_located (by simp [located?, kind])
  · rcases entry : History.peek? n.history offset with _ | entry
    · simp only [entry, report, finish, reportPhase]
      exact .dropped (by simp [located?, kind, entry]) ⟨_, by simp, rfl⟩
    · simp only [entry]
      exact takeOff_of_located (by simp [located?, kind, entry])

/-! ### Reacting -/

/-- What follows the answer of an exit middleware, with those that come after it. -/
inductive ExitReaction (n : Navigator μ κ η) (flight : Flight) (page : ActivePage κ)
    (leaving : Leaving) : List μ → Action → Progress μ κ η → Prop
  /-- The next middleware runs. -/
  | next {c rest n'}
      (quiet : Quietly { n with activity := .exiting flight page leaving (c :: rest) } n') :
      ExitReaction n flight page leaving (c :: rest) .proceed (n', none)
  /-- The page is left. -/
  | left {n' p}
      (quiet : Quietly { n with
          activity := .exiting flight page leaving []
          outbox := n.outbox ++ disposal page.context.controller } n')
      (goes : Arrival n' flight p) :
      ExitReaction n flight page leaving [] .proceed p
  /-- The page is kept. -/
  | denied {rest reason n'}
      (quiet : Quietly { n with active := some page, activity := .idle } n') :
      ExitReaction n flight page leaving rest (.deny reason) (n', some (.blocked reason none))
  /-- The page is kept, and another request is to follow. -/
  | redirected {rest target reason n'}
      (quiet : Quietly { n with
          active := some page
          queue := flight.request.redirected target .push :: n.queue
          activity := .idle } n') :
      ExitReaction n flight page leaving rest (.redirect target reason)
        (n', some (.blocked (reason.getD "Redirected") (some target)))

lemma exitReaction (n : Navigator μ κ η) (flight : Flight) (page : ActivePage κ)
    (leaving : Leaving) (rest : List μ) (action : Action) :
    ExitReaction n flight page leaving rest action
      (n.reactExit flight page leaving rest action) := by
  cases action with
  | proceed =>
    rcases rest with _ | ⟨c, rest⟩
    · obtain ⟨n', quiet, goes⟩ := n.runExit_nil flight page leaving
      exact .left quiet goes
    · obtain ⟨n', quiet, h⟩ := n.runExit_cons flight page leaving c rest
      rw [reactExit, h]
      exact .next quiet
  | deny reason =>
    exact .denied ⟨_, by simp [reportSettled, report], rfl⟩
  | redirect target reason =>
    exact .redirected ⟨_, by simp [reportSettled, report], rfl⟩

/-- What follows the answer of an entry middleware, with those that come after it. -/
inductive EntryReaction [Named κ] (n : Navigator μ κ η) (flight : Flight) (route : Nat)
    (context : Context κ) : List μ → Action → Progress μ κ η → Prop
  /-- The next middleware runs. -/
  | next {c rest n'}
      (quiet : Quietly { n with activity := .entering flight route context (c :: rest) } n') :
      EntryReaction n flight route context (c :: rest) .proceed (n', none)
  /-- The page is shown. -/
  | entered {n'}
      (quiet : Quietly (n.settled route context) n') :
      EntryReaction n flight route context [] .proceed
        (n', some (.success flight.request.url))
  /-- A controller is to show why entry is refused. -/
  | refused {rest reason controller n'}
      (shows : context.controller.or (n.handlers.renderError (.refused reason)) = some controller)
      (quiet : Quietly { n with
          activity := .refused flight route { context with controller := some controller } reason
          outbox := n.outbox ++ [.showError controller reason] } n') :
      EntryReaction n flight route context rest (.deny reason) (n', none)
  /-- Nothing can show why entry is refused. -/
  | denied {rest reason n'}
      (shows : context.controller.or (n.handlers.renderError (.refused reason)) = none)
      (quiet : Quietly (n.settled route context) n') :
      EntryReaction n flight route context rest (.deny reason) (n', some (.blocked reason none))
  /-- The page is given up for another one. -/
  | followed {rest target reason n' p}
      (quiet : Quietly { n with
          pendingScroll := none
          outbox := n.outbox ++ disposal context.controller } n')
      (goes : TakeOff n' { flight with request := flight.request.redirected target .replace } p) :
      EntryReaction n flight route context rest (.redirect target reason) p

lemma entryReaction [Named κ] (n : Navigator μ κ η) (flight : Flight) (route : Nat)
    (context : Context κ) (rest : List μ) (action : Action) :
    EntryReaction n flight route context rest action
      (n.reactEntry flight route context rest action) := by
  cases action with
  | proceed =>
    rcases rest with _ | ⟨c, rest⟩
    · obtain ⟨n', quiet, h⟩ := n.runEntry_nil flight route context
      rw [reactEntry, h]
      exact .entered quiet
    · obtain ⟨n', quiet, h⟩ := n.runEntry_cons flight route context c rest
      rw [reactEntry, h]
      exact .next quiet
  | deny reason =>
    simp only [reactEntry, refuse, Option.orElse_eq_or]
    generalize hb : n.report _ = b
    have quiet : Quietly n b := by
      subst hb
      exact quietly_report _ _
    obtain ⟨outbox, told, rfl⟩ := quiet
    rcases shows : context.controller.or (n.handlers.renderError (.refused reason)) with _ | c
    · obtain ⟨bare, -⟩ := Option.or_eq_none_iff.mp shows
      obtain ⟨n', ⟨outbox', told', rfl⟩, h⟩ :=
        settle_eq { n with outbox } route { context with controller := none } (.blocked reason none)
      simp only [h]
      refine .denied shows ⟨outbox', told'.trans told, ?_⟩
      rw [← bare]
      rfl
    · exact .refused shows ⟨_, by simp [told], rfl⟩
  | redirect target reason =>
    simp only [reactEntry, follow, discard_eq, report]
    exact .followed ⟨_, by simp, rfl⟩ (takeOff_eq _ _)

/-! ### Answers -/

omit [Named μ] in
lemma ExitReaction.of_quietly {n n' : Navigator μ κ η} {flight : Flight} {page : ActivePage κ}
    {leaving : Leaving} {rest : List μ} {action : Action} {p : Progress μ κ η}
    (h : Quietly n n') (goes : n'.ExitReaction flight page leaving rest action p) :
    n.ExitReaction flight page leaving rest action p := by
  obtain ⟨_, told, rfl⟩ := h
  cases goes with
  | next quiet =>
    obtain ⟨outbox, told', rfl⟩ := quiet
    exact .next ⟨outbox, told'.trans told, rfl⟩
  | left quiet goes =>
    obtain ⟨outbox, told', rfl⟩ := quiet
    exact .left ⟨outbox, told'.trans (by simp [told]), rfl⟩ goes
  | denied quiet =>
    obtain ⟨outbox, told', rfl⟩ := quiet
    exact .denied ⟨outbox, told'.trans told, rfl⟩
  | redirected quiet =>
    obtain ⟨outbox, told', rfl⟩ := quiet
    exact .redirected ⟨outbox, told'.trans told, rfl⟩

omit [Named μ] in
lemma EntryReaction.of_quietly [Named κ] {n n' : Navigator μ κ η} {flight : Flight} {route : Nat}
    {context : Context κ} {rest : List μ} {action : Action} {p : Progress μ κ η}
    (h : Quietly n n') (goes : n'.EntryReaction flight route context rest action p) :
    n.EntryReaction flight route context rest action p := by
  obtain ⟨_, told, rfl⟩ := h
  cases goes with
  | next quiet =>
    obtain ⟨outbox, told', rfl⟩ := quiet
    exact .next ⟨outbox, told'.trans told, rfl⟩
  | entered quiet =>
    obtain ⟨outbox, told', rfl⟩ := quiet
    exact .entered ⟨outbox, told'.trans told, rfl⟩
  | refused shows quiet =>
    obtain ⟨outbox, told', rfl⟩ := quiet
    exact .refused shows ⟨outbox, told'.trans (by simp [told]), rfl⟩
  | denied shows quiet =>
    obtain ⟨outbox, told', rfl⟩ := quiet
    exact .denied shows ⟨outbox, told'.trans told, rfl⟩
  | followed quiet goes =>
    obtain ⟨outbox, told', rfl⟩ := quiet
    exact .followed ⟨outbox, told'.trans (by simp [told]), rfl⟩ goes

omit [History η] in
lemma quietly_reportStop (n : Navigator μ κ η) (stage : String) (m : μ) (action : Action) :
    Quietly n (n.reportStop stage m action) := by
  unfold reportStop
  split
  · exact ⟨n.outbox, rfl, rfl⟩
  · exact quietly_report n _

lemma react_exiting [Named κ] {n : Navigator μ κ η} {flight : Flight} {page : ActivePage κ}
    {leaving : Leaving} {m : μ} {rest : List μ}
    (doing : n.activity = .exiting flight page leaving (m :: rest)) (action : Action) :
    ∃ p, n.react action = some (flight, p) ∧ n.ExitReaction flight page leaving rest action p := by
  refine ⟨(n.reportStop "exit" m action).reactExit flight page leaving rest action,
    by simp only [react, doing], ?_⟩
  exact (exitReaction _ flight page leaving rest action).of_quietly
    (quietly_reportStop n _ m action)

lemma react_entering [Named κ] {n : Navigator μ κ η} {flight : Flight} {route : Nat}
    {context : Context κ} {m : μ} {rest : List μ}
    (doing : n.activity = .entering flight route context (m :: rest)) (action : Action) :
    ∃ p, n.react action = some (flight, p) ∧
      n.EntryReaction flight route context rest action p := by
  refine ⟨(n.reportStop "entry" m action).reactEntry flight route context rest action,
    by simp only [react, doing], ?_⟩
  exact (entryReaction _ flight route context rest action).of_quietly
    (quietly_reportStop n _ m action)

omit [Named μ] [History η] in
lemma resumeRefused_eq {n : Navigator μ κ η} {flight : Flight} {route : Nat} {context : Context κ}
    {reason : String} (doing : n.activity = .refused flight route context reason) :
    ∃ n', Quietly (n.settled route context) n' ∧
      n.resumeRefused = some (flight, (n', some (.blocked reason none))) := by
  obtain ⟨n', quiet, h⟩ := settle_eq n route context (.blocked reason none)
  exact ⟨n', quiet, by simp only [resumeRefused, doing, h]⟩

end Navigator

end Wayfinder
