/-
Back and forward restore what a page was left with.

The history in memory agrees with the keepsakes of a run at every moment (`Recalls`): the entry of
the page that is shown is the current one, it gets what the page has at the moment when the page is
about to be left, and every other entry keeps what it has got. So a traversal that reaches an entry
hands just that to the context of its page and to the scrolling, whatever the scroll store has
forgotten, whichever entries share a URL, and however often the page could not be left
(`traversal_restores`).
-/
import Wayfinder.Proofs.Course
import Wayfinder.Proofs.Keepsakes

namespace Wayfinder

variable {μ κ η : Type}

/-! ### Arrivals -/

/-- A page has its context: it is given to the entry chain, or the page is shown since there is no
chain to run. `target` is where to scroll; a page that is shown has been scrolled there. -/
inductive Navigator.Given (v : Viewport) (n : Navigator μ κ η) (context : Context κ)
    (target : Option ScrollPosition) : Prop
  /-- The entry chain begins. -/
  | waits {flight route middlewares}
      (doing : n.activity = .entering flight route context middlewares)
      (chain : n.table.entryChain route = middlewares) (scroll : n.pendingScroll = target) :
      Given v n context target
  /-- The page is shown. -/
  | shown {route} (shown : n.active = some { route, context })
      (scroll : n.viewport = v.follow target) : Given v n context target

lemma Navigator.Given.quietly {v : Viewport} {n n' : Navigator μ κ η} {context : Context κ}
    {target : Option ScrollPosition} (given : n.Given v context target) (quiet : Quietly n n') :
    n'.Given v context target := by
  obtain ⟨_, -, rfl⟩ := quiet
  cases given with
  | waits doing chain scroll => exact .waits doing chain scroll
  | shown shown scroll => exact .shown shown scroll

/-- The context of an arrival has the state that the history gives it. -/
lemma Navigator.Arrival.given [History η] {n : Navigator μ κ η} {flight : Flight}
    {p : Progress μ κ η} (goes : n.Arrival flight p) :
    ∃ context target, p.1.Given n.viewport context target ∧
      context.url = flight.request.url ∧ context.kind = flight.request.kind ∧
      context.state = (commit n.history flight.request).2 ∧
      target = (n.scrollTarget flight.request (commit n.history flight.request).2).2 := by
  cases goes with
  | notFound put aim found quiet =>
    refine ⟨_, _, Given.quietly (.shown rfl rfl) quiet, rfl, rfl, ?_, ?_⟩
    · rw [put]
      rfl
    · rw [put, aim]
  | waits put aim found chain quiet =>
    refine ⟨_, _, Given.quietly (.waits rfl chain rfl) quiet, rfl, rfl, ?_, ?_⟩
    · rw [put]
      rfl
    · rw [put, aim]
  | entered put aim found chain quiet =>
    refine ⟨_, _, Given.quietly (.shown rfl rfl) quiet, rfl, rfl, ?_, ?_⟩
    · rw [put]
      rfl
    · rw [put, aim]

/-- A traversal to an entry that keeps an offset scrolls there. The scroll store is not asked for
anything better. -/
lemma Navigator.scrollTarget_of_scroll {n : Navigator μ κ η} {r : Request} {state : HistoryState}
    {offset : ScrollPosition} (traverses : r.kind.isTraversal) (kept : state.scroll = some offset)
    (restores : n.config.restoreScroll) : (n.scrollTarget r state).2 = some offset := by
  simp [scrollTarget, restores, traverses, kept]

/-! ### Runs agree with their keepsakes -/

/-- While no chain runs the history agrees with the keepsakes. The page that is shown is that of the
current entry, whose keepsake it will renew. -/
def Rests (k : Keepsakes) (n : Navigator μ κ MemoryHistory) : Prop :=
  match n.active with
  | none => Agrees k.entries n.history
  | some page => n.currentUrl? = some page.context.url ∧
      Agrees (k.entries.set k.position none) n.history

/-- How the keepsakes of a run fit to what goes on at a moment. -/
inductive Recalling (k : Keepsakes) : Moment μ κ MemoryHistory → Prop
  /-- Nothing is in progress. -/
  | resting {n stage} (idle : n.activity = .idle) (rests : Rests k n) : Recalling k ⟨n, stage⟩
  /-- A page is being left, and its entry has already got what the page had. -/
  | leaving {n r flight page leaving middlewares}
      (doing : n.activity = .exiting flight page leaving middlewares)
      (turn : flight.request.kind = r.kind) (here : n.currentUrl? = some page.context.url)
      (kind : k.kind = flight.request.kind) (aimed : Aimed n.history flight.request)
      (agrees : Agrees k.filed n.history) : Recalling k ⟨n, .serving r⟩
  /-- A route is being entered. -/
  | entering {n r flight route context middlewares}
      (doing : n.activity = .entering flight route context middlewares)
      (here : n.currentUrl? = some context.url) (left : k.leaving = none) (kind : k.kind = .replace)
      (agrees : Agrees k.entries n.history) : Recalling k ⟨n, .serving r⟩
  /-- The reason is being shown why a route may not be entered. -/
  | refused {n r flight route context reason}
      (doing : n.activity = .refused flight route context reason)
      (here : n.currentUrl? = some context.url) (agrees : Agrees k.entries n.history) :
      Recalling k ⟨n, .serving r⟩

/-- The keepsakes of a run fit to what goes on at a moment, and their position is that of the
history. -/
def Recalls (k : Keepsakes) (m : Moment μ κ MemoryHistory) : Prop :=
  k.position = m.navigator.history.position ∧ Recalling k m

/-- A traversal that has arrived at an entry gives the context of its page what the keepsake of the
entry says, and scrolls there if it is to scroll at all. The navigator was `n` before. -/
def Restores (k : Keepsakes) (n : Navigator μ κ MemoryHistory) (kind : Kind)
    (n' : Navigator μ κ MemoryHistory) : Prop :=
  kind.isTraversal → ∀ kept, k.current? = some kept →
    ∃ context target, n'.Given n.viewport context target ∧
      n'.currentUrl? = some context.url ∧ context.kind = kind ∧
      context.state.extra = kept.extra ∧ context.state.scroll = some kept.offset ∧
      (n.config.restoreScroll → target = some kept.offset)

section

variable {k : Keepsakes} {r : Request} {n : Navigator μ κ MemoryHistory} {flight : Flight}
  {p : Navigator.Progress μ κ MemoryHistory}

/-- What comes of a request that has been put into the history. -/
lemma Navigator.Arrival.recalls (goes : n.Arrival flight p)
    (position : k.position = n.history.position) (agrees : Agrees k.filed n.history)
    (kind : k.kind = flight.request.kind) (aimed : Aimed n.history flight.request) (r : Request) :
    Recalls k.commit ⟨p.1, .serving r⟩ ∧ Restores k.commit n flight.request.kind p.1 := by
  obtain ⟨agrees', position', state⟩ := Keepsakes.follows position agrees kind aimed
  obtain ⟨history, -, -⟩ := goes.history_eq
  have here : p.1.currentUrl? = some flight.request.url := by
    rw [currentUrl?, history]
    exact aimed.current_commit
  refine ⟨⟨position'.trans (congrArg (·.position) history.symm), ?_⟩, ?_⟩
  · rw [← history] at agrees'
    cases goes with
    | notFound put aim found quiet =>
      obtain ⟨_, _, rfl⟩ := quiet
      exact .resting rfl ⟨here, agrees'.forget _⟩
    | waits put aim found chain quiet =>
      obtain ⟨_, _, rfl⟩ := quiet
      exact .entering rfl here k.commit_leaving k.commit_kind agrees'
    | entered put aim found chain quiet =>
      obtain ⟨_, _, rfl⟩ := quiet
      exact .resting rfl ⟨here, agrees'.forget _⟩
  · intro traverses kept found
    obtain ⟨context, target, given, url, same, given_state, aim⟩ := goes.given
    have kept_state : context.state = kept.state := given_state.trans (state traverses kept found)
    refine ⟨context, target, given, by rw [here, url], same, ?_, ?_, fun restores => ?_⟩
    · rw [kept_state]
      rfl
    · rw [kept_state]
      rfl
    · rw [aim, ← given_state]
      exact scrollTarget_of_scroll traverses (by rw [kept_state]; rfl) restores

lemma Rests.of_shown {page : ActivePage κ} (rests : Rests k n) (shown : n.active = some page) :
    n.currentUrl? = some page.context.url ∧ Agrees (k.entries.set k.position none) n.history := by
  simpa only [Rests, shown] using rests

lemma Rests.congr {n' : Navigator μ κ MemoryHistory} (rests : Rests k n)
    (active : n'.active = n.active) (history : n'.history = n.history) : Rests k n' := by
  simpa only [Rests, Navigator.currentUrl?, active, history] using rests

/-- What a page has goes into its entry when it is about to be left. -/
lemma agrees_leftHistory {page : ActivePage κ} (shown : n.active = some page)
    (position : k.position = n.history.position) (rests : Rests k n) (kind : Kind) :
    Agrees { k with leaving := n.keepsake?, kind }.filed (n.leftHistory page.context) := by
  obtain ⟨here, agrees⟩ := rests.of_shown shown
  obtain ⟨entry, current, same⟩ := Option.map_eq_some_iff.mp here
  rw [Navigator.leftHistory, if_pos here, ← same]
  simp only [Keepsakes.filed, Navigator.keepsake?, shown]
  exact agrees.leave position current
    { extra := page.context.state.extra, offset := n.viewport.position }

/-- What comes of a request whose turn it is. -/
lemma Navigator.TakeOff.recalls [Named κ] (goes : n.TakeOff flight p)
    (position : k.position = n.history.position) (rests : Rests k n)
    (turn : n.active = none ∨ flight.request.kind = r.kind) (n₀ : Navigator μ κ MemoryHistory)
    (a : Act κ) :
    let k₁ := { k with leaving := n.keepsake?, kind := flight.request.kind }
    let k₂ := (landed p).foldl (Keepsakes.note n₀ a) k₁
    Recalls k₂ ⟨p.1, .serving r⟩ ∧
      (landed p ≠ [] → Restores k₂ n flight.request.kind p.1) := by
  intro k₁
  cases goes with
  | dropped target quiet
  | looped target exceeds quiet =>
    obtain ⟨_, _, rfl⟩ := quiet
    exact ⟨⟨position, .resting rfl rests⟩, fun some => absurd rfl some⟩
  | @departs hop _ target within goes =>
    obtain ⟨same, aim⟩ := Navigator.aim_of_located target
    have aimed : Aimed n.history hop := fun offset way =>
      Option.map_eq_some_iff.mp (aim offset (same ▸ way))
    cases goes with
    | fresh bare quiet goes =>
      obtain ⟨_, _, rfl⟩ := quiet
      have none : k₁.leaving = none := by simp only [k₁, keepsake?, bare, Option.map_none]
      have agrees : Agrees k₁.filed n.history := by
        simpa only [Keepsakes.filed, none, Rests, bare] using rests
      obtain ⟨-, landed, -⟩ := goes.history_eq
      obtain ⟨recalls, restores⟩ := goes.recalls (k := k₁) position agrees same.symm aimed r
      rw [landed]
      exact ⟨recalls, fun _ => same ▸ restores⟩
    | @waits page c rest n' shown chain quiet =>
      obtain ⟨_, _, rfl⟩ := quiet
      obtain ⟨-, urls, moved⟩ := n.listed_leftHistory page.context
      obtain ⟨here, -⟩ := rests.of_shown shown
      have agrees := agrees_leftHistory shown position rests flight.request.kind
      refine ⟨⟨position.trans moved.symm, ?_⟩, fun some => absurd rfl some⟩
      have turn : hop.kind = r.kind := by
        rcases turn with bare | turn
        · cases bare.symm.trans shown
        · exact same.trans turn
      refine .leaving rfl turn ?_ same.symm (aimed.congr urls moved) agrees
      exact (MemoryHistory.current?_congr urls moved).trans here
    | @left page n' _ shown chain quiet goes =>
      obtain ⟨_, _, rfl⟩ := quiet
      obtain ⟨-, urls, moved⟩ := n.listed_leftHistory page.context
      obtain ⟨-, landed, -⟩ := goes.history_eq
      have agrees := agrees_leftHistory shown position rests flight.request.kind
      obtain ⟨recalls, restores⟩ := goes.recalls (k := k₁) (position.trans moved.symm) agrees
        same.symm (aimed.congr urls moved) r
      rw [landed]
      exact ⟨recalls, fun _ => same ▸ restores⟩

/-- The answer of an exit middleware. -/
lemma Navigator.ExitReaction.recalls {page : ActivePage κ} {leaving : Leaving} {rest : List μ}
    {action : Action} (goes : n.ExitReaction flight page leaving rest action p)
    (position : k.position = n.history.position)
    (turn : flight.request.kind = r.kind) (here : n.currentUrl? = some page.context.url)
    (kind : k.kind = flight.request.kind) (aimed : Aimed n.history flight.request)
    (agrees : Agrees k.filed n.history) (x : μ) (n₀ : Navigator μ κ MemoryHistory) (a : Act κ) :
    let k' := (answerEvents .exit flight.request x action p).foldl (Keepsakes.note n₀ a) k
    Recalls k' ⟨p.1, .serving r⟩ ∧
      (committedIn (answerEvents .exit flight.request x action p) ≠ [] →
        Restores k' n flight.request.kind p.1) := by
  intro k'
  have forgotten : Agrees (k.entries.set k.position none) n.history := by
    rw [← k.filed_set]
    exact agrees.forget _
  cases goes with
  | next quiet =>
    obtain ⟨_, _, rfl⟩ := quiet
    exact ⟨⟨position, .leaving rfl turn here kind aimed agrees⟩, fun some => absurd rfl some⟩
  | left quiet goes =>
    obtain ⟨_, _, rfl⟩ := quiet
    obtain ⟨-, landed, -⟩ := goes.history_eq
    obtain ⟨recalls, restores⟩ := goes.recalls (k := k) position agrees kind aimed r
    simp only [k', answerEvents, landed]
    exact ⟨recalls, fun _ => restores⟩
  | denied quiet
  | redirected quiet =>
    obtain ⟨_, _, rfl⟩ := quiet
    exact ⟨⟨position, .resting rfl ⟨here, forgotten⟩⟩, fun some => absurd rfl some⟩

/-- A page whose entry chain has ended is that of the current entry. -/
lemma recalls_settled {n' : Navigator μ κ MemoryHistory} {route : Nat} {context : Context κ}
    {stage : Stage} (quiet : Navigator.Quietly (n.settled route context) n')
    (position : k.position = n.history.position) (here : n.currentUrl? = some context.url)
    (agrees : Agrees k.entries n.history) : Recalls k ⟨n', stage⟩ := by
  obtain ⟨_, _, rfl⟩ := quiet
  exact ⟨position, .resting rfl ⟨here, agrees.forget _⟩⟩

/-- The answer of an entry middleware. -/
lemma Navigator.EntryReaction.recalls [Named κ] {route : Nat} {context : Context κ} {rest : List μ}
    {action : Action} (goes : n.EntryReaction flight route context rest action p)
    (position : k.position = n.history.position) (bare : n.active = none)
    (here : n.currentUrl? = some context.url) (left : k.leaving = none) (kind : k.kind = .replace)
    (agrees : Agrees k.entries n.history) (r : Request) (x : μ) (n₀ : Navigator μ κ MemoryHistory)
    (a : Act κ) :
    Recalls ((answerEvents .entry flight.request x action p).foldl (Keepsakes.note n₀ a) k)
      ⟨p.1, .serving r⟩ := by
  cases goes with
  | next quiet =>
    obtain ⟨_, _, rfl⟩ := quiet
    exact ⟨position, .entering rfl here left kind agrees⟩
  | entered quiet => exact recalls_settled quiet position here agrees
  | refused shows quiet =>
    obtain ⟨_, _, rfl⟩ := quiet
    exact ⟨position, .refused rfl here agrees⟩
  | denied shows quiet => exact recalls_settled quiet position here agrees
  | @followed _ target reason _ _ quiet goes =>
    obtain ⟨outbox, told, rfl⟩ := quiet
    -- No page is shown, so the redirect is a turn of its own that overwrites the entry.
    have rests : Rests k { n with pendingScroll := none, outbox } := by
      simpa only [Rests, bare] using agrees
    have same : { k with leaving := none, kind := .replace } = k := by
      rw [← left, ← kind]
    have recalls := (goes.recalls (r := r) position rests (.inl bare) n₀ a).1
    simp only [keepsake?, bare, Option.map_none, Request.redirected, same] at recalls
    exact recalls

/-! ### Touches and changes of the address -/

/-- Whether an act leaves the URLs of contexts alone. -/
def Act.OwnUrl : Act κ → Prop
  | touch (.edit f) => ∀ c, (f c).url = c.url
  | _ => True

/-- What a touch does to the context that a chain runs on. -/
def Touch.change : Touch κ → Context κ → Context κ
  | edit f => f
  | attach controller => fun c => (c.attach controller).1
  | _ => fun c => c

/-- That is all it does to what is going on. -/
lemma Touch.activity_apply (n : Navigator μ κ η) (t : Touch κ) :
    (t.apply n).activity = n.activity.edit t.change := by
  have still {n' : Navigator μ κ η} (same : n'.activity = n.activity) :
      n'.activity = n.activity.edit fun c => c := by rw [same, Activity.edit_id]
  cases t with
  | edit f => rfl
  | attach c =>
    simp only [apply, Navigator.attach, Navigator.discard_eq]
    rfl
  | takeController =>
    refine still ?_
    simp only [apply, Navigator.takeController]
    split
    · rfl
    · split <;> rfl
  | returnController c =>
    refine still ?_
    simp only [apply, Navigator.returnController]
    split
    · split <;> rfl
    · rfl
  | deferScroll =>
    refine still ?_
    simp only [apply, Navigator.deferScroll]
    split <;> rfl
  | contentRendered =>
    refine still ?_
    simp only [apply, Navigator.contentRendered]
    split
    · rfl
    · obtain ⟨_, -, h⟩ :=
        n.quietly_scrollNow fun p => "Restoring scroll to " ++ p.describe ++ " after render"
      rw [h]
  | view viewport => exact still rfl

/-- Such a touch leaves the URL of every context as it is. -/
lemma Touch.activity_eq {n : Navigator μ κ η} {t : Touch κ} (own : (Act.touch t).OwnUrl) :
    ∃ f : Context κ → Context κ, (∀ c, (f c).url = c.url) ∧
      (t.apply n).activity = n.activity.edit f := by
  refine ⟨t.change, fun c => ?_, t.activity_apply n⟩
  cases t with
  | edit f => exact own c
  | _ => rfl

/-- No touch changes what the keepsakes are about. -/
lemma Recalls.touch {m : Moment μ κ MemoryHistory} (recalls : Recalls k m) {t : Touch κ}
    (own : (Act.touch t).OwnUrl) : Recalls k { m with navigator := t.apply m.navigator } := by
  obtain ⟨position, recalling⟩ := recalls
  have touched := t.touched m.navigator
  obtain ⟨f, keeps, activity⟩ := Touch.activity_eq (n := m.navigator) own
  refine ⟨position.trans (congrArg (·.position) touched.history.symm), ?_⟩
  cases recalling with
  | @resting n stage idle rests =>
    refine .resting (touched.activity_eq_idle idle) ?_
    obtain ⟨hold, active⟩ := touched.active
    dsimp only at active rests ⊢
    rcases shown : n.active with _ | page
    · rw [shown] at active
      simp only [Rests, shown, active, Option.map_none] at rests ⊢
      rw [touched.history]
      exact rests
    · rw [shown] at active
      simp only [Rests, shown, active, Option.map_some] at rests ⊢
      rw [Navigator.currentUrl?, touched.history]
      exact rests
  | @leaving n r flight page leaving middlewares doing turn here kind aimed agrees =>
    rw [doing] at activity
    refine .leaving activity turn ?_ kind ?_ ?_
    · rw [Navigator.currentUrl?, touched.history]
      exact here.trans (congrArg some (keeps _).symm)
    · rw [touched.history]
      exact aimed
    · rw [touched.history]
      exact agrees
  | @entering n r flight route context middlewares doing here left kind agrees =>
    rw [doing] at activity
    refine .entering activity ?_ left kind ?_
    · rw [Navigator.currentUrl?, touched.history]
      exact here.trans (congrArg some (keeps _).symm)
    · rw [touched.history]
      exact agrees
  | @refused n r flight route context reason doing here agrees =>
    rw [doing] at activity
    refine .refused activity ?_ ?_
    · rw [Navigator.currentUrl?, touched.history]
      exact here
    · rw [touched.history]
      exact agrees

/-- What a change of the address does to the history. -/
lemma Navigator.inPlace_cases (idle : n.activity = .idle) (push : Bool) (url : String) :
    (∃ reason target, (n.inPlace push url).2 = .blocked reason target ∧
      (n.inPlace push url).1.active = n.active ∧ (n.inPlace push url).1.history = n.history) ∨
    ∃ page context, n.active = some page ∧ (n.inPlace push url).2 = .success url ∧
      (n.inPlace push url).1.active = some { page with context } ∧ context.url = url ∧
      (n.inPlace push url).1.history =
        if push then
          (n.history.replace
            { url := page.context.url, state := n.leftState page.context }).push { url }
        else n.history.replace { url } := by
  have free : n.phase = .idle := by rw [phase, idle]; rfl
  unfold inPlace
  rw [if_pos free]
  rcases shown : n.active with _ | page
  · exact .inl ⟨_, _, rfl, shown, rfl⟩
  · rcases resolved : n.table.resolve url with ⟨table, found⟩
    dsimp only
    split
    · exact .inl ⟨_, _, rfl, rfl, rfl⟩
    · cases push with
      | true => exact .inr ⟨page, _, rfl, rfl, rfl, rfl, rfl⟩
      | false => exact .inr ⟨page, _, rfl, rfl, rfl, rfl, rfl⟩

lemma Recalls.rests {stage : Stage} (recalls : Recalls k ⟨n, stage⟩) (idle : n.activity = .idle) :
    Rests k n := by
  cases recalls.2 with
  | resting _ rests => exact rests
  | leaving doing => cases idle.symm.trans doing
  | entering doing => cases idle.symm.trans doing
  | refused doing => cases idle.symm.trans doing

/-- Requests that are no traversals are aimed at nothing. -/
lemma aimed_of_not_traversal {h : MemoryHistory} {r : Request} (stays : r.kind.offset? = none) :
    Aimed h r := fun _ way => by cases stays.symm.trans way

/-- A change of the address that adds an entry leaves the one before, and otherwise the entry is
overwritten. -/
lemma Recalls.inPlace (idle : n.activity = .idle) (recalls : Recalls k ⟨n, .resting⟩) (push : Bool)
    (url : String) :
    Recalls (Keepsakes.note n (.inPlace push url : Act κ) k
        (.readdressed (n.inPlace push url).2 : Event μ))
      ⟨(n.inPlace push url).1, .resting⟩ := by
  have rests := recalls.rests idle
  obtain ⟨position, -⟩ := recalls
  have idle' := (Navigator.readdressing idle push url).activity_eq.trans idle
  obtain ⟨reason, target, outcome, active, history⟩ |
    ⟨page, context, shown, outcome, active, rfl, history⟩ := Navigator.inPlace_cases idle push url
  · rw [outcome]
    exact ⟨position.trans (congrArg (·.position) history.symm),
      .resting idle' (rests.congr active history)⟩
  · obtain ⟨here, agrees⟩ := rests.of_shown shown
    rw [outcome]
    have rests' {k' : Keepsakes}
        (position' : k'.position = (n.inPlace push context.url).1.history.position)
        (agrees' : Agrees k'.entries (n.inPlace push context.url).1.history)
        (here' : (n.inPlace push context.url).1.currentUrl? = some context.url) :
        Recalls k' ⟨(n.inPlace push context.url).1, .resting⟩ := by
      refine ⟨position', .resting idle' ?_⟩
      simp only [Rests, active]
      exact ⟨here', agrees'.forget _⟩
    cases push with
    | true =>
      have left : n.history.replace
          { url := page.context.url, state := n.leftState page.context } =
            n.leftHistory page.context := by
        rw [Navigator.leftHistory, if_pos here]
        rfl
      replace history : (n.inPlace true context.url).1.history =
          (n.leftHistory page.context).push { url := context.url } := by
        rw [history, if_pos rfl, left]
      have aimed : Aimed (n.leftHistory page.context) { url := context.url, kind := .push } :=
        aimed_of_not_traversal rfl
      obtain ⟨-, -, moved⟩ := n.listed_leftHistory page.context
      have follows := Keepsakes.follows_push
        (k := { k with leaving := n.keepsake?, kind := .push }) (position.trans moved.symm)
        (agrees_leftHistory shown position rests .push) rfl
        (r := { url := context.url, kind := .push }) rfl
      refine rests' ?_ ?_ ?_
      · rw [history]
        exact follows.position
      · rw [history]
        exact follows.agrees
      · rw [Navigator.currentUrl?, history]
        exact aimed.current_commit
    | false =>
      have aimed : Aimed n.history { url := context.url, kind := .replace } :=
        aimed_of_not_traversal rfl
      have follows := Keepsakes.follows_replace (k := { k with leaving := none, kind := .replace })
        position agrees rfl (r := { url := context.url, kind := .replace }) rfl
      refine rests' ?_ ?_ ?_
      · rw [history]
        exact follows.position
      · rw [history]
        exact follows.agrees
      · rw [Navigator.currentUrl?, history]
        exact aimed.current_commit

/-! ### Steps -/

lemma Recalls.reach (recalls : Recalls k ⟨p.1, .serving r⟩) {queue : List Request}
    (underway : Navigator.Underway r queue p) (flight : Flight) :
    Recalls k (Moment.reach r flight p).1 := by
  rcases p with ⟨n, _ | outcome⟩
  · exact recalls
  · have rests := recalls.rests underway.1
    obtain ⟨_, -, h⟩ := n.quietly_reportServed flight outcome
    simp only [Moment.reach, h]
    exact ⟨recalls.1, .resting underway.1 rests⟩

lemma Restores.reach {kind : Kind} (restores : Restores k n kind p.1) (r : Request)
    (flight : Flight) : Restores k n kind (Moment.reach r flight p).1.navigator := by
  rcases p with ⟨n', _ | outcome⟩
  · exact restores
  · intro traverses kept found
    obtain ⟨context, target, given, here, rest⟩ := restores traverses kept found
    have quiet := n'.quietly_reportServed flight outcome
    refine ⟨context, target, given.quietly quiet, ?_, rest⟩
    obtain ⟨_, -, h⟩ := quiet
    simp only [Moment.reach, h]
    exact here

lemma foldl_reach (n₀ : Navigator μ κ MemoryHistory) (a : Act κ) (r : Request) (flight : Flight) :
    (Moment.reach r flight p).2.foldl (Keepsakes.note n₀ a) k = k := by
  rcases p with ⟨n, _ | outcome⟩ <;> rfl

lemma committedIn_reach (r : Request) (flight : Flight) :
    committedIn (Moment.reach r flight p).2 = [] := by
  rcases p with ⟨n, _ | outcome⟩ <;> rfl

/-- The turn of a request. -/
lemma Moment.recalls_begun [Named κ] {n' : Navigator μ κ MemoryHistory} {queue : List Request}
    {stage : Stage} (recalls : Recalls k ⟨n, stage⟩) (idle : n.activity = .idle)
    (quiet : Navigator.Quietly { n with queue } n') (goes : n'.TakeOff flight p)
    (turn : flight.request = r) (a : Act κ) :
    let k' := (begun r flight p).2.foldl (Keepsakes.note n a) k
    Recalls k' (begun r flight p).1 ∧ (committedIn (begun r flight p).2 ≠ [] →
      Restores k' n r.kind (begun r flight p).1.navigator) := by
  obtain ⟨_, _, rfl⟩ := quiet
  subst turn
  obtain ⟨recalls', restores⟩ := goes.recalls recalls.1 (recalls.rests idle) (.inr rfl) n a
  have underway := goes.underway .here
  simp only [begun, List.foldl_cons, List.foldl_append, foldl_reach]
  refine ⟨recalls'.reach underway flight, fun some => (restores ?_).reach _ _⟩
  intro none
  simp [none, committedIn_reach] at some

/-- The answer of an exit middleware. -/
lemma Moment.recalls_exitAnswered [Named μ] [Named κ] {page : ActivePage κ} {leaving : Leaving}
    {x : μ} {rest : List μ} {action : Action} (recalls : Recalls k ⟨n, .serving r⟩)
    (sound : Moment.Sound ⟨n, .serving r⟩)
    (doing : n.activity = .exiting flight page leaving (x :: rest))
    (goes : n.ExitReaction flight page leaving rest action p) (a : Act κ) :
    let events := answerEvents .exit flight.request x action p ++ (reach r flight p).2
    let k' := events.foldl (Keepsakes.note n a) k
    Recalls k' (reach r flight p).1 ∧ (committedIn events ≠ [] →
      Restores k' n r.kind (reach r flight p).1.navigator) := by
  intro events k'
  simp only [k', events, List.foldl_append, foldl_reach]
  cases doing ▸ sound.2 with
  | exiting leads =>
    have underway := goes.underway sound.1 leads
    cases recalls.2 with
    | resting idle => cases idle.symm.trans doing
    | leaving doing' turn here kind aimed agrees =>
      cases doing'.symm.trans doing
      obtain ⟨recalls', restores⟩ := goes.recalls recalls.1 turn here kind aimed agrees x n a
      refine ⟨recalls'.reach underway flight, fun some => turn ▸ (restores ?_).reach _ _⟩
      intro none
      simp [none, committedIn_reach] at some
    | entering doing' => cases doing'.symm.trans doing
    | refused doing' => cases doing'.symm.trans doing

/-- Every act keeps the keepsakes of a run true. -/
lemma Moment.Move.recalls [Named μ] [Named κ] {stage : Stage} {a : Act κ}
    {result : Moment μ κ MemoryHistory × List (Event μ)} (move : Moment.Move n stage a result)
    (sound : Moment.Sound ⟨n, stage⟩) (own : a.OwnUrl) (recalls : Recalls k ⟨n, stage⟩) :
    Recalls (result.2.foldl (Keepsakes.note n a) k) result.1 := by
  cases move with
  | still other => exact recalls
  | called target goes =>
    exact (recalls_begun recalls sound.1 ⟨n.outbox, rfl, rfl⟩ goes rfl _).1
  | queued other quiet =>
    obtain ⟨_, _, rfl⟩ := quiet
    refine ⟨recalls.1, ?_⟩
    cases recalls.2 with
    | resting idle rests => exact .resting idle rests
    | leaving doing turn here kind aimed agrees => exact .leaving doing turn here kind aimed agrees
    | entering doing here left kind agrees => exact .entering doing here left kind agrees
    | refused doing here agrees => exact .refused doing here agrees
  | readdressed => exact recalls.inPlace sound.1 _ _
  | exitAnswered doing goes => exact (recalls_exitAnswered recalls sound doing goes _).1
  | @entryAnswered r flight route context x rest action p doing goes =>
    rw [List.foldl_append, foldl_reach]
    cases doing ▸ sound.2 with
    | entering leads =>
      refine Recalls.reach ?_ (goes.underway sound.1 leads) flight
      cases recalls.2 with
      | resting idle => cases idle.symm.trans doing
      | leaving doing' => cases doing'.symm.trans doing
      | entering doing' here left kind agrees =>
        cases doing'.symm.trans doing
        exact goes.recalls recalls.1 sound.1 here left kind agrees r x n _
      | refused doing' => cases doing'.symm.trans doing
  | @refusalShown r flight route context reason n' doing quiet =>
    rw [foldl_reach]
    refine Recalls.reach ?_ (Navigator.underway_of_settled quiet _) flight
    cases recalls.2 with
    | resting idle => cases idle.symm.trans doing
    | leaving doing' => cases doing'.symm.trans doing
    | entering doing' => cases doing'.symm.trans doing
    | refused doing' here agrees =>
      cases doing'.symm.trans doing
      exact recalls_settled quiet recalls.1 here agrees
  | returned queue => exact ⟨recalls.1, .resting sound (recalls.rests sound)⟩
  | dequeued queue quiet goes => exact (recalls_begun recalls sound quiet goes rfl _).1
  | touched => exact recalls.touch own

/-- The turn of a traversal that puts it into the history at once. -/
lemma Moment.restores_begun [Named μ] [Named κ] {m : Moment μ κ MemoryHistory} (sound : m.Sound)
    (recalls : Recalls k m) {a : Act κ} (turn : m.upcoming? a = some r)
    (reached : committedIn (m.step a).2 ≠ []) :
    Restores ((m.step a).2.foldl (Keepsakes.note m.navigator a) k) m.navigator r.kind
      (m.step a).1.navigator := by
  have idle := sound.idle_of_upcoming turn
  obtain ⟨n', flight, p, accepted, request, quiet, goes, shape, began⟩ := step_of_upcoming turn
  obtain ⟨-, restores⟩ := recalls_begun (n := m.navigator) recalls idle quiet goes request a
  rw [began] at reached ⊢
  rcases shape with rfl | rfl
  · exact restores reached
  · exact restores reached

/-- The answer that lets a traversal leave its page. -/
lemma Moment.Move.restores [Named μ] [Named κ] {a : Act κ}
    {result : Moment μ κ MemoryHistory × List (Event μ)}
    (move : Moment.Move n (.serving r) a result) (sound : Moment.Sound ⟨n, .serving r⟩)
    (recalls : Recalls k ⟨n, .serving r⟩) (exiting : n.phase = .exiting)
    (reached : committedIn result.2 ≠ []) :
    Restores (result.2.foldl (Keepsakes.note n a) k) n r.kind result.1.navigator := by
  cases move with
  | still other | queued other quiet | touched => exact absurd rfl reached
  | exitAnswered doing goes => exact (recalls_exitAnswered recalls sound doing goes _).2 reached
  | entryAnswered doing | refusalShown doing =>
    rw [Navigator.phase, doing] at exiting
    cases exiting

/-- An act that puts a traversal into the history. -/
lemma Moment.restores_reached [Named μ] [Named κ] {m : Moment μ κ MemoryHistory} (sound : m.Sound)
    (recalls : Recalls k m) {a : Act κ}
    (turn : m.upcoming? a = some r ∨ m.stage = .serving r ∧ m.navigator.phase = .exiting)
    (reached : committedIn (m.step a).2 ≠ []) :
    Restores ((m.step a).2.foldl (Keepsakes.note m.navigator a) k) m.navigator r.kind
      (m.step a).1.navigator := by
  obtain turn | ⟨serving, exiting⟩ := turn
  · exact restores_begun sound recalls turn reached
  · obtain ⟨n, stage⟩ := m
    obtain rfl : stage = .serving r := serving
    exact (Moment.move sound a).restores sound recalls exiting reached

/-- Once a call was given up the history stays as it is: all that comes waits, and nothing that goes
on is left. So no traversal arrives any more. -/
lemma Navigator.history_of_abandoned [Named μ] [Named κ] [History η] {n : Navigator μ κ η}
    {phase : Phase} {leaving : Option Leaving} (given_up : n.activity = .abandoned phase leaving)
    (busy : phase ≠ .idle) :
    (∀ kind url, (n.request kind url).1.activity = n.activity ∧
      (n.request kind url).1.history = n.history) ∧
    (∀ push url, (n.inPlace push url).1.activity = n.activity ∧
      (n.inPlace push url).1.history = n.history) ∧
    (∀ action, (n.answer action).1 = n) ∧ n.resume.1 = n := by
  have busy' : n.phase ≠ .idle := by rwa [Navigator.phase, given_up]
  refine ⟨fun kind url => ?_, fun push url => ?_, fun action => ?_, ?_⟩
  · obtain ⟨_, ⟨_, -, rfl⟩, h⟩ := request_of_phase_ne busy' kind url
    exact ⟨by rw [h], by rw [h]⟩
  · obtain ⟨_, ⟨_, -, rfl⟩, h⟩ := inPlace_of_phase_ne busy' push url
    exact ⟨by rw [h], by rw [h]⟩
  · simp only [answer, react, given_up]
  · simp only [resume, resumeRefused, given_up]

/-! ### Runs -/

/-- There is a keepsake, or none, for every entry. -/
lemma Recalls.length_eq {m : Moment μ κ MemoryHistory} (recalls : Recalls k m) :
    k.entries.length = m.navigator.history.entries.length := by
  cases recalls.2 with
  | @resting n stage idle rests =>
    rcases shown : n.active with _ | page
    · simp only [Rests, shown] at rests
      exact rests.length
    · simpa using (rests.of_shown shown).2.length
  | leaving doing turn here kind aimed agrees =>
    have filed := agrees.length
    unfold Keepsakes.filed at filed
    split at filed
    · exact filed
    · simpa using filed
  | entering doing here left kind agrees => exact agrees.length
  | refused doing here agrees => exact agrees.length

/-- The keepsakes of every run are true. -/
theorem recalls_after [Named μ] [Named κ] {m : Moment μ κ MemoryHistory} (recalls : Recalls k m)
    (sound : m.Sound) {acts : List (Act κ)} (own : ∀ a ∈ acts, a.OwnUrl) :
    Recalls (m.keepsakes k acts) (m.after acts) := by
  induction acts generalizing m k with
  | nil => exact recalls
  | cons a acts ih =>
    have step := (Moment.move sound a).recalls sound (own a (List.mem_cons_self ..)) recalls
    exact ih step (Moment.sound_step sound a) fun a h => own a (.tail _ h)

lemma recalls_start {s : Setup μ κ MemoryHistory} (built : s.build = .ok n) :
    Recalls (.blank n.history) (Moment.start n) := by
  obtain rfl := Setup.eq_of_build built
  exact ⟨rfl, .resting rfl (.blank _)⟩

end

/-- Back and forward restore what a page was left with. Let no middleware write the URL of a
context, and let the act `a` put a traversal into the history: it begins its turn, or is the answer
of the exit chain that lets its page be left. If the page of the entry that is reached was left
before, then the context that is given to its entry chain has the values that its context had when
the turn of the request began by which it was left last, and where the surface was scrolled to at
that time; and this is where to scroll, unless nothing is to be scrolled. -/
theorem traversal_restores [Named μ] [Named κ] {s : Setup μ κ MemoryHistory}
    {n : Navigator μ κ MemoryHistory} (built : s.build = .ok n) {acts : List (Act κ)}
    (own : ∀ a ∈ acts, a.OwnUrl) {a : Act κ} {r : Request}
    (turn : ((Moment.start n).after acts).upcoming? a = some r ∨
      ((Moment.start n).after acts).stage = .serving r ∧
        ((Moment.start n).after acts).navigator.phase = .exiting)
    (traverses : r.kind.isTraversal)
    (reached : committedIn (((Moment.start n).after acts).step a).2 ≠ []) {kept : Keepsake}
    (left : ((Moment.start n).keepsakes (.blank n.history) (acts ++ [a])).current? = some kept) :
    let m := (Moment.start n).after acts
    let m' := (m.step a).1
    let k := (Moment.start n).keepsakes (.blank n.history) (acts ++ [a])
    k.entries.length = m'.navigator.history.entries.length ∧
    k.position = m'.navigator.history.position ∧
    ∃ context target, m'.navigator.Given m.navigator.viewport context target ∧
      m'.navigator.currentUrl? = some context.url ∧ context.kind = r.kind ∧
      context.state.extra = kept.extra ∧ context.state.scroll = some kept.offset ∧
      (m.navigator.config.restoreScroll → target = some kept.offset) := by
  intro m m' k
  have sound : m.Sound := Moment.sound_after (Moment.sound_start built) acts
  let k₀ := (Moment.start n).keepsakes (.blank n.history) acts
  have recalls : Recalls k₀ m := recalls_after (recalls_start built) (Moment.sound_start built) own
  have last : k = (m.step a).2.foldl (Keepsakes.note m.navigator a) k₀ :=
    Moment.keepsakes_append ..
  suffices both : Recalls k m' ∧ Restores k m.navigator r.kind m'.navigator from
    ⟨both.1.length_eq, both.1.1, both.2 traverses kept left⟩
  rw [last]
  refine ⟨(Moment.move sound a).recalls sound ?_ recalls,
    Moment.restores_reached sound recalls turn reached⟩
  -- A touch puts nothing into the history.
  cases a with
  | touch t => exact absurd rfl reached
  | _ => trivial

/-- Two entries share a URL, the scroll store has room for one URL only, and the first page could be
left at the second attempt only. Going back twice restores its values and its scroll position. -/
theorem traversal_restores_shared_url :
    let s : Setup String String MemoryHistory :=
      { config := { scrollCapacity := 1 }
        routes := [{ (Route.catchAll : Route String) with entry := ["draft"], exit := ["ask"] }]
        history := {} }
    let values : Parameters := .ofList [("draft", "1")]
    let enter : List (Act String) := [.answer .proceed, .next]
    let leave (c : Call) : List (Act String) := [.call c, .answer .proceed] ++ enter
    let acts : List (Act String) :=
      [.call (.start "/a"), .touch (.edit fun c => { c with state.extra := values })] ++ enter ++
        [.touch (.view { position := ⟨0, 40⟩ }), .call (.push "/b"), .answer (.deny "stay"), .next,
          .touch (.view { position := ⟨0, 70⟩ })] ++
        leave (.push "/a") ++ leave (.push "/c") ++ leave .back ++ [.call .back]
    ∃ n, s.build = .ok n ∧
      let m := (Moment.start n).after acts
      let m' := (m.step (.answer .proceed)).1
      m'.navigator.history.urls = ["/a", "/a", "/c"] ∧ m'.navigator.history.position = 0 ∧
      ∃ context target, m'.navigator.Given m.navigator.viewport context target ∧
        m'.navigator.currentUrl? = some context.url ∧ context.state.extra = values ∧
        context.state.scroll = some ⟨0, 70⟩ ∧ target = some ⟨0, 70⟩ := by
  intro s values enter leave acts
  have built : s.build = .ok _ := rfl
  have own : ∀ a ∈ acts, a.OwnUrl := by simp [acts, enter, leave, Act.OwnUrl]
  obtain ⟨-, -, context, target, given, url, -, extra, scroll, aim⟩ :=
    @traversal_restores _ _ _ _ s _ built acts own (.answer .proceed) ⟨"/a", .back, 0⟩
      (.inr (by decide)) (by decide) (by decide) { extra := values, offset := ⟨0, 70⟩ } (by decide)
  exact ⟨_, built, by decide, by decide, context, target, given, url, extra, scroll,
    aim (by decide)⟩

end Wayfinder
