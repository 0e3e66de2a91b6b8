/-
Success only after a completed entry chain.

`trailOf` reads off a journal how the route that was entered last was let in: the answers of the
entry middlewares since its URL was put into the history. `Standing` ties the trail to what the
navigator is doing. A page is shown after its entry chain has let everybody through or after one of
its middlewares has refused, and a request ends in success only in the first case.

A change of the address in place runs no chain. It is possible whenever the URL leads to the route
of the page, so it also succeeds on a page whose entry was refused; the page stays the one that it
was.
-/
import Wayfinder.Guard
import Wayfinder.Proofs.Resolve
import Wayfinder.Proofs.Service

namespace Wayfinder

variable {μ κ η : Type}

/-! ### Trails -/

/-- The answers of entry middlewares after one more event; every URL that is put into the history
begins anew. -/
@[simp] def trailAfter (trail : List (μ × Action)) : Event μ → List (μ × Action)
  | .committed _ => []
  | .answered .entry _ m action => trail ++ [(m, action)]
  | _ => trail

/-- The answers of the entry middlewares since a URL was put into the history. -/
def trailOf (journal : List (Event μ)) : List (μ × Action) := journal.foldl trailAfter []

@[simp] lemma trailOf_append (journal events : List (Event μ)) :
    trailOf (journal ++ events) = events.foldl trailAfter (trailOf journal) := by
  simp [trailOf]

/-- The request whose turn it is after one more event, with the URL it has put into the history. -/
@[simp] def turnAfter (turn : Option (Request × Option String)) :
    Event μ → Option (Request × Option String)
  | .began r => some (r, none)
  | .committed url => turn.map fun (r, _) => (r, some url)
  | _ => turn

/-- The last request whose turn has begun, and the URL that it has put into the history last. -/
def turnOf (journal : List (Event μ)) : Option (Request × Option String) :=
  journal.foldl turnAfter none

@[simp] lemma turnOf_append (journal events : List (Event μ)) :
    turnOf (journal ++ events) = events.foldl turnAfter (turnOf journal) := by
  simp [turnOf]

/-- What a call owes its caller after one more event: the outcome of the first request that it has
served. -/
@[simp] def owedAfter (owed : Option Outcome) : Event μ → Option Outcome
  | .ended _ outcome => some (owed.getD outcome)
  | .returned _ => none
  | _ => owed

/-- What the running call owes its caller. -/
def owedBy (journal : List (Event μ)) : Option Outcome := journal.foldl owedAfter none

@[simp] lemma owedBy_append (journal events : List (Event μ)) :
    owedBy (journal ++ events) = events.foldl owedAfter (owedBy journal) := by
  simp [owedBy]

/-- Every middleware of a chain has answered that the navigation may go on. -/
def Admits (chain : List μ) (trail : List (μ × Action)) : Prop :=
  trail = chain.map fun m => (m, .proceed)

/-- A middleware of a chain has refused, after all those before it have agreed. -/
def Refuses (chain : List μ) (trail : List (μ × Action)) : Prop :=
  ∃ done m rest reason, chain = done ++ m :: rest ∧
    trail = (done.map fun m => (m, .proceed)) ++ [(m, .deny reason)]

/-- A page that has a route was let in or refused by the entry chain. -/
def Checked (t : RouteTable μ) (trail : List (μ × Action)) (page : ActivePage κ) : Prop :=
  ∀ i, page.route = some i → Admits (t.entryChain i) trail ∨ Refuses (t.entryChain i) trail

/-- A request has entered the route that a URL leads to: it has put the URL into the history, the
page of the route is shown, and the entry chain has let it in since. -/
def Entered (t : RouteTable μ) (journal : List (Event μ)) (r : Request) (url : String)
    (n : Navigator μ κ η) : Prop :=
  turnOf journal = some (r, some url) ∧
    ∃ page i captures, n.active = some page ∧ page.route = some i ∧
      t.firstMatch url = some ⟨i, captures⟩ ∧ Admits (t.entryChain i) (trailOf journal)

/-- How the trail of a journal fits to what goes on at a moment. -/
inductive Standing (t : RouteTable μ) (journal : List (Event μ)) : Moment μ κ η → Prop
  /-- No call runs. -/
  | resting {n} (checked : ∀ page, n.active = some page → Checked t (trailOf journal) page)
      (owed : owedBy journal = none) : Standing t journal ⟨n, .resting⟩
  /-- A page is being left. -/
  | leaving {n r flight page leaving middlewares}
      (doing : n.activity = .exiting flight page leaving middlewares)
      (checked : Checked t (trailOf journal) page) (turn : ∃ url, turnOf journal = some (r, url))
      (owed : flight.owed = owedBy journal) : Standing t journal ⟨n, .serving r⟩
  /-- A part of an entry chain has let the navigation go on. -/
  | entering {n r flight route context captures done rest}
      (doing : n.activity = .entering flight route context rest)
      (found : t.firstMatch flight.request.url = some ⟨route, captures⟩)
      (chain : t.entryChain route = done ++ rest) (trail : Admits done (trailOf journal))
      (turn : turnOf journal = some (r, some flight.request.url))
      (owed : flight.owed = owedBy journal) : Standing t journal ⟨n, .serving r⟩
  /-- An entry chain has refused, and the reason is being shown. -/
  | refused {n r flight route context reason}
      (doing : n.activity = .refused flight route context reason)
      (refuses : Refuses (t.entryChain route) (trailOf journal))
      (owed : flight.owed = owedBy journal) : Standing t journal ⟨n, .serving r⟩
  /-- A request has ended. -/
  | served {n r outcome owed}
      (checked : ∀ page, n.active = some page → Checked t (trailOf journal) page)
      (success : ∀ url, outcome = .success url → Entered t journal r url n)
      (owes : owedBy journal = some owed) : Standing t journal ⟨n, .served r outcome owed⟩

/-- The routes are those of the beginning, and the trail fits. -/
def Stands (t : RouteTable μ) (journal : List (Event μ)) (m : Moment μ κ η) : Prop :=
  t.Used m.navigator.table ∧ Standing t journal m

namespace Stands

variable {t : RouteTable μ} {journal : List (Event μ)} {r : Request}

/-! ### The progress of one request -/

/-- A request that ends after some events, with a page that was checked or without one. -/
lemma ends {n : Navigator μ κ η} {flight : Flight} {outcome : Outcome} (events : List (Event μ))
    (used : t.Used n.table)
    (checked : ∀ page, n.active = some page → Checked t (trailOf (journal ++ events)) page)
    (owed : flight.owed = owedBy (journal ++ events))
    (success : ∀ url, outcome = .success url → Entered t (journal ++ events) r url n) :
    Stands t (journal ++ (events ++ (Moment.reach r flight (n, some outcome)).2))
      (Moment.reach r flight (n, some outcome)).1 := by
  obtain ⟨outbox, -, h⟩ := n.quietly_reportServed flight outcome
  simp only [Moment.reach, h, ← List.append_assoc]
  refine ⟨used, .served ?_ ?_ ?_⟩
  · simpa using checked
  · simpa [Entered] using success
  · simp [owed]

variable [History η]

/-- A request that arrives begins a new trail. -/
lemma arrives {n : Navigator μ κ η} {flight flight' : Flight} {p : Navigator.Progress μ κ η}
    (goes : n.Arrival flight p) (used : t.Used n.table)
    (turn : ∃ url, turnOf journal = some (r, url)) (owed : flight.owed = owedBy journal)
    (same : flight'.owed = flight.owed) :
    Stands t (journal ++ (Navigator.landed p ++ (Moment.reach r flight' p).2))
      (Moment.reach r flight' p).1 := by
  rw [← same] at owed
  have owed' : flight'.owed = owedBy (journal ++ [.committed flight.request.url]) := by
    simpa using owed
  have turn' : turnOf (journal ++ [.committed flight.request.url]) =
      some (r, some flight.request.url) := by
    obtain ⟨_, turn⟩ := turn
    simp [turn]
  cases goes with
  | notFound put aim found quiet =>
    obtain ⟨-, used⟩ := used.resolve found
    obtain ⟨_, _, rfl⟩ := quiet
    refine ends _ used ?_ owed' (by rintro _ ⟨⟩)
    rintro page ⟨rfl⟩ i ⟨⟩
  | @waits _ _ _ _ _ m c rest _ put aim found chain quiet =>
    obtain ⟨first, used⟩ := used.resolve found
    obtain ⟨_, _, rfl⟩ := quiet
    have whole : t.entryChain m.index = [] ++ (c :: rest) := by
      rw [← used.entryChain_eq, chain, List.nil_append]
    refine ⟨used, .entering rfl first.symm whole ?_ ?_ ?_⟩
    · simp [Navigator.landed, Moment.reach, Admits]
    · simpa [Navigator.landed, Moment.reach] using turn'
    · simpa [Navigator.landed, Moment.reach, same] using owed
  | @entered _ _ _ _ _ m _ put aim found chain quiet =>
    obtain ⟨first, used⟩ := used.resolve found
    obtain ⟨_, _, rfl⟩ := quiet
    have admits : Admits (t.entryChain m.index)
        (trailOf (journal ++ [.committed flight.request.url])) := by
      rw [← used.entryChain_eq, chain]
      simp [Admits]
    refine ends _ used ?_ owed' ?_
    · rintro page ⟨rfl⟩ i ⟨rfl⟩
      exact .inl admits
    · rintro url ⟨rfl⟩
      exact ⟨turn', _, _, _, rfl, rfl, first.symm, admits⟩

/-- A request that departs leaves a page that was checked, or arrives. -/
lemma departs [Named κ] {n : Navigator μ κ η} {flight flight' : Flight}
    {p : Navigator.Progress μ κ η} (goes : n.Departure flight p) (used : t.Used n.table)
    (checked : ∀ page, n.active = some page → Checked t (trailOf journal) page)
    (turn : ∃ url, turnOf journal = some (r, url)) (owed : flight.owed = owedBy journal)
    (same : flight'.owed = flight.owed) :
    Stands t (journal ++ (Navigator.landed p ++ (Moment.reach r flight' p).2))
      (Moment.reach r flight' p).1 := by
  cases goes with
  | fresh shown quiet goes =>
    obtain ⟨_, _, rfl⟩ := quiet
    exact arrives goes used turn owed same
  | @waits page _ _ _ shown chain quiet =>
    obtain ⟨_, _, rfl⟩ := quiet
    have checked : Checked t (trailOf journal) (n.leavingPage page) := checked page shown
    refine ⟨used, .leaving rfl ?_ ?_ ?_⟩
    · simpa [Navigator.landed, Moment.reach] using checked
    · simpa [Navigator.landed, Moment.reach] using turn
    · simpa [Navigator.landed, Moment.reach] using owed
  | left shown chain quiet goes =>
    obtain ⟨_, _, rfl⟩ := quiet
    exact arrives goes used turn owed same

/-- A request that takes off ends with the page that is shown, or departs. -/
lemma takesOff [Named κ] {n : Navigator μ κ η} {flight : Flight} (flight' : Flight)
    {p : Navigator.Progress μ κ η} (goes : n.TakeOff flight p) (used : t.Used n.table)
    (checked : ∀ page, n.active = some page → Checked t (trailOf journal) page)
    (turn : ∃ url, turnOf journal = some (r, url)) (owed : flight.owed = owedBy journal)
    (same : flight'.owed = flight.owed) :
    Stands t (journal ++ (Navigator.landed p ++ (Moment.reach r flight' p).2))
      (Moment.reach r flight' p).1 := by
  cases goes with
  | dropped target quiet
  | looped target exceeds quiet =>
    obtain ⟨_, _, rfl⟩ := quiet
    refine ends _ used ?_ ?_ (by rintro _ ⟨⟩)
    · simpa [Navigator.landed] using checked
    · simpa [Navigator.landed, same] using owed
  | departs target within goes => exact departs goes used checked turn owed same

/-- The answer of an exit middleware leaves the trail as it is. -/
lemma exitAnswered {n : Navigator μ κ η} {flight : Flight} {page : ActivePage κ}
    {leaving : Leaving} {m : μ} {rest : List μ} {action : Action} {p : Navigator.Progress μ κ η}
    (goes : n.ExitReaction flight page leaving rest action p) (used : t.Used n.table)
    (checked : Checked t (trailOf journal) page) (turn : ∃ url, turnOf journal = some (r, url))
    (owed : flight.owed = owedBy journal) :
    Stands t
      (journal ++ (answerEvents .exit flight.request m action p ++ (Moment.reach r flight p).2))
      (Moment.reach r flight p).1 := by
  have checked' :
      Checked t (trailOf (journal ++ [.answered .exit flight.request m action])) page := by
    simpa using checked
  have turn' : ∃ url,
      turnOf (journal ++ [.answered .exit flight.request m action]) = some (r, url) := by
    simpa using turn
  have owed' : flight.owed = owedBy (journal ++ [.answered .exit flight.request m action]) := by
    simpa using owed
  cases goes with
  | next quiet =>
    obtain ⟨_, _, rfl⟩ := quiet
    exact ⟨used, .leaving rfl checked' turn' owed'⟩
  | left quiet goes =>
    obtain ⟨_, _, rfl⟩ := quiet
    simpa [answerEvents] using arrives goes used turn' owed' rfl
  | denied quiet =>
    obtain ⟨_, _, rfl⟩ := quiet
    refine ends _ used ?_ owed' (by rintro _ ⟨⟩)
    rintro page' ⟨rfl⟩
    exact checked'
  | redirected quiet =>
    obtain ⟨_, _, rfl⟩ := quiet
    refine ends _ used ?_ (by simpa [answerEvents] using owed) (by rintro _ ⟨⟩)
    rintro page' ⟨rfl⟩
    simpa [answerEvents] using checked

/-- The answer of an entry middleware goes on the trail. -/
lemma entryAnswered [Named κ] {n : Navigator μ κ η} {flight : Flight} {route : Nat}
    {context : Context κ} {m : μ} {rest done : List μ} {action : Action}
    {p : Navigator.Progress μ κ η} {captures : Parameters}
    (goes : n.EntryReaction flight route context rest action p) (used : t.Used n.table)
    (bare : n.active = none)
    (found : t.firstMatch flight.request.url = some ⟨route, captures⟩)
    (chain : t.entryChain route = done ++ m :: rest) (trail : Admits done (trailOf journal))
    (turn : turnOf journal = some (r, some flight.request.url))
    (owed : flight.owed = owedBy journal) :
    Stands t
      (journal ++ (answerEvents .entry flight.request m action p ++ (Moment.reach r flight p).2))
      (Moment.reach r flight p).1 := by
  have owed' : flight.owed = owedBy (journal ++ [.answered .entry flight.request m action]) := by
    simpa using owed
  have turn' : turnOf (journal ++ [.answered .entry flight.request m action]) =
      some (r, some flight.request.url) := by
    simpa using turn
  have trail' : trailOf (journal ++ [.answered .entry flight.request m action]) =
      (done.map fun m => (m, .proceed)) ++ [(m, action)] := by
    rw [trailOf_append, trail]
    rfl
  cases goes with
  | @next c rest _ quiet =>
    obtain ⟨_, _, rfl⟩ := quiet
    have chain : t.entryChain route = (done ++ [m]) ++ c :: rest := by simp [chain]
    have admits : Admits (done ++ [m])
        (trailOf (journal ++ [.answered .entry flight.request m .proceed])) := by
      rw [Admits, trail', List.map_append]
      rfl
    exact ⟨used, .entering rfl found chain admits turn' owed'⟩
  | entered quiet =>
    obtain ⟨_, _, rfl⟩ := quiet
    have admits : Admits (t.entryChain route)
        (trailOf (journal ++ [.answered .entry flight.request m .proceed])) := by
      rw [Admits, trail', chain]
      simp
    refine ends _ used ?_ owed' ?_
    · rintro page ⟨rfl⟩ i ⟨rfl⟩
      exact .inl admits
    · rintro url ⟨rfl⟩
      exact ⟨turn', _, _, _, rfl, rfl, found, admits⟩
  | refused shows quiet =>
    obtain ⟨_, _, rfl⟩ := quiet
    exact ⟨used, .refused rfl ⟨done, m, rest, _, chain, trail'⟩ owed'⟩
  | denied shows quiet =>
    obtain ⟨_, _, rfl⟩ := quiet
    refine ends _ used ?_ owed' (by rintro _ ⟨⟩)
    rintro page ⟨rfl⟩ i ⟨rfl⟩
    exact .inr ⟨done, m, rest, _, chain, trail'⟩
  | @followed _ target reason _ _ quiet goes =>
    -- The chain that ran is given up with its page, so there is no page that needs to be checked.
    obtain ⟨_, _, rfl⟩ := quiet
    have bare (page : ActivePage κ) (shown : n.active = some page) :
        Checked t (trailOf (journal ++
          [.answered .entry flight.request m (.redirect target reason)])) page := by
      cases bare.symm.trans shown
    simpa [answerEvents] using takesOff flight goes used bare ⟨_, turn'⟩ owed' rfl

/-! ### Runs -/

/-- The turn of a request begins with the page that is shown. -/
lemma begun [Named κ] {n : Navigator μ κ η} {flight : Flight} {p : Navigator.Progress μ κ η}
    (goes : n.TakeOff flight p) (used : t.Used n.table)
    (checked : ∀ page, n.active = some page → Checked t (trailOf journal) page)
    (owed : flight.owed = owedBy journal) :
    Stands t (journal ++ (Moment.begun r flight p).2) (Moment.begun r flight p).1 := by
  have checked' : ∀ page, n.active = some page → Checked t (trailOf (journal ++ [.began r])) page :=
    by simpa using checked
  have turn : turnOf (journal ++ [.began r]) = some (r, none) := by simp
  have owed' : flight.owed = owedBy (journal ++ [.began r]) := by simpa using owed
  simpa [Moment.begun] using takesOff flight goes used checked' ⟨_, turn⟩ owed' rfl

omit [History η] in
/-- A change of the address in place keeps the route of the page. -/
lemma readdressed {n : Navigator μ κ η} {url : String} {result : Navigator μ κ η × Outcome}
    (goes : n.Readdressing url result) (used : t.Used n.table)
    (checked : ∀ page, n.active = some page → Checked t (trailOf journal) page)
    (owed : owedBy journal = none) :
    Stands t (journal ++ [.readdressed result.2]) ⟨result.1, .resting⟩ := by
  cases goes with
  | nowhere shown => exact ⟨used, .resting (by simpa using checked) (by simpa using owed)⟩
  | elsewhere shown resolved other quiet =>
    obtain ⟨-, used⟩ := used.resolve resolved
    obtain ⟨_, _, rfl⟩ := quiet
    exact ⟨used, .resting (by simpa using checked) (by simpa using owed)⟩
  | @here page _ _ _ _ context _ shown resolved same held quiet =>
    obtain ⟨-, used⟩ := used.resolve resolved
    obtain ⟨_, _, rfl⟩ := quiet
    refine ⟨used, .resting ?_ (by simpa using owed)⟩
    -- The page goes on under its route, so what its chain has answered still counts.
    rintro page' ⟨rfl⟩ i route
    simpa using checked page shown i route

omit [History η] in
/-- A touch changes nothing that matters here. -/
lemma touched {n : Navigator μ κ η} {stage : Stage} (stands : Stands t journal ⟨n, stage⟩)
    (touch : Touch κ) : Stands t journal ⟨touch.apply n, stage⟩ := by
  obtain ⟨used, standing⟩ := stands
  have touched := touch.touched n
  obtain ⟨f, doing'⟩ := touched.activity
  obtain ⟨hold, shown'⟩ := touched.active
  have page_of {page : ActivePage κ} (shown : (touch.apply n).active = some page) :
      ∃ page₀, n.active = some page₀ ∧ page.route = page₀.route := by
    obtain ⟨page₀, shown₀, rfl⟩ := Option.map_eq_some_iff.mp (shown'.symm.trans shown)
    exact ⟨page₀, shown₀, rfl⟩
  have checked' (checked : ∀ page, n.active = some page → Checked t (trailOf journal) page)
      (page : ActivePage κ) (shown : (touch.apply n).active = some page) :
      Checked t (trailOf journal) page := by
    obtain ⟨page₀, shown₀, same⟩ := page_of shown
    exact fun i route => checked page₀ shown₀ i (same.symm.trans route)
  refine ⟨by rw [touched.table]; exact used, ?_⟩
  cases standing with
  | resting checked owed => exact .resting (checked' checked) owed
  | leaving doing checked turn owed =>
    exact .leaving (doing'.trans (congrArg _ doing)) checked turn owed
  | entering doing found chain trail turn owed =>
    exact .entering (doing'.trans (congrArg _ doing)) found chain trail turn owed
  | refused doing refuses owed =>
    exact .refused (doing'.trans (congrArg _ doing)) refuses owed
  | served checked success owes =>
    refine .served (checked' checked) (fun url ok => ?_) owes
    obtain ⟨turn, page, i, captures, shown, route, found, admits⟩ := success url ok
    refine ⟨turn, page.holding (hold page), i, captures, ?_, route, found, admits⟩
    rw [shown', shown, Option.map_some]

/-- Every act keeps the trail. -/
lemma move [Named μ] [Named κ] {n : Navigator μ κ η} {stage : Stage} {a : Act κ}
    {result : Moment μ κ η × List (Event μ)} (stands : Stands t journal ⟨n, stage⟩)
    (sound : Moment.Sound ⟨n, stage⟩) (move : Moment.Move n stage a result) :
    Stands t (journal ++ result.2) result.1 := by
  cases move with
  | still other => simpa using stands
  | @called _ url kind _ target goes =>
    obtain ⟨used, standing⟩ := stands
    cases standing with
    | resting checked owed =>
      have checked' : ∀ page, n.active = some page →
          Checked t (trailOf (journal ++ [.accepted { url, kind }])) page := by simpa using checked
      simpa using begun (r := { url, kind }) goes used checked' (by simpa using owed.symm)
  | queued other quiet =>
    obtain ⟨_, _, rfl⟩ := quiet
    obtain ⟨used, standing⟩ := stands
    refine ⟨used, ?_⟩
    cases standing with
    | leaving doing checked turn owed =>
      exact .leaving doing (by simpa using checked) (by simpa using turn) (by simpa using owed)
    | entering doing found chain trail turn owed =>
      exact .entering doing found chain (by simpa using trail) (by simpa using turn)
        (by simpa using owed)
    | refused doing refuses owed =>
      exact .refused doing (by simpa using refuses) (by simpa using owed)
  | @readdressed push url =>
    obtain ⟨used, standing⟩ := stands
    cases standing with
    | resting checked owed =>
      exact readdressed (Navigator.readdressing sound.1 push url) used checked owed
  | exitAnswered doing goes =>
    obtain ⟨used, standing⟩ := stands
    cases standing with
    | leaving doing' checked turn owed =>
      cases doing.symm.trans doing'
      exact exitAnswered goes used checked turn owed
    | entering doing' | refused doing' => cases doing.symm.trans doing'
  | entryAnswered doing goes =>
    obtain ⟨used, standing⟩ := stands
    cases standing with
    | entering doing' found chain trail turn owed =>
      cases doing.symm.trans doing'
      exact entryAnswered goes used sound.1 found chain trail turn owed
    | leaving doing' | refused doing' => cases doing.symm.trans doing'
  | refusalShown doing quiet =>
    obtain ⟨used, standing⟩ := stands
    cases standing with
    | refused doing' refuses owed =>
      cases doing.symm.trans doing'
      obtain ⟨_, _, rfl⟩ := quiet
      refine ends [] used ?_ (by simpa using owed) (by rintro _ ⟨⟩)
      rintro page ⟨rfl⟩ i ⟨rfl⟩
      exact .inr (by simpa using refuses)
    | leaving doing' | entering doing' => cases doing.symm.trans doing'
  | returned queue =>
    obtain ⟨used, standing⟩ := stands
    cases standing with
    | served checked success owes =>
      exact ⟨used, .resting (by simpa using checked) (by simp)⟩
  | dequeued queue quiet goes =>
    obtain ⟨used, standing⟩ := stands
    cases standing with
    | served checked success owes =>
      obtain ⟨_, _, rfl⟩ := quiet
      exact begun goes used checked owes.symm
  | touched => simpa using stands.touched _

/-- Every run keeps the trail. -/
theorem after [Named μ] [Named κ] {m : Moment μ κ η} (stands : Stands t journal m) (sound : m.Sound)
    (acts : List (Act κ)) : Stands t (journal ++ m.journal acts) (m.after acts) := by
  induction acts generalizing m journal with
  | nil => simpa using stands
  | cons a acts ih =>
    have step := stands.move sound (Moment.move sound a)
    simpa using ih step (Moment.sound_step sound a)

omit [History η] in
/-- At the beginning there is no page to be let in to. -/
lemma start {s : Setup μ κ η} {n : Navigator μ κ η} (built : s.build = .ok n) :
    Stands n.table [] (Moment.start n) := by
  obtain rfl := Setup.eq_of_build built
  exact ⟨.refl s.coherent_table, .resting (by rintro _ ⟨⟩) rfl⟩

end Stands

/-- Success needs a completed entry chain. A request that ends in success has put the URL into the
history itself, and every middleware of the entry chain of its route, those of all routes included,
has agreed since; the page of that route is shown. A call answers the outcome of its own request.

While no call runs, the page that is shown was let in or refused by its entry chain. A change of its
address runs no chain: it succeeds exactly if the URL leads to the route of the page, and keeps the
route and the controller, whether the page was let in or not. -/
theorem success_needs_entry [Named μ] [Named κ] [History η] {s : Setup μ κ η}
    {n : Navigator μ κ η} (built : s.build = .ok n) (acts : List (Act κ)) :
    let m := (Moment.start n).after acts
    let journal := (Moment.start n).journal acts
    (∀ r url owed, m.stage = .served r (.success url) owed →
      Entered n.table journal r url m.navigator) ∧
    (∀ r outcome owed, m.stage = .served r outcome owed → owedBy journal = some owed) ∧
    (m.stage = .resting →
      (∀ page, m.navigator.active = some page → Checked n.table (trailOf journal) page) ∧
      ∀ push url,
        let result := m.navigator.inPlace push url
        (result.2 = .success url ↔ ∃ page i captures, m.navigator.active = some page ∧
          page.route = some i ∧ n.table.firstMatch url = some ⟨i, captures⟩) ∧
        result.1.active.map (fun page => (page.route, page.context.controller)) =
          m.navigator.active.map fun page => (page.route, page.context.controller)) := by
  intro m journal
  have start := Moment.sound_start built
  have sound : m.Sound := Moment.sound_after start acts
  have stands : Stands n.table journal m := (Stands.start built).after start acts
  generalize m = m at sound stands ⊢
  obtain ⟨used, standing⟩ := stands
  cases standing with
  | leaving | entering | refused =>
    exact ⟨by rintro _ _ _ ⟨⟩, by rintro _ _ _ ⟨⟩, by rintro ⟨⟩⟩
  | served checked success owes =>
    refine ⟨?_, ?_, by rintro ⟨⟩⟩
    · rintro r url owed ⟨rfl⟩
      exact success url rfl
    · rintro r outcome owed ⟨rfl⟩
      exact owes
  | @resting n' checked owed =>
    refine ⟨by rintro _ _ _ ⟨⟩, by rintro _ _ _ ⟨⟩, fun _ => ⟨checked, fun push url => ?_⟩⟩
    have goes : n'.Readdressing url (n'.inPlace push url) := Navigator.readdressing sound.1 push url
    generalize n'.inPlace push url = result at goes ⊢
    cases goes with
    | nowhere shown => simp [shown]
    | elsewhere shown resolved other quiet =>
      obtain ⟨_, _, rfl⟩ := quiet
      obtain ⟨first, -⟩ := used.resolve resolved
      refine ⟨⟨by rintro ⟨⟩, ?_⟩, rfl⟩
      rintro ⟨page, i, captures, shown', route, found⟩
      cases shown.symm.trans shown'
      exact absurd route (other _ (first.trans found))
    | here shown resolved same held quiet =>
      obtain ⟨_, _, rfl⟩ := quiet
      obtain ⟨first, -⟩ := used.resolve resolved
      refine ⟨⟨fun _ => ⟨_, _, _, shown, same, first.symm⟩, fun _ => rfl⟩, ?_⟩
      simp [shown, held]

/-- A request that is led to another URL ends in success once the guard there agrees. -/
theorem success_needs_entry_redirect :
    let s : Setup String String MemoryHistory :=
      { routes := [{ (Route.catchAll : Route String) with entry := ["guard"] }], history := {} }
    let acts : List (Act String) :=
      [.call (.start "/a"), .answer (.redirect "/b" none), .answer .proceed]
    ∃ n, s.build = .ok n ∧
      let m := (Moment.start n).after acts
      let journal := (Moment.start n).journal acts
      m.stage = .served ⟨"/a", .replace, 0⟩ (.success "/b") (.success "/b") ∧
      trailOf journal = [("guard", .proceed)] ∧
      Entered n.table journal ⟨"/a", .replace, 0⟩ "/b" m.navigator := by
  intro s acts
  have built : s.build = .ok _ := rfl
  have entered := (@success_needs_entry _ _ _ _ _ _ s _ built acts).1
    ⟨"/a", .replace, 0⟩ "/b" (.success "/b") (by decide)
  exact ⟨_, built, by decide, by decide, entered⟩

/-- A page whose guard has refused entry can change its address all the same. -/
theorem success_in_place_after_refusal :
    let guard : PrivilegeGuard := { privilege := "items" }
    let s : Setup PrivilegeGuard String MemoryHistory :=
      { routes := [{ (Route.catchAll : Route PrivilegeGuard) with entry := [guard] }],
        history := {} }
    let acts : List (Act String) :=
      [.call (.start "/a"), .answer (guard.decide []), .next]
    ∃ n, s.build = .ok n ∧
      let m := (Moment.start n).after acts
      let journal := (Moment.start n).journal acts
      m.stage = .resting ∧ n.table.entryChain 0 = [guard] ∧
      n.table.firstMatch "/b" = some ⟨0, .empty⟩ ∧
      trailOf journal = [(guard, .deny guard.message)] ∧
      ¬ Admits (n.table.entryChain 0) (trailOf journal) ∧
      (m.navigator.inPlace true "/b").2 = .success "/b" ∧
      (m.navigator.inPlace true "/b").1.active.bind (·.route) = some 0 := by
  intro guard s acts
  refine ⟨_, rfl, by decide, by decide, by decide, by decide, ?_, by decide, by decide⟩
  unfold Admits
  decide

end Wayfinder
