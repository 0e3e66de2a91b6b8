/-
Redirects are bounded.

A request may lead to others: entry chains lead to requests that are served at once, exit chains to
ones that are put in front of the queue. `lineageOf` reads off a journal which requests come from
the one that was asked for, without a look at the number that requests carry. It is shown that this
number is the length of the lineage in every mixture of the two ways, so no lineage is longer than
the settings allow, and that one redirect more ends it and leaves everything where it is.

* `Lineage.note`, `lineageOf`: what the events of a journal say about the lineage.
* `Navigator.Counts`, `Bounded`: the number that a request carries is that of the requests before it.
* `Bounds.after`: this holds along every run.
* `redirects_bounded`: how long a lineage is, and how it ends.
-/
import Wayfinder.Proofs.Service

namespace Wayfinder

variable {μ κ η : Type}

/-! ### Lineages -/

/-- A request that was asked for and those it has led to. -/
structure Lineage where
  /-- The requests, in order. -/
  hops : List Request := []
  /-- What an exit chain has led to, until it has its turn. -/
  diverted : Option Request := none

/-- The lineage after one more event. A turn begins a new lineage, unless it is that of a request
which an exit chain has led to. A request that is stopped because of too many redirects runs no
chain and does not count. -/
@[simp] def Lineage.note (l : Lineage) : Event μ → Lineage
  | .began r => { hops := if l.diverted = some r then l.hops ++ [r] else [r] }
  | .answered .entry hop _ (.redirect target _) =>
    { l with hops := l.hops ++ [hop.redirected target .replace] }
  | .diverted r => { l with diverted := some r }
  | .ended _ (.failed (.redirectLoop _ _)) => { l with hops := l.hops.dropLast }
  | _ => l

/-- The lineage of the request whose turn it is, or was last. -/
def lineageOf (journal : List (Event μ)) : Lineage := journal.foldl Lineage.note {}

@[simp] lemma lineageOf_append (journal events : List (Event μ)) :
    lineageOf (journal ++ events) = events.foldl Lineage.note (lineageOf journal) := by
  simp [lineageOf]

/-- Putting a URL into the history does not make a lineage longer. -/
@[simp] lemma note_landed (l : Lineage) (p : Navigator.Progress μ κ η) :
    (Navigator.landed p).foldl Lineage.note l = l := by
  obtain h | ⟨url, h⟩ := Navigator.landed_cases p
  · rw [h]
    rfl
  · rw [h]
    rfl

/-! ### The number that requests carry -/

/-- The request that something is waited for. -/
def Activity.hop? : Activity μ κ → Option Request
  | exiting flight _ _ _ => some flight.request
  | entering flight _ _ _ => some flight.request
  | refused flight _ _ _ => some flight.request
  | _ => none

@[simp] lemma Activity.hop?_edit (a : Activity μ κ) (f : Context κ → Context κ) :
    (a.edit f).hop? = a.hop? := by
  cases a <;> rfl

/-- Where a middleware of an exit chain is asked, a page is being left. -/
lemma Navigator.exiting_of_asked {n : Navigator μ κ η} {hop : Request} {x : μ}
    (asked : n.asked? = some (.exit, hop, x)) :
    ∃ flight page leaving rest, n.activity = .exiting flight page leaving (x :: rest) ∧
      flight.request = hop := by
  unfold asked? at asked
  split at asked
  · rename_i doing
    cases asked
    exact ⟨_, _, _, _, doing, rfl⟩
  · cases asked
  · cases asked

/-- Where a middleware of an entry chain is asked, a route is being entered. -/
lemma Navigator.entering_of_asked {n : Navigator μ κ η} {hop : Request} {x : μ}
    (asked : n.asked? = some (.entry, hop, x)) :
    ∃ flight route context rest, n.activity = .entering flight route context (x :: rest) ∧
      flight.request = hop := by
  unfold asked? at asked
  split at asked
  · cases asked
  · rename_i doing
    cases asked
    exact ⟨_, _, _, _, doing, rfl⟩
  · cases asked

/-- Whoever is asked runs for this request. -/
lemma Navigator.hop?_of_asked {n : Navigator μ κ η} {side : Side} {hop : Request} {x : μ}
    (asked : n.asked? = some (side, hop, x)) : n.activity.hop? = some hop := by
  cases side with
  | exit =>
    obtain ⟨_, _, _, _, doing, rfl⟩ := exiting_of_asked asked
    rw [doing]
    rfl
  | entry =>
    obtain ⟨_, _, _, _, doing, rfl⟩ := entering_of_asked asked
    rw [doing]
    rfl

namespace Navigator

/-- The progress of a request that was led to by a number of redirects within the limit. -/
structure Counts (limit depth : Nat) (p : Progress μ κ η) : Prop where
  /-- The limit stays. -/
  config : p.1.config.maxRedirects = limit
  /-- While something is waited for, the request carries the number. -/
  waits : p.2 = none → ∃ hop, p.1.activity.hop? = some hop ∧ hop.redirects = depth
  /-- It does not fail. -/
  holds : ∀ e, p.2 ≠ some (.failed e)

section

variable [History η] {n : Navigator μ κ η} {flight : Flight} {p : Progress μ κ η}

lemma Arrival.counts (goes : n.Arrival flight p) :
    Counts n.config.maxRedirects flight.request.redirects p := by
  cases goes with
  | notFound put aim found quiet =>
    obtain ⟨_, _, rfl⟩ := quiet
    exact ⟨rfl, nofun, nofun⟩
  | waits put aim found chain quiet =>
    obtain ⟨_, _, rfl⟩ := quiet
    exact ⟨rfl, fun _ => ⟨_, rfl, rfl⟩, nofun⟩
  | entered put aim found chain quiet =>
    obtain ⟨_, _, rfl⟩ := quiet
    exact ⟨rfl, nofun, nofun⟩

lemma Departure.counts [Named κ] (goes : n.Departure flight p) :
    Counts n.config.maxRedirects flight.request.redirects p := by
  cases goes with
  | fresh shown quiet goes =>
    obtain ⟨_, _, rfl⟩ := quiet
    exact goes.counts
  | waits shown chain quiet =>
    obtain ⟨_, _, rfl⟩ := quiet
    exact ⟨rfl, fun _ => ⟨_, rfl, rfl⟩, nofun⟩
  | left shown chain quiet goes =>
    obtain ⟨_, _, rfl⟩ := quiet
    exact goes.counts

/-- A request within the limit is not stopped. -/
lemma TakeOff.counts [Named κ] (goes : n.TakeOff flight p)
    (within : flight.request.redirects ≤ n.config.maxRedirects) :
    Counts n.config.maxRedirects flight.request.redirects p := by
  cases goes with
  | dropped target quiet =>
    obtain ⟨_, _, rfl⟩ := quiet
    exact ⟨rfl, nofun, nofun⟩
  | looped target exceeds quiet =>
    rw [redirects_of_located target] at exceeds
    exact absurd within (Nat.not_le_of_lt exceeds)
  | departs target _ goes =>
    rw [← redirects_of_located target]
    exact goes.counts

/-- A request beyond the limit is stopped, and that is all that happens. -/
lemma TakeOff.stopped [Named κ] (goes : n.TakeOff flight p)
    (exceeds : n.config.maxRedirects < flight.request.redirects)
    (direct : flight.request.kind.offset? = none) :
    ∃ n', Quietly { n with activity := .idle } n' ∧
      p = (n', some (.failed (.redirectLoop n.config.maxRedirects flight.request.url))) := by
  have located : n.located? flight.request = some flight.request := by simp [located?, direct]
  cases goes with
  | dropped target => cases located.symm.trans target
  | looped target _ quiet =>
    obtain rfl := Option.some.inj (located.symm.trans target)
    exact ⟨_, quiet, rfl⟩
  | departs target within _ =>
    rw [redirects_of_located target] at within
    exact absurd within (Nat.not_le_of_lt exceeds)

/-- An answer of an exit chain that leads nowhere else. -/
lemma ExitReaction.counts {page : ActivePage κ} {leaving : Leaving} {rest : List μ}
    {action : Action} (goes : n.ExitReaction flight page leaving rest action p)
    (stays : action.isRedirect = false) :
    Counts n.config.maxRedirects flight.request.redirects p := by
  cases goes with
  | next quiet =>
    obtain ⟨_, _, rfl⟩ := quiet
    exact ⟨rfl, fun _ => ⟨_, rfl, rfl⟩, nofun⟩
  | left quiet goes =>
    obtain ⟨_, _, rfl⟩ := quiet
    exact goes.counts
  | denied quiet =>
    obtain ⟨_, _, rfl⟩ := quiet
    exact ⟨rfl, nofun, nofun⟩
  | redirected => cases stays

/-- An answer of an entry chain that leads nowhere else. -/
lemma EntryReaction.counts [Named κ] {route : Nat} {context : Context κ} {rest : List μ}
    {action : Action} (goes : n.EntryReaction flight route context rest action p)
    (stays : action.isRedirect = false) :
    Counts n.config.maxRedirects flight.request.redirects p := by
  cases goes with
  | next quiet
  | refused shows quiet =>
    obtain ⟨_, _, rfl⟩ := quiet
    exact ⟨rfl, fun _ => ⟨_, rfl, rfl⟩, nofun⟩
  | entered quiet
  | denied shows quiet =>
    obtain ⟨_, _, rfl⟩ := quiet
    exact ⟨rfl, nofun, nofun⟩
  | followed => cases stays

end

end Navigator

/-- A change of the address leaves the settings as they are. -/
lemma Navigator.Readdressing.config_eq {n : Navigator μ κ η} {url : String}
    {result : Navigator μ κ η × Outcome} (goes : n.Readdressing url result) :
    result.1.config = n.config := by
  cases goes with
  | nowhere shown => rfl
  | elsewhere shown resolved other quiet =>
    obtain ⟨_, _, rfl⟩ := quiet
    rfl
  | here shown resolved same held quiet =>
    obtain ⟨_, _, rfl⟩ := quiet
    rfl

/-! ### Runs -/

/-- How a lineage fits to what goes on at a moment: the number that its last request carries is that
of the requests before it. -/
inductive Bounded (limit : Nat) (l : Lineage) : Moment μ κ η → Prop
  /-- No call runs. -/
  | resting {n} (bound : l.hops.length ≤ limit + 1) (taken : l.diverted = none) :
    Bounded limit l ⟨n, .resting⟩
  /-- A request is served. Those that wait were asked for. -/
  | serving {n r hop} (doing : n.activity.hop? = some hop)
    (counts : hop.redirects + 1 = l.hops.length) (bound : hop.redirects ≤ limit)
    (taken : l.diverted = none) (direct : ∀ q ∈ n.queue, q.redirects = 0) :
    Bounded limit l ⟨n, .serving r⟩
  /-- A request has ended. -/
  | served {n r outcome owed} (bound : l.hops.length ≤ limit + 1) (taken : l.diverted = none)
    (direct : ∀ q ∈ n.queue, q.redirects = 0)
    (loops : ∀ depth url, outcome = .failed (.redirectLoop depth url) →
      depth = limit ∧ l.hops.length = limit + 1) : Bounded limit l ⟨n, .served r outcome owed⟩
  /-- A request has ended because an exit chain has led to another one. -/
  | diverted {n r outcome owed r' rest} (queue : n.queue = r' :: rest)
    (counts : r'.redirects = l.hops.length) (bound : l.hops.length ≤ limit + 1)
    (waits : l.diverted = some r') (way : r'.kind = .push)
    (direct : ∀ q ∈ rest, q.redirects = 0) (holds : ∀ e, outcome ≠ .failed e) :
    Bounded limit l ⟨n, .served r outcome owed⟩

/-- The limit is that of the settings, and the lineage fits. -/
def Bounds (limit : Nat) (l : Lineage) (m : Moment μ κ η) : Prop :=
  m.navigator.config.maxRedirects = limit ∧ Bounded limit l m

namespace Bounds

variable {limit depth : Nat} {l : Lineage} {r : Request} {n : Navigator μ κ η} {flight : Flight}
  {p : Navigator.Progress μ κ η} {queue : List Request}

/-- The progress of a request that is the last one of its lineage. -/
lemma reach (counts : Navigator.Counts limit depth p) (underway : Navigator.Underway r queue p)
    (flight : Flight) (length : depth + 1 = l.hops.length) (bound : depth ≤ limit)
    (taken : l.diverted = none) (direct : ∀ q ∈ queue, q.redirects = 0) :
    Bounds limit ((Moment.reach r flight p).2.foldl Lineage.note l) (Moment.reach r flight p).1 := by
  rcases p with ⟨n, _ | outcome⟩
  · obtain ⟨hop, doing, rfl⟩ := counts.waits rfl
    exact ⟨counts.config, .serving doing length bound taken (underway.2.2 ▸ direct)⟩
  · obtain ⟨_, -, h⟩ := n.quietly_reportServed flight outcome
    have same : (Moment.reach r flight (n, some outcome)).2.foldl (Lineage.note (μ := μ)) l = l := by
      cases outcome with
      | failed e => exact absurd rfl (counts.holds e)
      | success | queued | notFound | blocked => rfl
    rw [same]
    simp only [Moment.reach, h]
    refine ⟨counts.config, .served (by omega) taken (underway.2 ▸ direct) ?_⟩
    rintro depth url rfl
    exact absurd rfl (counts.holds _)

/-- A request that is stopped is no part of the lineage that led to it. -/
lemma stopped {n n' : Navigator μ κ η} (quiet : Navigator.Quietly { n with activity := .idle } n')
    (config : n.config.maxRedirects = limit) (flight : Flight) (url : String)
    (length : l.hops.length = limit + 2) (taken : l.diverted = none)
    (direct : ∀ q ∈ n.queue, q.redirects = 0) :
    let p : Navigator.Progress μ κ η := (n', some (.failed (.redirectLoop limit url)))
    Bounds limit ((Moment.reach r flight p).2.foldl Lineage.note l) (Moment.reach r flight p).1 := by
  intro p
  obtain ⟨_, -, rfl⟩ := quiet
  obtain ⟨_, -, h⟩ := Navigator.quietly_reportServed (n := p.1) flight
    (.failed (.redirectLoop limit url))
  simp only [p, Moment.reach, h, List.foldl_cons, List.foldl_nil, Lineage.note]
  refine ⟨config, .served ?_ taken direct fun depth url' same => ?_⟩
  · simp [length]
  · obtain ⟨rfl, -⟩ := by simpa using same
    simp [length]

section

variable [History η]

/-- The turn of a request that was asked for. -/
lemma begun_direct [Named κ] (goes : n.TakeOff flight p) (config : n.config.maxRedirects = limit)
    (turn : flight.request = r) (asked : r.redirects = 0) (taken : l.diverted = none)
    (direct : ∀ q ∈ n.queue, q.redirects = 0) :
    Bounds limit ((Moment.begun r flight p).2.foldl Lineage.note l) (Moment.begun r flight p).1 := by
  subst turn config
  have counts := goes.counts (by omega)
  simp only [Moment.begun, List.foldl_cons, List.foldl_append, note_landed]
  refine reach counts (goes.underway .here) flight ?_ (by omega) rfl direct
  simp [taken, asked]

/-- The turn of a request that an exit chain has led to. -/
lemma begun_diverted [Named κ] (goes : n.TakeOff flight p) (config : n.config.maxRedirects = limit)
    (turn : flight.request = r) (counts : r.redirects = l.hops.length)
    (bound : l.hops.length ≤ limit + 1) (waits : l.diverted = some r) (way : r.kind = .push)
    (direct : ∀ q ∈ n.queue, q.redirects = 0) :
    Bounds limit ((Moment.begun r flight p).2.foldl Lineage.note l) (Moment.begun r flight p).1 := by
  subst turn config
  simp only [Moment.begun, List.foldl_cons, List.foldl_append, note_landed]
  by_cases within : flight.request.redirects ≤ n.config.maxRedirects
  · refine reach (goes.counts within) (goes.underway .here) flight ?_ within rfl direct
    simp [waits, counts]
  · obtain ⟨n', quiet, rfl⟩ := goes.stopped (Nat.lt_of_not_le within) (by rw [way]; rfl)
    refine stopped quiet rfl flight _ ?_ rfl direct
    simp only [Lineage.note, waits, if_true, List.length_append, List.length_singleton]
    omega

omit [History η] in
/-- An answer that leads nowhere does not make a lineage longer. -/
lemma note_answerEvents {side : Side} {hop : Request} {m : μ} {action : Action}
    (stays : action.isRedirect = false) (l : Lineage) :
    (answerEvents side hop m action p).foldl Lineage.note l = l := by
  cases action with
  | proceed => cases side <;> simp [answerEvents]
  | deny reason => cases side <;> simp [answerEvents]
  | redirect target reason => cases stays

/-- The answer of an exit middleware. -/
lemma exitAnswered {page : ActivePage κ} {leaving : Leaving} {m : μ} {rest : List μ}
    {action : Action} (goes : n.ExitReaction flight page leaving rest action p)
    (bare : n.active = none) (leads : r.Leads flight.request)
    (config : n.config.maxRedirects = limit)
    (counts : flight.request.redirects + 1 = l.hops.length)
    (bound : flight.request.redirects ≤ limit) (taken : l.diverted = none)
    (direct : ∀ q ∈ n.queue, q.redirects = 0) :
    Bounds limit
      ((answerEvents .exit flight.request m action p ++ (Moment.reach r flight p).2).foldl
        Lineage.note l) (Moment.reach r flight p).1 := by
  have underway := goes.underway bare leads
  subst config
  rw [List.foldl_append]
  cases action with
  | proceed =>
    rw [note_answerEvents rfl]
    exact reach (goes.counts rfl) underway flight counts bound taken direct
  | deny reason =>
    rw [note_answerEvents rfl]
    exact reach (goes.counts rfl) underway flight counts bound taken direct
  | redirect target reason =>
    cases goes with
    | redirected quiet =>
      obtain ⟨_, _, rfl⟩ := quiet
      simp only [Moment.reach]
      obtain ⟨_, -, h⟩ := Navigator.quietly_reportServed _ flight
        (.blocked (reason.getD "Redirected") (some target))
      rw [h]
      refine ⟨rfl, .diverted rfl ?_ ?_ rfl rfl direct (by rintro _ ⟨⟩)⟩
      · exact counts
      · simp only [answerEvents, List.foldl_cons, List.foldl_nil, Lineage.note]
        omega

/-- The answer of an entry middleware. -/
lemma entryAnswered [Named κ] {route : Nat} {context : Context κ} {m : μ} {rest : List μ}
    {action : Action} (goes : n.EntryReaction flight route context rest action p)
    (bare : n.active = none) (leads : r.Leads flight.request)
    (config : n.config.maxRedirects = limit)
    (counts : flight.request.redirects + 1 = l.hops.length)
    (bound : flight.request.redirects ≤ limit) (taken : l.diverted = none)
    (direct : ∀ q ∈ n.queue, q.redirects = 0) :
    Bounds limit
      ((answerEvents .entry flight.request m action p ++ (Moment.reach r flight p).2).foldl
        Lineage.note l) (Moment.reach r flight p).1 := by
  have underway := goes.underway bare leads
  subst config
  rw [List.foldl_append]
  cases action with
  | proceed =>
    rw [note_answerEvents rfl]
    exact reach (goes.counts rfl) underway flight counts bound taken direct
  | deny reason =>
    rw [note_answerEvents rfl]
    exact reach (goes.counts rfl) underway flight counts bound taken direct
  | redirect target reason =>
    simp only [answerEvents, List.foldl_cons, note_landed, Lineage.note]
    cases goes with
    | followed quiet goes =>
      obtain ⟨_, _, rfl⟩ := quiet
      by_cases within : flight.request.redirects + 1 ≤ n.config.maxRedirects
      · exact reach (goes.counts within) underway flight (by simp [counts, Request.redirected])
          within taken direct
      · obtain ⟨n', quiet, rfl⟩ := goes.stopped (Nat.lt_of_not_le within) rfl
        refine stopped quiet rfl flight _ ?_ taken direct
        simp only [List.length_append, List.length_singleton]
        omega

/-- Every act keeps the numbers that requests carry right. -/
lemma move [Named μ] [Named κ] {stage : Stage} {a : Act κ}
    {result : Moment μ κ η × List (Event μ)} (bounds : Bounds limit l ⟨n, stage⟩)
    (sound : Moment.Sound ⟨n, stage⟩) (move : Moment.Move n stage a result) :
    Bounds limit (result.2.foldl Lineage.note l) result.1 := by
  obtain ⟨config, bounded⟩ := bounds
  cases move with
  | still other => exact ⟨config, bounded⟩
  | called target goes =>
    have empty : n.queue = [] := sound.2
    cases bounded with
    | resting bound taken =>
      exact begun_direct goes config rfl rfl taken (by simp [empty])
  | queued other quiet =>
    obtain ⟨_, _, rfl⟩ := quiet
    cases bounded with
    | serving doing counts bound taken direct =>
      refine ⟨config, .serving doing counts bound taken fun q mem => ?_⟩
      rcases List.mem_append.mp mem with mem | mem
      · exact direct q mem
      · cases List.mem_singleton.mp mem
        rfl
  | @readdressed push url =>
    cases bounded with
    | resting bound taken =>
      refine ⟨?_, .resting bound taken⟩
      rw [(Navigator.readdressing sound.1 push url).config_eq, config]
  | exitAnswered doing goes =>
    cases doing ▸ sound.2 with
    | exiting leads =>
      cases bounded with
      | serving doing' counts bound taken direct =>
        rw [doing] at doing'
        obtain rfl := Option.some.inj doing'
        exact exitAnswered goes sound.1 leads config counts bound taken direct
  | entryAnswered doing goes =>
    cases doing ▸ sound.2 with
    | entering leads =>
      cases bounded with
      | serving doing' counts bound taken direct =>
        rw [doing] at doing'
        obtain rfl := Option.some.inj doing'
        exact entryAnswered goes sound.1 leads config counts bound taken direct
  | refusalShown doing quiet =>
    cases bounded with
    | serving doing' counts bound taken direct =>
      rw [doing] at doing'
      obtain rfl := Option.some.inj doing'
      obtain ⟨_, told, rfl⟩ := quiet
      exact reach ⟨config, by rintro ⟨⟩, by rintro _ ⟨⟩⟩
        (Navigator.underway_of_settled ⟨_, told, rfl⟩ _) _ counts
        bound taken direct
  | returned queue =>
    cases bounded with
    | served bound taken direct loops => exact ⟨config, .resting bound taken⟩
    | diverted queue' => cases queue.symm.trans queue'
  | dequeued queue quiet goes =>
    obtain ⟨_, _, rfl⟩ := quiet
    cases bounded with
    | served bound taken direct loops =>
      rw [queue] at direct
      exact begun_direct goes config rfl (direct _ (List.mem_cons_self ..)) taken
        fun q mem => direct q (.tail _ mem)
    | diverted queue' counts bound waits way direct holds =>
      obtain ⟨rfl, rfl⟩ := List.cons_eq_cons.mp (queue.symm.trans queue')
      exact begun_diverted goes config rfl counts bound waits way direct
  | @touched _ t =>
    have touched := t.touched n
    obtain ⟨f, activity⟩ := touched.activity
    refine ⟨touched.config ▸ config, ?_⟩
    cases bounded with
    | resting bound taken => exact .resting bound taken
    | serving doing counts bound taken direct =>
      refine .serving ?_ counts bound taken (touched.queue ▸ direct)
      rw [activity, Activity.hop?_edit, doing]
    | served bound taken direct loops =>
      exact .served bound taken (touched.queue ▸ direct) loops
    | diverted queue counts bound waits way direct holds =>
      exact .diverted (touched.queue.trans queue) counts bound waits way direct holds

/-- Every run keeps the numbers that requests carry right. -/
theorem after [Named μ] [Named κ] {m : Moment μ κ η} (bounds : Bounds limit l m) (sound : m.Sound)
    (acts : List (Act κ)) :
    Bounds limit ((m.journal acts).foldl Lineage.note l) (m.after acts) := by
  induction acts generalizing m l with
  | nil => exact bounds
  | cons a acts ih =>
    rw [Moment.journal_cons, List.foldl_append]
    exact ih (bounds.move sound (Moment.move sound a)) (Moment.sound_step sound a)

omit [History η] in
lemma start {s : Setup μ κ η} (built : s.build = .ok n) :
    Bounds s.config.maxRedirects {} (Moment.start n) := by
  obtain rfl := Setup.eq_of_build built
  exact ⟨rfl, .resting (Nat.zero_le _) rfl⟩

end

end Bounds

/-! ### Bounds on redirects -/

/-- No lineage is longer than the limit allows. -/
lemma Bounded.length_le {limit : Nat} {l : Lineage} {m : Moment μ κ η} (bounded : Bounded limit l m) :
    l.hops.length ≤ limit + 1 := by
  cases bounded with
  | resting bound | served bound | diverted _ _ bound => exact bound
  | serving doing counts bound => omega

/-- The request that a middleware is asked for carries the number of those before it. -/
lemma Bounded.redirects_of_asked {limit : Nat} {l : Lineage} {m : Moment μ κ η}
    (bounded : Bounded limit l m) (sound : m.Sound) {side : Side} {hop : Request} {x : μ}
    (asked : m.navigator.asked? = some (side, hop, x)) : hop.redirects + 1 = l.hops.length := by
  have doing := Navigator.hop?_of_asked asked
  cases bounded with
  | serving doing' counts => rwa [Option.some.inj (doing.symm.trans doing')]
  | resting => cases (sound.1 ▸ doing : (Activity.idle : Activity μ κ).hop? = some hop)
  | served | diverted => cases (sound ▸ doing : (Activity.idle : Activity μ κ).hop? = some hop)

/-- A request fails because of redirects only after as many as the limit allows. -/
lemma Bounded.length_of_loop {limit depth : Nat} {l : Lineage} {n : Navigator μ κ η} {r : Request}
    {url : String} {owed : Outcome}
    (bounded : Bounded limit l ⟨n, .served r (.failed (.redirectLoop depth url)) owed⟩) :
    depth = limit ∧ l.hops.length = limit + 1 := by
  cases bounded with
  | served bound taken direct loops => exact loops depth url rfl
  | diverted queue counts bound waits way direct holds => exact absurd rfl (holds _)

/-- Nothing is in progress, and what the user sees is where it was: the history, the page and the
surface that pages are shown on. -/
structure Navigator.Stopped (n n' : Navigator μ κ η) : Prop where
  phase : n'.phase = .idle
  history : n'.history = n.history
  active : n'.active = n.active
  viewport : n'.viewport = n.viewport

lemma Navigator.Stopped.reach {n n' : Navigator μ κ η}
    (quiet : Quietly { n with activity := .idle } n') (r : Request) (flight : Flight)
    (outcome : Outcome) :
    n.Stopped (Moment.reach r flight (n', some outcome)).1.navigator := by
  obtain ⟨_, -, rfl⟩ := quiet
  simp only [Moment.reach]
  obtain ⟨_, -, h⟩ := Navigator.quietly_reportServed _ flight outcome
  rw [h]
  exact ⟨rfl, rfl, rfl, rfl⟩

/-- Between two requests of a call the requests that wait stay where they are. -/
lemma Moment.queue_after_of_served [Named μ] [Named κ] [History η] {m : Moment μ κ η}
    (sound : m.Sound) {r : Request} {outcome owed : Outcome} (ended : m.stage = .served r outcome owed)
    {acts : List (Act κ)} (same : .next ∉ acts) :
    (m.after acts).stage = .served r outcome owed ∧ (m.after acts).navigator.queue = m.navigator.queue ∧
      (m.after acts).navigator.config = m.navigator.config := by
  induction acts generalizing m with
  | nil => exact ⟨ended, rfl, rfl⟩
  | cons a acts ih =>
    obtain ⟨other, same⟩ : (.next : Act κ) ≠ a ∧ .next ∉ acts := by simpa using same
    have step : (m.step a).1.stage = .served r outcome owed ∧
        (m.step a).1.navigator.queue = m.navigator.queue ∧
        (m.step a).1.navigator.config = m.navigator.config := by
      obtain ⟨n, stage⟩ := m
      obtain rfl : stage = .served r outcome owed := ended
      have move := Moment.move sound a
      generalize step ⟨n, .served r outcome owed⟩ a = result at move ⊢
      cases move with
      | still => exact ⟨rfl, rfl, rfl⟩
      | returned | dequeued => exact absurd rfl other
      | touched => exact ⟨rfl, (Touch.touched n _).queue, (Touch.touched n _).config⟩
    obtain ⟨stage, queue, config⟩ := ih (Moment.sound_step sound a) step.1 same
    exact ⟨stage, queue.trans step.2.1, config.trans step.2.2⟩

section

variable [Named μ] [Named κ] [History η]

/-- An entry chain that leads elsewhere beyond the limit ends the request. -/
lemma Moment.stopped_of_entering {n : Navigator μ κ η} {r : Request} {flight : Flight} {route : Nat}
    {context : Context κ} {x : μ} {rest : List μ}
    (doing : n.activity = .entering flight route context (x :: rest))
    (exceeds : n.config.maxRedirects < flight.request.redirects + 1) (target : String)
    (reason : Option String) :
    let m' := (step ⟨n, .serving r⟩ (.answer (.redirect target reason) : Act κ)).1
    n.Stopped m'.navigator ∧
      ∃ owed, m'.stage = .served r (.failed (.redirectLoop n.config.maxRedirects target)) owed := by
  obtain ⟨p, h, goes⟩ := Navigator.react_entering doing (.redirect target reason)
  simp only [step, answer, Navigator.asked?, doing, h]
  cases goes with
  | followed quiet goes =>
    obtain ⟨_, told, rfl⟩ := quiet
    obtain ⟨n', quiet, rfl⟩ := goes.stopped exceeds rfl
    have stopped := Navigator.Stopped.reach quiet r flight
      (.failed (.redirectLoop n.config.maxRedirects target))
    exact ⟨⟨stopped.phase, stopped.history, stopped.active, stopped.viewport⟩, _, rfl⟩

/-- An exit chain that leads elsewhere keeps its page, and the target is the next to have its turn.
-/
lemma Moment.diverted_of_exiting {n : Navigator μ κ η} {r : Request} {flight : Flight}
    {page : ActivePage κ} {leaving : Leaving} {x : μ} {rest : List μ}
    (doing : n.activity = .exiting flight page leaving (x :: rest)) (target : String)
    (reason : Option String) :
    let m' := (step ⟨n, .serving r⟩ (.answer (.redirect target reason) : Act κ)).1
    m'.navigator.phase = .idle ∧ m'.navigator.history = n.history ∧
      m'.navigator.viewport = n.viewport ∧ m'.navigator.config = n.config ∧
      m'.navigator.queue = flight.request.redirected target .push :: n.queue ∧
      ∃ outcome owed, m'.stage = .served r outcome owed := by
  obtain ⟨p, h, goes⟩ := Navigator.react_exiting doing (.redirect target reason)
  simp only [step, answer, Navigator.asked?, doing, h]
  cases goes with
  | redirected quiet =>
    obtain ⟨_, told, rfl⟩ := quiet
    simp only [reach]
    obtain ⟨_, -, h⟩ := Navigator.quietly_reportServed _ flight
      (.blocked (reason.getD "Redirected") (some target))
    rw [h]
    exact ⟨rfl, rfl, rfl, rfl, rfl, _, _, rfl⟩

/-- The turn of a request beyond the limit ends at once. -/
lemma Moment.stopped_of_next {m : Moment μ κ η} {r r' : Request} {outcome owed : Outcome}
    {rest : List Request} (ended : m.stage = .served r outcome owed)
    (queue : m.navigator.queue = r' :: rest) (exceeds : m.navigator.config.maxRedirects < r'.redirects)
    (way : r'.kind.offset? = none) :
    m.navigator.Stopped (m.step .next).1.navigator ∧ ∃ owed, (m.step .next).1.stage =
      .served r' (.failed (.redirectLoop m.navigator.config.maxRedirects r'.url)) owed := by
  have turn : m.upcoming? (.next : Act κ) = some r' := by
    simp only [upcoming?, ended, queue, List.head?_cons]
  obtain ⟨n', flight, p, accepted, rfl, quiet, goes, -, began⟩ := step_of_upcoming turn
  obtain ⟨_, -, rfl⟩ := quiet
  rw [began]
  obtain ⟨n'', quiet, rfl⟩ := goes.stopped exceeds way
  have stopped := Navigator.Stopped.reach quiet flight.request flight
    (.failed (.redirectLoop m.navigator.config.maxRedirects flight.request.url))
  exact ⟨⟨stopped.phase, stopped.history, stopped.active, stopped.viewport⟩, _, rfl⟩

/-- An exit chain that leads elsewhere beyond the limit keeps its page, and the target ends as soon
as it has its turn. -/
lemma Moment.stopped_of_exiting {n : Navigator μ κ η} {r : Request}
    (sound : Moment.Sound ⟨n, .serving r⟩) {flight : Flight} {page : ActivePage κ} {leaving : Leaving}
    {x : μ} {rest : List μ} (doing : n.activity = .exiting flight page leaving (x :: rest))
    (last : flight.request.redirects = n.config.maxRedirects) (target : String)
    (reason : Option String) :
    let limit := n.config.maxRedirects
    let m' := (step ⟨n, .serving r⟩ (.answer (.redirect target reason) : Act κ)).1
    m'.navigator.phase = .idle ∧ m'.navigator.history = n.history ∧
      m'.navigator.viewport = n.viewport ∧
      m'.navigator.queue = ⟨target, .push, limit + 1⟩ :: n.queue ∧
      ∀ acts, .next ∉ acts →
        let m'' := m'.after acts
        m''.navigator.Stopped (m''.step .next).1.navigator ∧ ∃ owed, (m''.step .next).1.stage =
          .served ⟨target, .push, limit + 1⟩ (.failed (.redirectLoop limit target)) owed := by
  intro limit m'
  obtain ⟨idle, history, viewport, config, queue, outcome, owed, ended⟩ :=
    diverted_of_exiting (r := r) doing target reason
  have redirected : flight.request.redirected target .push = ⟨target, .push, limit + 1⟩ := by
    rw [Request.redirected, last]
  rw [redirected] at queue
  refine ⟨idle, history, viewport, queue, fun acts same => ?_⟩
  obtain ⟨stage, queue', config'⟩ := queue_after_of_served (sound_step sound _) ended same
  have bound : (m'.after acts).navigator.config.maxRedirects = limit :=
    congrArg (·.maxRedirects) (config'.trans config)
  have stopped := stopped_of_next stage (queue'.trans queue) (bound ▸ Nat.lt_succ_self limit) rfl
  rwa [bound] at stopped

end

/-- Redirects are bounded. A request that was asked for and all those that chains have led it to are
at most one more than the settings allow redirects: the request whose chain runs carries the number
of those before it. A request fails because of redirects only if there were that many.

So let a middleware redirect that runs for the last of them. If it is one of an entry chain, the
request fails with the target of the redirect. If it is one of an exit chain, its page is kept, the
target has the very next turn, and that fails with the target. In both cases nothing is in progress
afterwards, and the step that fails has left the history, the page and the surface as they were. -/
theorem redirects_bounded [Named μ] [Named κ] [History η] {s : Setup μ κ η} {n : Navigator μ κ η}
    (built : s.build = .ok n) (acts : List (Act κ)) :
    let d := s.config.maxRedirects
    let m := (Moment.start n).after acts
    let hops := (lineageOf ((Moment.start n).journal acts)).hops
    hops.length ≤ d + 1 ∧
    (∀ side hop x, m.navigator.asked? = some (side, hop, x) → hop.redirects + 1 = hops.length) ∧
    (∀ r depth url owed, m.stage = .served r (.failed (.redirectLoop depth url)) owed →
      depth = d ∧ hops.length = d + 1) ∧
    ∀ r side hop x target reason, m.stage = .serving r →
      m.navigator.asked? = some (side, hop, x) → hops.length = d + 1 →
      let m' := (m.step (.answer (.redirect target reason))).1
      match side with
      | .entry => m.navigator.Stopped m'.navigator ∧
        ∃ owed, m'.stage = .served r (.failed (.redirectLoop d target)) owed
      | .exit => m'.navigator.phase = .idle ∧ m'.navigator.history = m.navigator.history ∧
        m'.navigator.viewport = m.navigator.viewport ∧
        m'.navigator.queue = ⟨target, .push, d + 1⟩ :: m.navigator.queue ∧
        ∀ acts', .next ∉ acts' →
          let m'' := m'.after acts'
          m''.navigator.Stopped (m''.step .next).1.navigator ∧ ∃ owed, (m''.step .next).1.stage =
            .served ⟨target, .push, d + 1⟩ (.failed (.redirectLoop d target)) owed := by
  intro d m hops
  have start := Moment.sound_start built
  have sound : m.Sound := Moment.sound_after start acts
  have bounds : Bounds d (lineageOf ((Moment.start n).journal acts)) m :=
    (Bounds.start built).after start acts
  generalize m = m at sound bounds ⊢
  obtain ⟨n', stage⟩ := m
  obtain ⟨config, bounded⟩ := bounds
  refine ⟨bounded.length_le, fun side hop x asked => bounded.redirects_of_asked sound asked, ?_, ?_⟩
  · rintro r depth url owed rfl
    exact bounded.length_of_loop
  · rintro r side hop x target reason rfl asked full
    have counts := bounded.redirects_of_asked sound asked
    have last : hop.redirects = n'.config.maxRedirects :=
      Nat.succ.inj (counts.trans (full.trans (congrArg Nat.succ config.symm)))
    cases side with
    | entry =>
      obtain ⟨flight, route, context, rest, doing, rfl⟩ := Navigator.entering_of_asked asked
      have exceeds : n'.config.maxRedirects < flight.request.redirects + 1 :=
        last ▸ Nat.lt_succ_self flight.request.redirects
      have stopped := Moment.stopped_of_entering (r := r) doing exceeds target reason
      rwa [config] at stopped
    | exit =>
      obtain ⟨flight, page, leaving, rest, doing, rfl⟩ := Navigator.exiting_of_asked asked
      have stopped := Moment.stopped_of_exiting sound doing last target reason
      rwa [config] at stopped

/-- A page that may be left for another one only, which leads on. The first redirect is that of an
exit chain, the second one that of an entry chain, the third one is once too often. -/
theorem redirects_bounded_mixed :
    let s : Setup String String MemoryHistory :=
      { config := { maxRedirects := 2 }
        routes := [{ (Route.catchAll : Route String) with entry := ["guard"], exit := ["ask"] }]
        history := {} }
    let acts : List (Act String) :=
      [.call (.start "/a"), .answer .proceed, .next, .call (.push "/b"), .answer (.redirect "/c" none),
        .next, .answer .proceed, .answer (.redirect "/d" none)]
    ∃ n, s.build = .ok n ∧
      let m := (Moment.start n).after acts
      let m' := (m.step (.answer (.redirect "/e" none))).1
      (lineageOf ((Moment.start n).journal acts)).hops =
        [⟨"/b", .push, 0⟩, ⟨"/c", .push, 1⟩, ⟨"/d", .replace, 2⟩] ∧
      m.navigator.Stopped m'.navigator ∧
      ∃ owed, m'.stage = .served ⟨"/c", .push, 1⟩ (.failed (.redirectLoop 2 "/e")) owed := by
  intro s acts
  have built : s.build = .ok _ := rfl
  obtain ⟨-, -, -, stops⟩ := redirects_bounded (κ := String) built acts
  exact ⟨_, built, by decide, stops ⟨"/c", .push, 1⟩ .entry ⟨"/d", .replace, 2⟩ "guard" "/e" none
    (by decide) (by decide) (by decide)⟩

end Wayfinder
