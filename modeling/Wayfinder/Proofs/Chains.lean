/-
Chains of middlewares.

A request runs two chains: the exit chain of the page that is shown and the entry chain of the route
that it comes to, each made of a part for all routes and a part for one. A redirect of an entry chain
leads on to another URL, where the same begins anew, now without a page to leave. Let a hop be the
request or what such a redirect has led it to.

What runs of a chain is told by stamps, and `Ran` is the law of one chain: it stops at the first
middleware that does not let the navigation go on, and every middleware begins on the context that the
one before has left behind. Two chains that run one after the other are one chain (`Ran.append_iff`).

* `Passage`, `Hop`: what may run for a hop, and what comes of it.
* `Moment.hop?`, `Moment.record`: where hops begin in a run, and what runs in it.
* `Abroad.move`: what an act adds to the stamps of a hop.
* `chains_stop_at_first_answer`: every run keeps to the law.
-/
import Wayfinder.Proofs.Decoding
import Wayfinder.Proofs.Undone

namespace Wayfinder

variable {μ κ η : Type}

/-! ### One chain -/

/-- What is noticed of a middleware. -/
inductive Stamp (μ κ : Type) where
  /-- It begins to run on a context. -/
  | runs (side : Side) (middleware : μ) (sees : Context κ)
  /-- It answers and leaves a context behind. -/
  | answers (side : Side) (middleware : μ) (leaves : Context κ) (action : Action)

/-- How a chain has come to stand still. -/
inductive Ending (μ κ : Type) where
  /-- All its middlewares let the navigation go on. -/
  | through (leaves : Context κ)
  /-- A middleware has not answered yet. -/
  | waits (middleware : μ)
  /-- A middleware has answered something else. -/
  | stopped (leaves : Context κ) (action : Action)

/-- The stamps of a chain that runs on a context. -/
inductive Ran (side : Side) : List μ → Context κ → List (Stamp μ κ) → Ending μ κ → Prop
  /-- There is nothing to run. -/
  | through (c : Context κ) : Ran side [] c [] (.through c)
  /-- The first middleware runs. -/
  | waits (x : μ) (rest : List μ) (c : Context κ) :
      Ran side (x :: rest) c [.runs side x c] (.waits x)
  /-- It stops the chain. -/
  | stopped {x : μ} {rest : List μ} {c c' : Context κ} {action : Action} (stops : action ≠ .proceed) :
      Ran side (x :: rest) c [.runs side x c, .answers side x c' action] (.stopped c' action)
  /-- It lets the navigation go on, and the others run on what it has left behind. -/
  | goesOn {x : μ} {rest : List μ} {c c' : Context κ} {stamps : List (Stamp μ κ)}
      {ending : Ending μ κ} (behind : Ran side rest c' stamps ending) :
      Ran side (x :: rest) c (.runs side x c :: .answers side x c' .proceed :: stamps) ending

/-- The middleware that a stamp says to begin on a side. -/
def Stamp.runsOn? (side : Side) : Stamp μ κ → Option μ
  | runs side' x _ => if side' = side then some x else none
  | answers .. => none

/-- The middlewares that have begun on a side. -/
abbrev ranOn (side : Side) (stamps : List (Stamp μ κ)) : List μ := stamps.filterMap (·.runsOn? side)

namespace Ran

variable {side : Side} {a b chain : List μ} {c c' : Context κ} {stamps first second : List (Stamp μ κ)}
  {ending : Ending μ κ}

/-- A chain that is through is followed by the next one. -/
lemma append (before : Ran side a c first (.through c')) (behind : Ran side b c' second ending) :
    Ran side (a ++ b) c (first ++ second) ending := by
  induction a generalizing c first with
  | nil =>
    cases before
    exact behind
  | cons x a ih =>
    cases before with
    | goesOn before => exact .goesOn (ih before)

/-- A chain that is not through keeps the next one from running. -/
lemma append_of_ne (ran : Ran side a c stamps ending) (short : ∀ c', ending ≠ .through c') :
    Ran side (a ++ b) c stamps ending := by
  induction ran with
  | through c => exact absurd rfl (short c)
  | waits x rest c => exact .waits x (rest ++ b) c
  | stopped stops => exact .stopped stops
  | goesOn behind ih => exact .goesOn (ih short)

/-- Two chains that run one after the other run as one chain. -/
theorem append_iff : Ran side (a ++ b) c stamps ending ↔
    (∃ c' first second, Ran side a c first (.through c') ∧ Ran side b c' second ending ∧
      stamps = first ++ second) ∨ Ran side a c stamps ending ∧ ∀ c', ending ≠ .through c' := by
  constructor
  · intro ran
    induction a generalizing c stamps with
    | nil => exact .inl ⟨c, [], stamps, .through c, ran, rfl⟩
    | cons x a ih =>
      cases ran with
      | waits => exact .inr ⟨.waits x a c, nofun⟩
      | stopped stops => exact .inr ⟨.stopped stops, nofun⟩
      | goesOn later =>
        rcases ih later with ⟨c', first, second, before, behind, rfl⟩ | ⟨alone, short⟩
        · exact .inl ⟨c', _, second, .goesOn before, behind, rfl⟩
        · exact .inr ⟨.goesOn alone, short⟩
  · rintro (⟨c', first, second, before, behind, rfl⟩ | ⟨alone, short⟩)
    · exact before.append behind
    · exact alone.append_of_ne short

/-- What has begun of a chain is its beginning. -/
lemma isPrefix (ran : Ran side chain c stamps ending) : ranOn side stamps <+: chain := by
  induction ran with
  | through => exact List.nil_prefix
  | waits x rest | @stopped x rest => exact ⟨rest, by simp [ranOn, Stamp.runsOn?]⟩
  | goesOn behind ih => simpa [ranOn, Stamp.runsOn?] using ih

/-- On the other side nothing has begun. -/
lemma ranOn_ne {side' : Side} (other : side ≠ side') (ran : Ran side chain c stamps ending) :
    ranOn side' stamps = [] := by
  induction ran with
  | through => rfl
  | waits | stopped => simp [ranOn, Stamp.runsOn?, other]
  | goesOn behind ih => simpa [ranOn, Stamp.runsOn?, other] using ih

end Ran

/-- A middleware of a chain runs, and `rest` are those behind it. -/
def Pending (side : Side) (chain : List μ) (c : Context κ) (stamps : List (Stamp μ κ)) (x : μ)
    (rest : List μ) : Prop :=
  ∃ done first c', chain = done ++ x :: rest ∧ Ran side done c first (.through c') ∧
    stamps = first ++ [.runs side x c']

namespace Pending

variable {side : Side} {chain rest : List μ} {c : Context κ} {stamps : List (Stamp μ κ)} {x y : μ}

lemma start (x : μ) (rest : List μ) (c : Context κ) :
    Pending side (x :: rest) c [.runs side x c] x rest :=
  ⟨[], [], c, rfl, .through c, rfl⟩

lemma ran (pending : Pending side chain c stamps x rest) : Ran side chain c stamps (.waits x) := by
  obtain ⟨done, first, c', rfl, before, rfl⟩ := pending
  exact before.append (.waits x rest c')

/-- It stops the chain. -/
lemma stops (pending : Pending side chain c stamps x rest) (c' : Context κ) {action : Action}
    (stops : action ≠ .proceed) :
    Ran side chain c (stamps ++ [.answers side x c' action]) (.stopped c' action) := by
  obtain ⟨done, first, c₁, rfl, before, rfl⟩ := pending
  rw [List.append_assoc]
  exact before.append (.stopped stops)

/-- It lets the navigation go on, and it was the last one. -/
lemma through (pending : Pending side chain c stamps x []) (c' : Context κ) :
    Ran side chain c (stamps ++ [.answers side x c' .proceed]) (.through c') := by
  obtain ⟨done, first, c₁, rfl, before, rfl⟩ := pending
  rw [List.append_assoc]
  exact before.append (.goesOn (.through c'))

/-- It lets the navigation go on, and the next one begins. -/
lemma next (pending : Pending side chain c stamps x (y :: rest)) (c' : Context κ) :
    Pending side chain c (stamps ++ [.answers side x c' .proceed, .runs side y c']) y rest := by
  obtain ⟨done, first, c₁, rfl, before, rfl⟩ := pending
  refine ⟨done ++ [x], first ++ [.runs side x c₁, .answers side x c' .proceed], c', by simp, ?_,
    by simp⟩
  exact before.append (.goesOn (.through c'))

end Pending

/-! ### One hop -/

/-- What has come of a hop. -/
inductive Fate where
  /-- A middleware is to answer. -/
  | waits
  /-- Entry was refused, and a controller is to show why. -/
  | refused (reason : String)
  /-- The request has ended. -/
  | ended (outcome : Outcome)
  /-- An entry chain has led on. -/
  | led (hop : Request)

/-- The outcome of a request that has ended. -/
@[simp] def Fate.endings : Fate → List Outcome
  | ended outcome => [outcome]
  | _ => []

/-- What an entry chain does to a hop by the way it has come to stand still. -/
inductive Ending.Leads (hop : Request) : Ending μ κ → Fate → Prop
  | through (c : Context κ) : Leads hop (.through c) (.ended (.success hop.url))
  | waits (x : μ) : Leads hop (.waits x) .waits
  /-- A controller is to show why entry is refused, -/
  | refused (c : Context κ) (reason : String) : Leads hop (.stopped c (.deny reason)) (.refused reason)
  /-- and then the request ends; or there is no controller. -/
  | denied (c : Context κ) (reason : String) :
      Leads hop (.stopped c (.deny reason)) (.ended (.blocked reason none))
  | redirected (c : Context κ) (target : String) (reason : Option String) :
      Leads hop (.stopped c (.redirect target reason)) (.led (hop.redirected target .replace))

/-- The middlewares that are asked before a page is left, if there is one. -/
def RouteTable.exitPart (t : RouteTable μ) (page : Option (ActivePage κ)) : List μ :=
  page.elim [] fun page => t.exitChain page.route

/-- What has run of them on the context of the page. -/
def Left (t : RouteTable μ) (page : Option (ActivePage κ)) (stamps : List (Stamp μ κ))
    (ending : Ending μ κ) : Prop :=
  ∃ c, (∀ p, page = some p → p.context = c) ∧ Ran .exit (t.exitPart page) c stamps ending

/-- What has run for a hop that departs from a page, or from none, and what has come of it. -/
inductive Passage (t : RouteTable μ) (page : Option (ActivePage κ)) (hop : Request) :
    List (Stamp μ κ) → Fate → Prop
  /-- The page is being left. -/
  | leaving {stamps : List (Stamp μ κ)} {x : μ} (left : Left t page stamps (.waits x)) :
      Passage t page hop stamps .waits
  /-- A middleware has kept the page. -/
  | kept {stamps : List (Stamp μ κ)} {c : Context κ} {action : Action} {outcome : Outcome}
      (left : Left t page stamps (.stopped c action)) (refuses : action.refusal? = some outcome) :
      Passage t page hop stamps (.ended outcome)
  /-- The page has been left for a URL without a route. -/
  | lost {stamps : List (Stamp μ κ)} {c : Context κ} (left : Left t page stamps (.through c))
      (nowhere : t.firstMatch hop.url = none) : Passage t page hop stamps (.ended (.notFound hop.url))
  /-- The page has been left for a route. -/
  | entering {exits entries : List (Stamp μ κ)} {c : Context κ} {m : RouteMatch} {flight : Flight}
      {state : HistoryState} {ending : Ending μ κ} {fate : Fate} (left : Left t page exits (.through c))
      (found : t.firstMatch hop.url = some m) (fresh : flight.request = hop)
      (ran : Ran .entry (t.entryChain m.index)
        (Navigator.fillIn t (Navigator.freshContext flight state) m) entries ending)
      (leads : ending.Leads hop fate) : Passage t page hop (exits ++ entries) fate

/-- What has run for a hop, and what has come of it. `target?` is the request with its URL looked up,
`limit` is how many redirects may lead to it, and `page` is the page that it departs from. -/
inductive Hop (t : RouteTable μ) (limit : Nat) (target? : Option Request)
    (page : Option (ActivePage κ)) : List (Stamp μ κ) → Fate → Prop
  /-- There is nowhere to go. -/
  | dropped (nowhere : target? = none) :
      Hop t limit target? page [] (.ended (.blocked "No history entry to go to" none))
  /-- Too many redirects have led here. -/
  | looped {hop : Request} (located : target? = some hop) (exceeds : limit < hop.redirects) :
      Hop t limit target? page [] (.ended (.failed (.redirectLoop limit hop.url)))
  /-- The hop departs. -/
  | departs {hop : Request} {stamps : List (Stamp μ κ)} {fate : Fate} (located : target? = some hop)
      (within : hop.redirects ≤ limit) (passage : Passage t page hop stamps fate) :
      Hop t limit target? page stamps fate

section

variable {t : RouteTable μ} {limit : Nat} {target? : Option Request} {page : Option (ActivePage κ)}
  {hop : Request} {stamps : List (Stamp μ κ)} {fate : Fate} {ending : Ending μ κ}

lemma Left.isPrefix (left : Left t page stamps ending) : ranOn .exit stamps <+: t.exitPart page := by
  obtain ⟨_, -, ran⟩ := left
  exact ran.isPrefix

/-- What has run before the page is left is the beginning of what is to run. -/
lemma Hop.exits_isPrefix (ran : Hop t limit target? page stamps fate) :
    ranOn .exit stamps <+: t.exitPart page := by
  cases ran with
  | dropped | looped => exact List.nil_prefix
  | departs _ _ passage =>
    cases passage with
    | leaving left | kept left | lost left => exact left.isPrefix
    | @entering exits entries _ _ _ _ _ _ left _ _ ran =>
      have apart : entries.filterMap (·.runsOn? .exit) = [] := ran.ranOn_ne (by decide)
      rw [ranOn, List.filterMap_append, apart, List.append_nil]
      exact left.isPrefix

/-- A refusal that has been shown is the end. -/
lemma Passage.shown {reason : String} (passage : Passage t page hop stamps (.refused reason)) :
    Passage t page hop stamps (.ended (.blocked reason none)) := by
  cases passage with
  | entering left found fresh ran leads =>
    cases leads
    exact .entering left found fresh ran (.denied _ reason)

end

/-! ### Runs -/

/-- The outcome of a request that an event ends. -/
@[simp] def Event.ending? : Event μ → Option Outcome
  | ended _ outcome => some outcome
  | _ => none

/-- The outcomes of the requests that have ended, in order. -/
abbrev endingsIn (journal : List (Event μ)) : List Outcome := gather Event.ending? journal

lemma endingsIn_landed (p : Navigator.Progress μ κ η) : endingsIn (Navigator.landed p) = [] :=
  Navigator.gather_landed (fun _ => rfl) p

/-- No answer says that a request has ended. -/
lemma endingsIn_answerEvents (side : Side) (hop : Request) (x : μ) (action : Action)
    (p : Navigator.Progress μ κ η) : endingsIn (answerEvents side hop x action p) = [] := by
  unfold answerEvents
  split <;> simp [endingsIn_landed]

namespace Navigator

/-- The middleware that runs begins to. -/
def begins (n : Navigator μ κ η) : List (Stamp μ κ) :=
  match n.activity with
  | .exiting _ page _ (x :: _) => [.runs .exit x page.context]
  | .entering _ _ context (x :: _) => [.runs .entry x context]
  | _ => []

/-- The middleware that was running has answered, if the first one of some events says so. -/
def answered (n : Navigator μ κ η) (events : List (Event μ)) : List (Stamp μ κ) :=
  match events, n.runningContext? with
  | .answered side _ x action :: _, some c => [.answers side x c action]
  | _, _ => []

lemma answered_eq {n : Navigator μ κ η} {side : Side} {hop : Request} {x : μ} {action : Action}
    {p : Progress μ κ η} {events : List (Event μ)} {c : Context κ}
    (sees : n.runningContext? = some c) :
    n.answered (answerEvents side hop x action p ++ events) = [.answers side x c action] := by
  simp only [answered, answerEvents, sees, List.cons_append]

end Navigator

namespace Moment

variable [Named μ] [Named κ] [History η]

/-- The hop that an act begins by an answer that leads on. -/
def led? (m : Moment μ κ η) : Act κ → Option Request
  | .answer (.redirect target _) =>
    match m.navigator.activity with
    | .entering flight _ _ (_ :: _) => some (flight.request.redirected target .replace)
    | _ => none
  | _ => none

/-- The hop that an act begins: the turn of a request, or what an entry chain leads it to. -/
def hop? (m : Moment μ κ η) (a : Act κ) : Option Request := (m.upcoming? a).or (m.led? a)

/-- The hops that begin in a run. -/
def hops (m : Moment μ κ η) : List (Act κ) → List Request
  | [] => []
  | a :: acts => (m.hop? a).toList ++ (m.step a).1.hops acts

/-- What is noticed of the middlewares when the navigator `n` comes to a moment with some events: one
may have answered, and then the next one may begin. -/
def noticed (n : Navigator μ κ η) (result : Moment μ κ η × List (Event μ)) : List (Stamp μ κ) :=
  match n.answered result.2 with
  | [] => []
  | stamp :: _ => stamp :: result.1.navigator.begins

omit [Named μ] [Named κ] [History η] in
lemma noticed_eq_nil {n : Navigator μ κ η} {result : Moment μ κ η × List (Event μ)}
    (none : n.answered result.2 = []) : noticed n result = [] := by
  rw [noticed, none]

omit [Named μ] [Named κ] [History η] in
lemma noticed_answer {n : Navigator μ κ η} {side : Side} {hop : Request} {x : μ} {action : Action}
    {p : Navigator.Progress μ κ η} {events : List (Event μ)} {c : Context κ} {m' : Moment μ κ η}
    (sees : n.runningContext? = some c) :
    noticed n (m', answerEvents side hop x action p ++ events) =
      .answers side x c action :: m'.navigator.begins := by
  rw [noticed, Navigator.answered_eq sees]

/-- What is noticed in a run. -/
def record (m : Moment μ κ η) : List (Act κ) → List (Stamp μ κ)
  | [] => []
  | a :: acts => noticed m.navigator (m.step a) ++ (m.step a).1.record acts

end Moment

/-! ### The moments of a hop -/

/-- How far a hop has come: `stamps` are those since it began, and `journal` is what has happened. -/
inductive Abroad (t : RouteTable μ) (limit : Nat) (target? : Option Request)
    (page : Option (ActivePage κ)) (journal : List (Event μ)) :
    List (Stamp μ κ) → Moment μ κ η → Prop
  /-- The page is being left. -/
  | leaving {n r flight page' leaving x rest c stamps}
      (doing : n.activity = .exiting flight page' leaving (x :: rest))
      (located : target? = some flight.request) (within : flight.request.redirects ≤ limit)
      (sees : ∀ p, page = some p → p.context = c)
      (pending : Pending .exit (t.exitPart page) c stamps x rest) (open_ended : endingsIn journal = []) :
      Abroad t limit target? page journal stamps ⟨n, .serving r⟩
  /-- A route is being entered. -/
  | entering {n r flight state route context x rest c exits entries m}
      (doing : n.activity = .entering flight route context (x :: rest))
      (located : target? = some flight.request) (within : flight.request.redirects ≤ limit)
      (left : Left t page exits (.through c)) (found : t.firstMatch flight.request.url = some m)
      (pending : Pending .entry (t.entryChain m.index)
        (Navigator.fillIn t (Navigator.freshContext flight state) m) entries x rest)
      (open_ended : endingsIn journal = []) :
      Abroad t limit target? page journal (exits ++ entries) ⟨n, .serving r⟩
  /-- A refusal is being shown. -/
  | refused {n r flight route context reason stamps}
      (doing : n.activity = .refused flight route context reason)
      (located : target? = some flight.request) (within : flight.request.redirects ≤ limit)
      (passage : Passage t page flight.request stamps (.refused reason))
      (open_ended : endingsIn journal = []) :
      Abroad t limit target? page journal stamps ⟨n, .serving r⟩
  /-- The request has ended. -/
  | done {n stage outcome stamps} (ran : Hop t limit target? page stamps (.ended outcome))
      (still : ∀ r, stage ≠ .serving r) (ended : endingsIn journal = [outcome]) :
      Abroad t limit target? page journal stamps ⟨n, stage⟩

namespace Abroad

variable {t : RouteTable μ} {limit : Nat} {target? : Option Request} {page : Option (ActivePage κ)}
  {journal : List (Event μ)} {stamps : List (Stamp μ κ)}

/-- A hop ends. -/
lemma closes {n : Navigator μ κ η} {outcome : Outcome} (r : Request) (flight : Flight)
    (ran : Hop t limit target? page stamps (.ended outcome)) (open_ended : endingsIn journal = []) :
    Abroad t limit target? page (journal ++ (Moment.reach r flight (n, some outcome)).2) stamps
      (Moment.reach r flight (n, some outcome)).1 :=
  .done ran nofun (by simp [open_ended, Moment.reach])

/-- A hop ends, and nothing begins to run. -/
lemma ends {n : Navigator μ κ η} {outcome : Outcome} (r : Request) (flight : Flight)
    (ran : Hop t limit target? page stamps (.ended outcome)) (idle : n.activity = .idle)
    (open_ended : endingsIn journal = []) :
    Abroad t limit target? page (journal ++ (Moment.reach r flight (n, some outcome)).2)
      (stamps ++ (Moment.reach r flight (n, some outcome)).1.navigator.begins)
      (Moment.reach r flight (n, some outcome)).1 := by
  have none_begins : (Moment.reach r flight (n, some outcome)).1.navigator.begins = [] := by
    obtain ⟨_, -, h⟩ := n.quietly_reportServed flight outcome
    simp only [Moment.reach, h, Navigator.begins, idle]
  rw [none_begins, List.append_nil]
  exact closes r flight ran open_ended

/-- A hop waits, and no more than the context of the running middleware changes. -/
lemma keeps {n n' : Navigator μ κ η} {stage : Stage} {events : List (Event μ)}
    (abroad : Abroad t limit target? page journal stamps ⟨n, stage⟩) (f : Context κ → Context κ)
    (activity : n'.activity = n.activity.edit f) (quiet : endingsIn events = []) :
    Abroad t limit target? page (journal ++ events) stamps ⟨n', stage⟩ := by
  have same : endingsIn (journal ++ events) = endingsIn journal := by simp [quiet]
  cases abroad with
  | leaving doing located within sees pending open_ended =>
    exact .leaving (activity.trans (congrArg _ doing)) located within sees pending
      (same.trans open_ended)
  | entering doing located within left found pending open_ended =>
    exact .entering (activity.trans (congrArg _ doing)) located within left found pending
      (same.trans open_ended)
  | refused doing located within passage open_ended =>
    exact .refused (activity.trans (congrArg _ doing)) located within passage (same.trans open_ended)
  | done ran still ended => exact .done ran still (same.trans ended)

/-- A request has ended, and no other one is served. -/
lemma rests {m m' : Moment μ κ η} {events : List (Event μ)}
    (abroad : Abroad t limit target? page journal stamps m) (still : ∀ r, m.stage ≠ .serving r)
    (still' : ∀ r, m'.stage ≠ .serving r) (quiet : endingsIn events = []) :
    Abroad t limit target? page (journal ++ events) stamps m' := by
  cases abroad with
  | leaving | entering | refused => exact absurd rfl (still _)
  | done ran _ ended => exact .done ran still' (by simp [quiet, ended])

section

variable [Named κ] [History η] {n : Navigator μ κ η} {flight : Flight}
  {p : Navigator.Progress μ κ η}

omit [Named κ] in
/-- A page has been left, or there was none, and the URL is looked up. -/
lemma arrives {c : Context κ} (goes : n.Arrival flight p) (used : t.Used n.table) (r : Request)
    (flight' : Flight) (located : target? = some flight.request)
    (within : flight.request.redirects ≤ limit) (left : Left t page stamps (.through c))
    (open_ended : endingsIn journal = []) :
    Abroad t limit target? page (journal ++ (Moment.reach r flight' p).2)
      (stamps ++ (Moment.reach r flight' p).1.navigator.begins) (Moment.reach r flight' p).1 := by
  cases goes with
  | notFound put aim found quiet =>
    obtain ⟨_, -, rfl⟩ := quiet
    have nowhere := (used.resolve found).1.symm
    exact ends r flight' (.departs located within (.lost left nowhere)) rfl open_ended
  | @waits history state scroll target table m x rest n' put aim found chain quiet =>
    obtain ⟨_, -, rfl⟩ := quiet
    obtain ⟨first, used'⟩ := used.resolve found
    rw [used'.entryChain_eq] at chain
    have fills : Navigator.fillIn table (Navigator.freshContext flight state : Context κ) m =
        Navigator.fillIn t (Navigator.freshContext flight state) m := by
      -- A lookup changes what the table remembers, and never its routes.
      rw [Navigator.fillIn, Navigator.fillIn, used'.routes]
    have pending : Pending .entry (t.entryChain m.index)
        (Navigator.fillIn t (Navigator.freshContext flight state : Context κ) m)
        [.runs .entry x (Navigator.fillIn table (Navigator.freshContext flight state) m)] x rest := by
      rw [chain, fills]
      exact .start x rest _
    exact .entering rfl located within left first.symm pending (by simp [open_ended, Moment.reach])
  | @entered history state scroll target table m n' put aim found chain quiet =>
    obtain ⟨_, -, rfl⟩ := quiet
    obtain ⟨first, used'⟩ := used.resolve found
    rw [used'.entryChain_eq] at chain
    let fresh : Context κ := Navigator.fillIn t (Navigator.freshContext flight state) m
    have ran : Ran .entry (t.entryChain m.index) fresh [] (.through fresh) := by
      rw [chain]
      exact .through fresh
    have passage : Passage t page flight.request (stamps ++ [])
        (.ended (.success flight.request.url)) :=
      .entering left first.symm rfl ran (.through fresh)
    rw [List.append_nil] at passage
    exact ends r flight' (.departs located within passage) rfl open_ended

/-- A hop begins. -/
lemma takesOff (goes : n.TakeOff flight p) (used : t.Used n.table)
    (config : n.config.maxRedirects = limit) (r : Request) (flight' : Flight)
    (open_ended : endingsIn journal = []) :
    Abroad t limit (n.located? flight.request) (n.active.map n.leavingPage)
      (journal ++ (Moment.reach r flight' p).2) (Moment.reach r flight' p).1.navigator.begins
      (Moment.reach r flight' p).1 := by
  subst config
  rw [← List.nil_append (Moment.reach r flight' p).1.navigator.begins]
  cases goes with
  | dropped target quiet =>
    obtain ⟨_, -, rfl⟩ := quiet
    exact ends r flight' (.dropped target) rfl open_ended
  | looped target exceeds quiet =>
    obtain ⟨_, -, rfl⟩ := quiet
    exact ends r flight' (.looped target exceeds) rfl open_ended
  | departs target within goes =>
    cases goes with
    | fresh shown quiet goes =>
      obtain ⟨_, -, rfl⟩ := quiet
      have left : Left t (n.active.map n.leavingPage) ([] : List (Stamp μ κ))
          (.through (Navigator.freshContext flight {})) := by
        rw [shown]
        exact ⟨_, nofun, .through _⟩
      exact arrives goes used r flight' target within left open_ended
    | @waits page x rest n' shown chain quiet =>
      obtain ⟨_, -, rfl⟩ := quiet
      rw [used.exitChain_eq] at chain
      have pending : Pending .exit (t.exitPart (n.active.map n.leavingPage))
          (n.leavingPage page).context [.runs .exit x (n.leavingPage page).context] x rest := by
        rw [shown]
        exact (show t.exitPart (some (n.leavingPage page)) = _ from chain) ▸ .start x rest _
      refine .leaving rfl target within (fun p here => ?_) pending (by simp [open_ended, Moment.reach])
      rw [shown] at here
      rw [← Option.some.inj here]
    | @left page n' p shown chain quiet goes =>
      obtain ⟨_, -, rfl⟩ := quiet
      rw [used.exitChain_eq] at chain
      have left : Left t (n.active.map n.leavingPage) ([] : List (Stamp μ κ))
          (.through (n.leavingPage page).context) := by
        rw [shown]
        refine ⟨_, fun p here => by rw [← Option.some.inj here], ?_⟩
        exact (show t.exitPart (some (n.leavingPage page)) = _ from chain) ▸ .through _
      exact arrives goes used r flight' target within left open_ended

omit [Named κ] in
/-- An exit middleware answers. -/
lemma exitAnswered {page' : ActivePage κ} {leaving : Leaving} {x : μ} {rest : List μ} {action : Action}
    {c : Context κ} (goes : n.ExitReaction flight page' leaving rest action p) (used : t.Used n.table)
    (r : Request) (located : target? = some flight.request) (within : flight.request.redirects ≤ limit)
    (sees : ∀ p, page = some p → p.context = c)
    (pending : Pending .exit (t.exitPart page) c stamps x rest) (open_ended : endingsIn journal = []) :
    Abroad t limit target? page (journal ++ (Moment.reach r flight p).2)
      (stamps ++ .answers .exit x page'.context action ::
        (Moment.reach r flight p).1.navigator.begins) (Moment.reach r flight p).1 := by
  cases goes with
  | next quiet =>
    obtain ⟨_, -, rfl⟩ := quiet
    exact .leaving rfl located within sees (pending.next page'.context)
      (by simp [open_ended, Moment.reach])
  | left quiet goes =>
    obtain ⟨_, -, rfl⟩ := quiet
    rw [List.append_cons]
    exact arrives goes used r flight located within ⟨c, sees, pending.through page'.context⟩ open_ended
  | denied quiet
  | redirected quiet =>
    obtain ⟨_, -, rfl⟩ := quiet
    rw [List.append_cons]
    exact ends r flight
      (.departs located within (.kept ⟨c, sees, pending.stops page'.context (by simp)⟩ rfl)) rfl open_ended

/-- An entry middleware answers without leading on. -/
lemma entryAnswered {route : Nat} {context c : Context κ} {x : μ} {rest : List μ}
    {action : Action} {exits entries : List (Stamp μ κ)} {m : RouteMatch} {state : HistoryState}
    (goes : n.EntryReaction flight route context rest action p)
    (same : ∀ target reason, action ≠ .redirect target reason) (r : Request)
    (located : target? = some flight.request) (within : flight.request.redirects ≤ limit)
    (left : Left t page exits (.through c)) (found : t.firstMatch flight.request.url = some m)
    (pending : Pending .entry (t.entryChain m.index)
      (Navigator.fillIn t (Navigator.freshContext flight state) m) entries x rest)
    (open_ended : endingsIn journal = []) :
    Abroad t limit target? page (journal ++ (Moment.reach r flight p).2)
      (exits ++ entries ++ .answers .entry x context action ::
        (Moment.reach r flight p).1.navigator.begins) (Moment.reach r flight p).1 := by
  have passage {ending : Ending μ κ} {stamps : List (Stamp μ κ)} {fate : Fate}
      (ran : Ran .entry (t.entryChain m.index)
        (Navigator.fillIn t (Navigator.freshContext flight state) m) (entries ++ stamps) ending)
      (leads : ending.Leads flight.request fate) :
      Passage t page flight.request (exits ++ entries ++ stamps) fate := by
    rw [List.append_assoc]
    exact .entering left found rfl ran leads
  cases goes with
  | next quiet =>
    obtain ⟨_, -, rfl⟩ := quiet
    rw [List.append_assoc]
    exact .entering rfl located within left found (pending.next context)
      (by simp [open_ended, Moment.reach])
  | entered quiet =>
    obtain ⟨_, -, rfl⟩ := quiet
    rw [List.append_cons]
    exact ends r flight (.departs located within (passage (pending.through context) (.through _)))
      rfl open_ended
  | refused shows quiet =>
    obtain ⟨_, -, rfl⟩ := quiet
    exact .refused rfl located within (passage (pending.stops context (by simp)) (.refused _ _))
      (by simp [open_ended, Moment.reach])
  | denied shows quiet =>
    obtain ⟨_, -, rfl⟩ := quiet
    rw [List.append_cons]
    exact ends r flight
      (.departs located within (passage (pending.stops context (by simp)) (.denied _ _))) rfl open_ended
  | followed => exact absurd rfl (same _ _)

/-- What an act adds to the stamps of a hop, unless it begins another one. -/
lemma move [Named μ] {stage : Stage} {a : Act κ} {result : Moment μ κ η × List (Event μ)}
    (abroad : Abroad t limit target? page journal stamps ⟨n, stage⟩)
    (move : Moment.Move n stage a result) (used : t.Used n.table)
    (same : Moment.hop? ⟨n, stage⟩ a = none) :
    Abroad t limit target? page (journal ++ result.2) (stamps ++ Moment.noticed n result) result.1 := by
  -- No request has its turn, and no entry chain leads on: `called`, `dequeued` and `followed` are out.
  obtain ⟨turn, leads⟩ := Option.or_eq_none_iff.mp same
  have edits : n.activity = n.activity.edit fun c => c := (Activity.edit_id _).symm
  cases move with
  | still other =>
    rw [Moment.noticed_eq_nil rfl, List.append_nil, List.append_nil]
    exact abroad
  | called target goes => simp [Moment.upcoming?, target] at turn
  | queued other quiet =>
    obtain ⟨_, -, rfl⟩ := quiet
    rw [Moment.noticed_eq_nil rfl, List.append_nil]
    exact abroad.keeps _ edits rfl
  | readdressed =>
    rw [Moment.noticed_eq_nil rfl, List.append_nil]
    exact abroad.rests (by rintro _ ⟨⟩) (by rintro _ ⟨⟩) rfl
  | @exitAnswered r flight page' leaving x rest action p doing goes =>
    cases abroad with
    | leaving doing' located within sees pending open_ended =>
      cases doing.symm.trans doing'
      have sees_it : n.runningContext? = some page'.context := by
        rw [Navigator.runningContext?, doing]
      rw [Moment.noticed_answer sees_it, ← List.append_assoc]
      exact exitAnswered goes used _ located within sees pending
        (by simp [open_ended, endingsIn_answerEvents])
    | entering doing' => cases doing.symm.trans doing'
    | refused doing' => cases doing.symm.trans doing'
    | done _ still => exact absurd rfl (still _)
  | @entryAnswered r flight route context x rest action p doing goes =>
    cases abroad with
    | leaving doing' => cases doing.symm.trans doing'
    | entering doing' located within left found pending open_ended =>
      cases doing.symm.trans doing'
      have sees_it : n.runningContext? = some context := by rw [Navigator.runningContext?, doing]
      rw [Moment.noticed_answer sees_it, ← List.append_assoc]
      refine entryAnswered goes (fun target reason leads_on => ?_) _ located within left found pending
        (by simp [open_ended, endingsIn_answerEvents])
      simp [leads_on, Moment.led?, doing] at leads
    | refused doing' => cases doing.symm.trans doing'
    | done _ still => exact absurd rfl (still _)
  | refusalShown doing quiet =>
    cases abroad with
    | leaving doing' => cases doing.symm.trans doing'
    | entering doing' => cases doing.symm.trans doing'
    | refused doing' located within passage open_ended =>
      cases doing.symm.trans doing'
      rw [Moment.noticed_eq_nil rfl, List.append_nil]
      exact closes _ _ (.departs located within passage.shown) open_ended
    | done _ still => exact absurd rfl (still _)
  | returned queue =>
    rw [Moment.noticed_eq_nil rfl, List.append_nil]
    exact abroad.rests (by rintro _ ⟨⟩) (by rintro _ ⟨⟩) rfl
  | dequeued queue quiet goes => simp [Moment.upcoming?, queue] at turn
  | @touched _ t =>
    obtain ⟨f, activity⟩ := (t.touched n).activity
    have kept := abroad.keeps f activity (show endingsIn [] = [] from rfl)
    rw [Moment.noticed_eq_nil rfl, List.append_nil stamps]
    exact kept

end

end Abroad

section

variable [Named μ] [Named κ] [History η] {m : Moment μ κ η} {a : Act κ} {hop : Request}
  {t : RouteTable μ} {limit : Nat} {target? : Option Request} {page : Option (ActivePage κ)}
  {journal : List (Event μ)} {stamps : List (Stamp μ κ)}

omit [Named μ] [Named κ] [History η] in
/-- Nothing is in progress unless a request is served, -/
lemma Moment.Sound.idle (sound : m.Sound) (still : ∀ r, m.stage ≠ .serving r) :
    m.navigator.activity = .idle := by
  obtain ⟨n, stage⟩ := m
  cases stage with
  | resting => exact sound.1
  | served => exact sound
  | serving r => exact absurd rfl (still r)

omit [Named μ] [Named κ] [History η] in
/-- and then something is, and no page is shown. -/
lemma Moment.Sound.busy {r : Request} (sound : m.Sound) (serving : m.stage = .serving r) :
    m.navigator.active = none ∧ m.navigator.phase ≠ .idle := by
  obtain ⟨n, stage⟩ := m
  obtain rfl : stage = .serving r := serving
  exact ⟨sound.1, sound.2.phase_ne⟩

omit [Named μ] [Named κ] [History η] in
/-- Only a middleware of an entry chain leads on. -/
lemma Moment.entering_of_led (leads : m.led? a = some hop) :
    ∃ flight route context x rest target reason,
      m.navigator.activity = .entering flight route context (x :: rest) ∧
      a = .answer (.redirect target reason) ∧ hop = flight.request.redirected target .replace := by
  unfold led? at leads
  split at leads
  case h_2 => cases leads
  case h_1 target reason =>
    split at leads
    case h_2 => cases leads
    case h_1 flight route context x rest doing =>
      exact ⟨flight, route, context, x, rest, target, reason, doing, rfl,
        (Option.some.inj leads).symm⟩

/-- An answer that leads on makes the request take off again, and does nothing else. -/
lemma Moment.step_of_entering {flight : Flight} {route : Nat} {context : Context κ} {x : μ}
    {rest : List μ} (sound : m.Sound)
    (doing : m.navigator.activity = .entering flight route context (x :: rest)) (target : String)
    (reason : Option String) :
    ∃ r n' p, m.stage = .serving r ∧
      Navigator.Quietly { m.navigator with
        pendingScroll := none
        outbox := m.navigator.outbox ++ disposal context.controller } n' ∧
      n'.TakeOff { flight with request := flight.request.redirected target .replace } p ∧
      m.step (.answer (.redirect target reason)) = ((reach r flight p).1,
        answerEvents .entry flight.request x (.redirect target reason) p ++ (reach r flight p).2) := by
  obtain ⟨n, stage⟩ := m
  obtain ⟨r, rfl⟩ : ∃ r, stage = .serving r := by
    by_contra still
    cases doing.symm.trans (sound.idle fun r serving => still ⟨r, serving⟩)
  obtain ⟨p, h, goes⟩ := Navigator.react_entering doing (.redirect target reason)
  replace doing : n.activity = .entering flight route context (x :: rest) := doing
  replace h : n.react (.redirect target reason) = some (flight, p) := h
  cases goes with
  | followed quiet goes =>
    refine ⟨r, _, p, rfl, quiet, goes, ?_⟩
    simp only [step, answer, Navigator.asked?, doing, h]

/-- An act that begins a hop. -/
lemma Abroad.begin (sound : m.Sound) (used : t.Used m.navigator.table)
    (config : m.navigator.config.maxRedirects = limit) (turn : m.hop? a = some hop) :
    Abroad t limit (m.navigator.located? hop) (m.navigator.active.map m.navigator.leavingPage)
      (m.step a).2 (m.step a).1.navigator.begins (m.step a).1 := by
  rcases Option.or_eq_some_iff.mp turn with taken | ⟨-, leads⟩
  · obtain ⟨n', flight, p, accepted, rfl, quiet, goes, polite, began⟩ := Moment.step_of_upcoming taken
    obtain ⟨_, -, rfl⟩ := quiet
    have calm : endingsIn (accepted ++ .began flight.request :: Navigator.landed p) = [] := by
      rcases polite with rfl | rfl <;> simp [endingsIn_landed]
    have begins := takesOff goes used config flight.request flight calm
    rw [List.append_assoc, List.cons_append] at begins
    rw [began]
    exact begins
  · obtain ⟨flight, route, context, x, rest, target, reason, doing, rfl, rfl⟩ :=
      Moment.entering_of_led leads
    obtain ⟨r, n', p, -, quiet, goes, stepped⟩ := Moment.step_of_entering sound doing target reason
    obtain ⟨_, -, rfl⟩ := quiet
    rw [stepped]
    exact takesOff goes used config r flight (endingsIn_answerEvents ..)

/-- A hop goes on as long as no other one begins. -/
lemma Abroad.after (abroad : Abroad t limit target? page journal stamps m) (sound : m.Sound)
    {told : List (Event μ)} (stands : Stands t told m) {acts : List (Act κ)} (alone : m.hops acts = []) :
    Abroad t limit target? page (journal ++ m.journal acts) (stamps ++ m.record acts) (m.after acts) := by
  induction acts generalizing m journal stamps told with
  | nil => simpa [Moment.record] using abroad
  | cons a acts ih =>
    obtain ⟨same, alone⟩ := List.append_eq_nil_iff.mp alone
    have moved := abroad.move (Moment.move sound a) stands.1 (Option.toList_eq_nil_iff.mp same)
    have on := ih moved (Moment.sound_step sound a) (stands.after sound [a]) alone
    rw [List.append_assoc, List.append_assoc] at on
    exact on

/-- What has come of a hop at a moment. -/
lemma Abroad.fate (abroad : Abroad t limit target? page journal stamps m) (sound : m.Sound) :
    ∃ fate, Hop t limit target? page stamps fate ∧ endingsIn journal = fate.endings ∧
      (m.navigator.begins ≠ [] ↔ fate = .waits) ∧
      ∀ a hop, m.led? a = some hop →
        Hop t limit target? page (stamps ++ m.navigator.answered (m.step a).2) (.led hop) := by
  cases abroad with
  | leaving doing located within sees pending open_ended =>
    refine ⟨.waits, .departs located within (.leaving ⟨_, sees, pending.ran⟩), open_ended,
      by simp [Navigator.begins, doing], fun a hop leads => ?_⟩
    obtain ⟨_, _, _, _, _, _, _, doing', -⟩ := Moment.entering_of_led leads
    cases doing.symm.trans doing'
  | @entering n _ flight _ _ context _ _ _ _ _ _ doing located within left found pending open_ended =>
    refine ⟨.waits, .departs located within (.entering left found rfl pending.ran (.waits _)), open_ended,
      by simp [Navigator.begins, doing], fun a hop leads => ?_⟩
    obtain ⟨_, _, _, _, _, target, reason, doing', rfl, rfl⟩ := Moment.entering_of_led leads
    cases doing.symm.trans doing'
    obtain ⟨_, _, _, -, -, -, stepped⟩ := Moment.step_of_entering sound doing target reason
    have sees : n.runningContext? = some context := by rw [Navigator.runningContext?, doing]
    rw [stepped, Navigator.answered_eq sees, List.append_assoc]
    exact .departs located within
      (.entering left found rfl (pending.stops context (by simp)) (.redirected _ _ _))
  | refused doing located within passage open_ended =>
    refine ⟨.refused _, .departs located within passage, open_ended,
      by simp [Navigator.begins, doing], fun a hop leads => ?_⟩
    obtain ⟨_, _, _, _, _, _, _, doing', -⟩ := Moment.entering_of_led leads
    cases doing.symm.trans doing'
  | @done n stage outcome _ ran still ended =>
    have idle : n.activity = .idle := sound.idle still
    refine ⟨.ended _, ran, ended, by simp [Navigator.begins, idle], fun a hop leads => ?_⟩
    obtain ⟨_, _, _, _, _, _, _, doing', -⟩ := Moment.entering_of_led leads
    cases idle.symm.trans doing'

/-! ### All middlewares belong to a hop -/

omit [Named μ] in
/-- A request is served after an act that begins no hop only if one was served before. -/
lemma Moment.Move.serving {n : Navigator μ κ η} {stage : Stage}
    {result : Moment μ κ η × List (Event μ)} (move : Moment.Move n stage a result)
    (same : Moment.hop? ⟨n, stage⟩ a = none) {r : Request} (serving : result.1.stage = .serving r) :
    ∃ r', stage = .serving r' := by
  obtain ⟨turn, -⟩ := Option.or_eq_none_iff.mp same
  cases move with
  | still | touched => exact ⟨r, serving⟩
  | queued | exitAnswered | entryAnswered | refusalShown => exact ⟨_, rfl⟩
  | readdressed | returned => cases serving
  | called target => simp [Moment.upcoming?, target] at turn
  | dequeued queue => simp [Moment.upcoming?, queue] at turn

lemma Moment.hops_append (m : Moment μ κ η) (acts acts' : List (Act κ)) :
    m.hops (acts ++ acts') = m.hops acts ++ (m.after acts).hops acts' := by
  induction acts generalizing m with
  | nil => rfl
  | cons a acts ih => simp [Moment.hops, ih]

/-- Whenever a request is served, one of the acts has begun the hop that it is at. -/
lemma Moment.hop_of_serving (sound : m.Sound) (rests : ∀ r, m.stage ≠ .serving r)
    {acts : List (Act κ)} {r : Request} (serving : (m.after acts).stage = .serving r) :
    ∃ before a window hop, acts = before ++ a :: window ∧ (m.after before).hop? a = some hop ∧
      ((m.after before).step a).1.hops window = [] := by
  -- From the end, because it is the last hop that is looked for: the last act begins it or leaves it.
  induction acts using List.reverseRecOn generalizing r with
  | nil => exact absurd serving (rests r)
  | append_singleton acts a ih =>
    rw [show m.after (acts ++ [a]) = ((m.after acts).step a).1 from Moment.after_append ..] at serving
    rcases begins : (m.after acts).hop? a with _ | hop
    · have sound' := Moment.sound_after sound acts
      obtain ⟨r', serving'⟩ := (Moment.move sound' a).serving begins serving
      obtain ⟨before, a', window, hop, rfl, turn, alone⟩ := ih serving'
      refine ⟨before, a', window ++ [a], hop, by simp, turn, ?_⟩
      rw [Moment.hops_append, alone, ← Moment.after_cons, ← Moment.after_append]
      simp [Moment.hops, begins]
    · exact ⟨acts, a, [], hop, rfl, begins, rfl⟩

end

/-! ### Chains without a navigator -/

/-- Running two chains one after the other is running the one chain that they make: the second one runs
only if the first one lets the navigation go on. -/
theorem Workspace.runChain_append {A : Application} (r : Reactions A) (w : Workspace A) (stage : String)
    (a b : List A.Middleware) :
    w.runChain r stage (a ++ b) =
      match w.runChain r stage a with
      | (w', some .proceed) => w'.runChain r stage b
      | stopped => stopped := by
  induction a generalizing w with
  | nil => rfl
  | cons x a ih =>
    rw [List.cons_append, runChain, runChain]
    dsimp only
    split
    · rfl
    · exact ih _
    · rename_i action other _
      cases action with
      | proceed => exact absurd rfl other
      | deny | redirect => rfl

/-! ### Results -/

/-- Chains compose and stop at the first answer. Whatever has happened, a middleware that runs runs for a
hop that one of the acts has begun, and no other hop has begun since; once a call was given up nothing
runs for it. And for every hop of every run, what has run since it began keeps to the law of `Hop`: the
exit chain of the page that is shown then, then, if all of it has let the navigation go on, the entry
chain of the route that the URL leads to first. Each of them stops at the first other answer, every
middleware sees what the one before has left behind, and the answer that stops them is what comes of the
hop: the outcome of the request that has ended, or the hop that an entry chain has led to.

An entry chain leads on without a page to leave. Without a page no exit middleware runs, and for a page
without a route none but those for all routes. Two chains that run one after the other, for a navigation
or without one, are one chain. -/
theorem chains_stop_at_first_answer [Named μ] [Named κ] [History η] {s : Setup μ κ η}
    {n : Navigator μ κ η} (built : s.build = .ok n) (acts : List (Act κ)) :
    let m := (Moment.start n).after acts
    (∀ n', m.Remains n' → n'.begins ≠ [] → n' = m.navigator ∧
      ∃ before a window hop, acts = before ++ a :: window ∧
        ((Moment.start n).after before).hop? a = some hop ∧
        (((Moment.start n).after before).step a).1.hops window = []) ∧
    (∀ before a window hop, acts = before ++ a :: window →
      let m₀ := (Moment.start n).after before
      m₀.hop? a = some hop → (m₀.step a).1.hops window = [] →
      let page := m₀.navigator.active.map m₀.navigator.leavingPage
      let stamps := (m₀.step a).1.navigator.begins ++ (m₀.step a).1.record window
      let Runs := Hop n.table n.config.maxRedirects (m₀.navigator.located? hop) page
      ∃ fate, Runs stamps fate ∧ endingsIn (m₀.journal (a :: window)) = fate.endings ∧
        (m.navigator.begins ≠ [] ↔ fate = .waits) ∧
        (∀ a' hop', m.led? a' = some hop' →
          Runs (stamps ++ m.navigator.answered (m.step a').2) (.led hop')) ∧
        (m₀.led? a = some hop → page = none) ∧ (page = none → ranOn .exit stamps = []) ∧
        (∀ p, page = some p → p.route = none → ranOn .exit stamps <+: n.table.exitAll)) ∧
    (∀ side (a b : List μ) (c : Context κ) stamps ending, Ran side (a ++ b) c stamps ending ↔
      (∃ c' first second, Ran side a c first (.through c') ∧ Ran side b c' second ending ∧
        stamps = first ++ second) ∨ Ran side a c stamps ending ∧ ∀ c', ending ≠ .through c') ∧
    ∀ (A : Application) (r : Reactions A) (w : Workspace A) stage (a b : List A.Middleware),
      w.runChain r stage (a ++ b) =
        match w.runChain r stage a with
        | (w', some .proceed) => w'.runChain r stage b
        | stopped => stopped := by
  intro m
  have start := Moment.sound_start built
  have sound : m.Sound := Moment.sound_after start acts
  refine ⟨fun n' remains runs => ?_, ?_, fun _ _ _ _ _ _ => Ran.append_iff,
    fun _ => Workspace.runChain_append⟩
  · obtain rfl | ⟨⟨r, serving⟩, adrift⟩ := remains
    · -- A middleware runs only for a request that is served, and that one is at some hop.
      obtain ⟨r, serving⟩ : ∃ r, m.stage = .serving r := by
        by_contra still
        have idle := sound.idle fun r serving => still ⟨r, serving⟩
        exact runs (by simp only [Navigator.begins, idle])
      exact ⟨rfl, Moment.hop_of_serving start (by rintro _ ⟨⟩) serving⟩
    · -- A call that was given up runs nothing any more.
      have busy := (sound.busy serving).2
      have given_up := adrift.activity_eq (Navigator.activity_abandon busy) busy
      exact absurd (by simp only [Navigator.begins, given_up]) runs
  · rintro before a window hop rfl m₀ turn alone page stamps Runs
    have sound₀ : m₀.Sound := Moment.sound_after start before
    have stands : Stands n.table _ m₀ := (Stands.start built).after start before
    have config : m₀.navigator.config = n.config := Moment.config_after start before
    have begins := Abroad.begin sound₀ stands.1 (by rw [config]) turn
    have abroad := begins.after (Moment.sound_step sound₀ a) (stands.after sound₀ [a]) alone
    have here : m = (m₀.step a).1.after window := Moment.after_append ..
    rw [← here] at abroad
    obtain ⟨fate, ran, endings, waits, leads⟩ := abroad.fate sound
    refine ⟨fate, ran, endings, waits, leads, fun led => ?_, fun none => ?_, fun p shown bare => ?_⟩
    · obtain ⟨_, _, _, _, _, target, reason, doing, -⟩ := Moment.entering_of_led led
      obtain ⟨_, _, _, serving, -⟩ := Moment.step_of_entering sound₀ doing target reason
      exact Option.map_eq_none_iff.mpr (sound₀.busy serving).1
    · have exits : ranOn .exit stamps <+: n.table.exitPart page := ran.exits_isPrefix
      rw [none] at exits
      exact List.prefix_nil.mp exits
    · have exits : ranOn .exit stamps <+: n.table.exitPart page := ran.exits_isPrefix
      rw [shown] at exits
      have chain : n.table.exitPart (some p) = n.table.exitAll := by
        rw [RouteTable.exitPart, Option.elim_some, bare, RouteTable.exitChain, Option.bind_none,
          Option.getD_none, List.append_nil]
      exact chain ▸ exits

/-- A page is left for another route, whose entry chain leads on. -/
theorem chains_stop_at_first_answer_redirect :
    let s : Setup String String MemoryHistory :=
      { routes := [{ (Route.new "/a" : Route String) with entry := ["see"], exit := ["ask", "save"] },
          { (Route.new "/b" : Route String) with entry := ["lead", "see"] }, Route.new "/c"]
        enterAll := ["count"]
        exitAll := ["watch"]
        history := {} }
    let before : List (Act String) := [.call (.start "/a"), .answer .proceed, .answer .proceed, .next]
    let window : List (Act String) :=
      [.answer .proceed, .touch (.edit fun c => { c with parameters := .ofList [("asked", "1")] }),
        .answer .proceed, .answer .proceed, .answer .proceed]
    let go : Act String := .call (.push "/b")
    let lead : Act String := .answer (.redirect "/c" none)
    ∃ n, s.build = .ok n ∧
      let m₀ := (Moment.start n).after before
      let m := (Moment.start n).after (before ++ go :: window)
      let page := m₀.navigator.active.map m₀.navigator.leavingPage
      let stamps := (m₀.step go).1.navigator.begins ++ (m₀.step go).1.record window
      let Runs := Hop n.table n.config.maxRedirects (some ⟨"/b", .push, 0⟩) page
      ranOn .exit stamps = ["watch", "ask", "save"] ∧ ranOn .entry stamps = ["count", "lead"] ∧
        Runs stamps .waits ∧
        Runs (stamps ++ m.navigator.answered (m.step lead).2) (.led ⟨"/c", .replace, 1⟩) := by
  intro s before window go lead
  have built : s.build = .ok _ := rfl
  refine ⟨_, built, ?_⟩
  intro m₀ m page stamps Runs
  obtain ⟨-, keeps, -⟩ := chains_stop_at_first_answer built (before ++ go :: window)
  have turn : m₀.hop? go = some ⟨"/b", .push, 0⟩ := by decide +kernel
  have alone : (m₀.step go).1.hops window = [] := by decide +kernel
  obtain ⟨fate, ran, -, waits, leads, -⟩ := keeps before go window _ rfl turn alone
  have runs : m.navigator.begins.isEmpty = false := by decide +kernel
  obtain rfl : fate = .waits := waits.mp fun none => by
    rw [none] at runs
    cases runs
  exact ⟨by decide +kernel, by decide +kernel, ran, leads lead _ (by decide +kernel)⟩

end Wayfinder
