/-
What a navigation does to the history.

A request that gets past the exit chain is put into the history, and so is every URL that entry
chains lead it to. `Course` follows it from the moment its turn begins: while the exit chain runs
the URLs of the history stay, and from then on they are what the kind of the request leaves with the
URL it has come to. Nothing else touches the history in the meantime, so a traversal arrives at the
entry that was looked up when its turn began.
-/
import Wayfinder.Proofs.Entries
import Wayfinder.Proofs.Service

namespace Wayfinder

variable {μ κ η : Type}

/-! ### Events -/

/-- The URL that an event puts into the history. -/
@[simp] def Event.committed? : Event μ → Option String
  | committed url => some url
  | _ => none

/-- Where an event leads to from an entry chain. -/
@[simp] def Event.led? : Event μ → Option String
  | answered .entry _ _ (.redirect target _) => some target
  | _ => none

/-- The URLs that were put into the history, in order. -/
abbrev committedIn (journal : List (Event μ)) : List String := gather Event.committed? journal

/-- Where entry chains have led to, in order. -/
abbrev ledIn (journal : List (Event μ)) : List String := gather Event.led? journal

/-- The answer of an exit middleware that an event is. -/
@[simp] def Event.leave? : Event μ → Option Action
  | answered .exit _ _ action => some action
  | _ => none

/-- Whether every exit middleware lets the page be left. -/
def LetGo (journal : List (Event μ)) : Prop :=
  ∀ action ∈ gather Event.leave? journal, action = .proceed

instance (journal : List (Event μ)) : Decidable (LetGo journal) :=
  inferInstanceAs (Decidable (∀ action ∈ gather Event.leave? journal, action = .proceed))

lemma LetGo.of_append {journal events : List (Event μ)} (h : LetGo (journal ++ events)) :
    LetGo journal ∧ LetGo events := by
  rw [LetGo, gather_append] at h
  exact ⟨fun action found => h action (List.mem_append_left _ found),
    fun action found => h action (List.mem_append_right _ found)⟩

lemma LetGo.eq_proceed {hop : Request} {m : μ} {action : Action}
    {p : Navigator.Progress μ κ η} {events : List (Event μ)}
    (h : LetGo (answerEvents .exit hop m action p ++ events)) : action = .proceed :=
  h action (by simp [answerEvents])

/-! ### Arrivals -/

section

variable [History η] {n : Navigator μ κ η} {flight : Flight} {p : Navigator.Progress μ κ η}

/-- An arrival puts its URL into the history, and that is all that happens to the history. -/
lemma Navigator.Arrival.history_eq (goes : n.Arrival flight p) :
    p.1.history = (commit n.history flight.request).1 ∧
      landed p = [.committed flight.request.url] ∧ (p.2 = none → p.1.phase = .entering) := by
  cases goes with
  | notFound put aim found quiet =>
    obtain ⟨_, _, rfl⟩ := quiet
    exact ⟨by rw [put], rfl, by rintro ⟨⟩⟩
  | waits put aim found chain quiet =>
    obtain ⟨_, _, rfl⟩ := quiet
    exact ⟨by rw [put], rfl, fun _ => rfl⟩
  | entered put aim found chain quiet =>
    obtain ⟨_, _, rfl⟩ := quiet
    exact ⟨by rw [put], rfl, by rintro ⟨⟩⟩

/-- A traversal is aimed at the URL of an entry. -/
lemma Navigator.aim_of_located {n : Navigator μ κ MemoryHistory} {r hop : Request}
    (target : n.located? r = some hop) :
    hop.kind = r.kind ∧ ∀ offset, r.kind.offset? = some offset →
      (n.history.peek? offset).map (·.url) = some hop.url := by
  unfold located? at target
  split at target
  · rename_i none
    obtain rfl := Option.some.inj target
    exact ⟨rfl, fun offset way => by cases none.symm.trans way⟩
  · rename_i offset way
    obtain ⟨entry, found, rfl⟩ := Option.map_eq_some_iff.mp target
    refine ⟨rfl, fun offset' way' => ?_⟩
    obtain rfl := Option.some.inj (way.symm.trans way')
    exact Option.map_eq_some_iff.mpr ⟨entry, found, rfl⟩

omit [History η] in
lemma Navigator.history_reportServed (outcome : Outcome) :
    (n.reportServed flight outcome).history = n.history := by
  obtain ⟨_, -, h⟩ := n.quietly_reportServed flight outcome
  rw [h]

end

/-! ### Courses -/

/-- How far a request has come. `past` is the history before its turn, `url` the URL that it asks
for, and `journal` is what has happened since its turn began. -/
inductive Course (past : MemoryHistory) (r : Request) (url : String) (journal : List (Event μ)) :
    Moment μ κ MemoryHistory → Prop
  /-- The page is being left. -/
  | leaving {n flight page leaving middlewares}
      (doing : n.activity = .exiting flight page leaving middlewares)
      (kind : flight.request.kind = r.kind) (target : flight.request.url = url)
      (urls : n.history.urls = past.urls) (position : n.history.position = past.position)
      (committed : committedIn journal = []) (led : ledIn journal = []) :
      Course past r url journal ⟨n, .serving r⟩
  /-- A URL has been put into the history, and its route is being entered. -/
  | entering {n url'} (phase : n.phase = .entering)
      (left : (n.history.urls, n.history.position) = r.kind.leaves past.urls past.position url')
      (committed : committedIn journal = url :: ledIn journal)
      (last : (committedIn journal).getLast? = some url') :
      Course past r url journal ⟨n, .serving r⟩
  /-- The request has ended, possibly with a redirect too many. -/
  | ended {n outcome owed url'}
      (left : (n.history.urls, n.history.position) = r.kind.leaves past.urls past.position url')
      (committed : committedIn journal = url :: ledIn journal ∨ ∃ depth target,
        outcome = .failed (.redirectLoop depth target) ∧
        committedIn journal ++ [target] = url :: ledIn journal)
      (last : (committedIn journal).getLast? = some url') :
      Course past r url journal ⟨n, .served r outcome owed⟩

namespace Course

variable {past : MemoryHistory} {r : Request} {url : String} {journal : List (Event μ)}

/-- Only what is put into the history and where entry chains lead matters. -/
lemma congr {journal' : List (Event μ)} {m : Moment μ κ MemoryHistory}
    (course : Course past r url journal m) (committed : committedIn journal' = committedIn journal)
    (led : ledIn journal' = ledIn journal) : Course past r url journal' m := by
  cases course with
  | leaving doing kind target urls position none none' =>
    exact .leaving doing kind target urls position (committed.trans none) (led.trans none')
  | entering phase left put last =>
    exact .entering phase left (by rw [committed, led, put]) (by rw [committed, last])
  | ended left put last =>
    exact .ended left (by rw [committed, led]; exact put) (by rw [committed, last])

/-- A request that ends leaves the history as it is. -/
lemma ends {n : Navigator μ κ MemoryHistory} {flight : Flight} {outcome : Outcome} {url' : String}
    (left : (n.history.urls, n.history.position) = r.kind.leaves past.urls past.position url')
    (committed : committedIn journal = url :: ledIn journal ∨ ∃ depth target,
      outcome = .failed (.redirectLoop depth target) ∧
      committedIn journal ++ [target] = url :: ledIn journal)
    (last : (committedIn journal).getLast? = some url') :
    Course past r url journal (Moment.reach r flight (n, some outcome)).1 := by
  rw [← n.history_reportServed outcome] at left
  exact .ended left committed last

/-- A request that arrives goes on to enter a route, or ends. -/
lemma arrives {n : Navigator μ κ MemoryHistory} {flight flight' : Flight}
    {p : Navigator.Progress μ κ MemoryHistory} (goes : n.Arrival flight p)
    (left : ((Navigator.commit n.history flight.request).1.urls,
      (Navigator.commit n.history flight.request).1.position) =
        r.kind.leaves past.urls past.position flight.request.url)
    (committed : committedIn journal ++ [flight.request.url] = url :: ledIn journal) :
    Course past r url (journal ++ (Navigator.landed p ++ (Moment.reach r flight' p).2))
      (Moment.reach r flight' p).1 := by
  obtain ⟨history, landed, phase⟩ := goes.history_eq
  rw [← history] at left
  rw [landed]
  rcases p with ⟨n', _ | outcome⟩
  · refine .entering (phase rfl) left ?_ ?_
    · simpa [Moment.reach] using committed
    · simp [Moment.reach]
  · refine ends left (.inl ?_) ?_
    · simpa [Moment.reach] using committed
    · simp [Moment.reach]

/-- A request that departs without a page to leave arrives at once. -/
lemma departs [Named κ] {n : Navigator μ κ MemoryHistory} {flight flight' : Flight}
    {p : Navigator.Progress μ κ MemoryHistory} (goes : n.Departure flight p)
    (bare : n.active = none)
    (left : ((Navigator.commit n.history flight.request).1.urls,
      (Navigator.commit n.history flight.request).1.position) =
        r.kind.leaves past.urls past.position flight.request.url)
    (committed : committedIn journal ++ [flight.request.url] = url :: ledIn journal) :
    Course past r url (journal ++ (Navigator.landed p ++ (Moment.reach r flight' p).2))
      (Moment.reach r flight' p).1 := by
  cases goes with
  | fresh shown quiet goes =>
    obtain ⟨_, _, rfl⟩ := quiet
    exact arrives goes left committed
  | waits shown => cases bare.symm.trans shown
  | left shown => cases bare.symm.trans shown

/-- The answer of an exit middleware that lets the page be left. -/
lemma exitAnswered {n : Navigator μ κ MemoryHistory} {flight : Flight} {page : ActivePage κ}
    {leaving : Leaving} {m : μ} {rest : List μ} {action : Action}
    {p : Navigator.Progress μ κ MemoryHistory}
    (aim : ∀ offset, r.kind.offset? = some offset → (past.peek? offset).map (·.url) = some url)
    (goes : n.ExitReaction flight page leaving rest action p) (lets : action = .proceed)
    (kind : flight.request.kind = r.kind) (target : flight.request.url = url)
    (urls : n.history.urls = past.urls) (position : n.history.position = past.position)
    (committed : committedIn journal = []) (led : ledIn journal = []) :
    Course past r url
      (journal ++ (answerEvents .exit flight.request m action p ++ (Moment.reach r flight p).2))
      (Moment.reach r flight p).1 := by
  cases goes with
  | next quiet =>
    obtain ⟨_, _, rfl⟩ := quiet
    refine .leaving rfl kind target urls position ?_ ?_
    · simpa [answerEvents, Navigator.landed, Moment.reach] using committed
    · simpa [answerEvents, Navigator.landed, Moment.reach] using led
  | left quiet goes =>
    obtain ⟨_, _, rfl⟩ := quiet
    -- The URLs are those of the beginning, so a traversal still finds the entry it is aimed at.
    have left := commit_leaves (h := n.history) (r := flight.request) fun offset way => by
      have here := aim offset (kind ▸ way)
      rw [← MemoryHistory.peek?_congr urls position, ← target] at here
      exact Option.map_eq_some_iff.mp here
    rw [urls, position, kind] at left
    have answered : committedIn (journal ++ [.answered .exit flight.request m .proceed]) ++
        [flight.request.url] =
          url :: ledIn (journal ++ [.answered .exit flight.request m .proceed]) := by
      simp [committed, led, target]
    simpa [answerEvents] using arrives goes left answered
  | denied | redirected => cases lets

/-- The answer of an entry middleware. -/
lemma entryAnswered [Named κ] {n : Navigator μ κ MemoryHistory} {flight : Flight} {route : Nat}
    {context : Context κ} {m : μ} {rest : List μ} {action : Action}
    {p : Navigator.Progress μ κ MemoryHistory} {url' : String}
    (some : r.kind.isTraversal → past.urls ≠ [])
    (goes : n.EntryReaction flight route context rest action p) (bare : n.active = none)
    (left : (n.history.urls, n.history.position) = r.kind.leaves past.urls past.position url')
    (committed : committedIn journal = url :: ledIn journal)
    (last : (committedIn journal).getLast? = .some url') :
    Course past r url
      (journal ++ (answerEvents .entry flight.request m action p ++ (Moment.reach r flight p).2))
      (Moment.reach r flight p).1 := by
  cases goes with
  | next quiet
  | refused shows quiet =>
    obtain ⟨_, _, rfl⟩ := quiet
    refine .entering rfl left ?_ ?_
    · simpa [answerEvents, Moment.reach] using committed
    · simpa [answerEvents, Moment.reach] using last
  | entered quiet
  | denied shows quiet =>
    obtain ⟨_, _, rfl⟩ := quiet
    refine ends left (.inl ?_) ?_
    · simpa [answerEvents, Moment.reach] using committed
    · simpa [answerEvents, Moment.reach] using last
  | @followed _ target reason _ _ quiet goes =>
    obtain ⟨_, _, rfl⟩ := quiet
    have answered : committedIn
          (journal ++ [.answered .entry flight.request m (.redirect target reason)]) ++ [target] =
        url :: ledIn
          (journal ++ [.answered .entry flight.request m (.redirect target reason)]) := by
      simp [committed]
    cases goes with
    | dropped located => cases located
    | looped located exceeds quiet =>
      obtain ⟨_, _, rfl⟩ := quiet
      obtain rfl := Option.some.inj located
      refine ends left (.inr ⟨_, target, rfl, ?_⟩) ?_
      · simpa [answerEvents, Moment.reach, Navigator.landed] using answered
      · simpa [answerEvents, Moment.reach, Navigator.landed] using last
    | departs located within goes =>
      obtain rfl := Option.some.inj located
      -- The redirect overwrites the URL that was put into the history before.
      have left' := commit_leaves (h := n.history)
        (r := flight.request.redirected target .replace) (by rintro _ ⟨⟩)
      have replaced := leaves_replace r.kind url' target past.bounded_urls some
      rw [← left] at replaced
      simpa [answerEvents] using departs goes bare (left'.trans replaced) answered

/-- Every act keeps a request on its course. -/
lemma move [Named μ] [Named κ] {n : Navigator μ κ MemoryHistory} {stage : Stage} {a : Act κ}
    {result : Moment μ κ MemoryHistory × List (Event μ)}
    (aim : ∀ offset, r.kind.offset? = some offset → (past.peek? offset).map (·.url) = some url)
    (some : r.kind.isTraversal → past.urls ≠ []) (course : Course past r url journal ⟨n, stage⟩)
    (sound : Moment.Sound ⟨n, stage⟩) (move : Moment.Move n stage a result) (same : a ≠ .next)
    (lets : LetGo result.2) : Course past r url (journal ++ result.2) result.1 := by
  cases course with
  | leaving doing kind target urls position committed led =>
    cases move with
    | still other =>
      exact .leaving doing kind target urls position (by simpa using committed) (by simpa using led)
    | queued other quiet =>
      obtain ⟨_, _, rfl⟩ := quiet
      exact .leaving doing kind target urls position (by simpa using committed) (by simpa using led)
    | exitAnswered doing' goes =>
      cases doing.symm.trans doing'
      exact exitAnswered aim goes lets.eq_proceed kind target urls position committed led
    | entryAnswered doing' => cases doing.symm.trans doing'
    | refusalShown doing' => cases doing.symm.trans doing'
    | @touched _ t =>
      have touched := t.touched n
      obtain ⟨f, doing'⟩ := touched.activity
      rw [doing] at doing'
      exact .leaving doing' kind target (touched.history ▸ urls) (touched.history ▸ position)
        (by simpa using committed) (by simpa using led)
  | entering phase left committed last =>
    cases move with
    | still other => exact .entering phase left (by simpa using committed) (by simpa using last)
    | queued other quiet =>
      obtain ⟨_, _, rfl⟩ := quiet
      exact .entering phase left (by simpa using committed) (by simpa using last)
    | exitAnswered doing =>
      rw [Navigator.phase, doing] at phase
      cases phase
    | entryAnswered doing goes => exact entryAnswered some goes sound.1 left committed last
    | refusalShown doing quiet =>
      obtain ⟨_, _, rfl⟩ := quiet
      exact ends left (.inl (by simpa [Moment.reach] using committed))
        (by simpa [Moment.reach] using last)
    | @touched _ t =>
      have touched := t.touched n
      exact .entering (touched.phase_eq.trans phase) (by rw [touched.history, left])
        (by simpa using committed) (by simpa using last)
  | ended left committed last =>
    cases move with
    | still other => exact .ended left (by simpa using committed) (by simpa using last)
    | returned => exact absurd rfl same
    | dequeued => exact absurd rfl same
    | @touched _ t =>
      exact .ended (by rw [(t.touched n).history, left]) (by simpa using committed)
        (by simpa using last)

/-- A request stays on its course until the next one begins. -/
lemma after [Named μ] [Named κ] {m : Moment μ κ MemoryHistory}
    (aim : ∀ offset, r.kind.offset? = some offset → (past.peek? offset).map (·.url) = some url)
    (some : r.kind.isTraversal → past.urls ≠ []) (course : Course past r url journal m)
    (sound : m.Sound) {acts : List (Act κ)} (same : .next ∉ acts) (lets : LetGo (m.journal acts)) :
    Course past r url (journal ++ m.journal acts) (m.after acts) := by
  induction acts generalizing m journal with
  | nil => simpa using course
  | cons a acts ih =>
    obtain ⟨here, later⟩ := lets.of_append
    have step := course.move aim some sound (Moment.move sound a)
      (fun h => same (h ▸ List.mem_cons_self ..)) here
    have rest := ih step (Moment.sound_step sound a) (fun h => same (.tail a h)) later
    simpa using rest

/-- The turn of a request begins its course. -/
lemma begins [Named κ] {n₀ n : Navigator μ κ MemoryHistory} {queue : List Request}
    {flight : Flight} {hop : Request} {p : Navigator.Progress μ κ MemoryHistory}
    (quiet : Navigator.Quietly { n₀ with queue } n) (goes : n.TakeOff flight p)
    (turn : flight.request = r) (target : n₀.located? r = some hop)
    (within : hop.redirects ≤ n₀.config.maxRedirects) :
    Course n₀.history r hop.url (Moment.begun r flight p).2 (Moment.begun r flight p).1 := by
  obtain ⟨outbox, _, rfl⟩ := quiet
  subst turn
  obtain ⟨kind, aim⟩ := Navigator.aim_of_located target
  cases goes with
  | dropped located => cases located.symm.trans target
  | looped located exceeds =>
    cases located.symm.trans target
    exact absurd within (Nat.not_le_of_lt exceeds)
  | departs located _ goes =>
    cases located.symm.trans target
    have left (h : MemoryHistory) (urls : h.urls = n₀.history.urls)
        (position : h.position = n₀.history.position) :
        ((Navigator.commit h hop).1.urls, (Navigator.commit h hop).1.position) =
          flight.request.kind.leaves n₀.history.urls n₀.history.position hop.url := by
      rw [← urls, ← position, ← kind]
      refine commit_leaves fun offset way => ?_
      have here := aim offset (kind ▸ way)
      rw [← MemoryHistory.peek?_congr urls position] at here
      exact Option.map_eq_some_iff.mp here
    have began : committedIn ([.began flight.request] : List (Event μ)) ++ [hop.url] =
        hop.url :: ledIn ([.began flight.request] : List (Event μ)) := by simp
    cases goes with
    | fresh shown quiet goes =>
      obtain ⟨_, _, rfl⟩ := quiet
      exact arrives goes (left n₀.history rfl rfl) began
    | @waits page _ _ _ shown chain quiet =>
      obtain ⟨_, _, rfl⟩ := quiet
      obtain ⟨-, urls, position⟩ := n₀.listed_leftHistory page.context
      exact .leaving rfl kind rfl urls position
        (by simp [Moment.begun, Moment.reach, Navigator.landed])
        (by simp [Moment.begun, Moment.reach, Navigator.landed])
    | @left page _ _ shown chain quiet goes =>
      obtain ⟨_, _, rfl⟩ := quiet
      obtain ⟨-, urls, position⟩ := n₀.listed_leftHistory page.context
      exact arrives goes (left _ urls position) began

/-- What the journal of a request that has ended says. -/
lemma result {m : Moment μ κ MemoryHistory} {outcome owed : Outcome}
    (course : Course past r url journal m) (done : m.stage = .served r outcome owed) :
    ∃ us u, committedIn journal = url :: us ∧ (url :: us).getLast? = some u ∧
      (ledIn journal = us ∨ ∃ depth target, outcome = .failed (.redirectLoop depth target) ∧
        ledIn journal = us ++ [target]) ∧
      (m.navigator.history.urls, m.navigator.history.position) =
        r.kind.leaves past.urls past.position u := by
  cases course with
  | leaving | entering => cases done
  | @ended n _ _ u left committed last =>
    cases done
    rcases committed with committed | ⟨depth, target, loop, committed⟩
    · exact ⟨ledIn journal, u, committed, committed ▸ last, .inl rfl, left⟩
    · rcases put : committedIn journal with _ | ⟨url', us⟩
      · rw [put] at last
        cases last
      · rw [put] at committed last
        obtain ⟨rfl, led⟩ := List.cons_eq_cons.mp committed
        exact ⟨us, u, rfl, last, .inr ⟨depth, target, loop, led.symm⟩, left⟩

end Course

/-- What a navigation leaves in the history. Let `a` begin the turn of a request whose target is
there and that is within the limit of redirects, and let the exit chain let the page be left. Once
the request has ended, in whatever way, the URLs `hop.url :: us` were put into the history: the one
that was asked for, and those that entry chains led to, except for one redirect too many. Of these
the last one is there, where the kind of the request says. A traversal that was not led elsewhere
changes no URL. -/
theorem history_after_navigation [Named μ] [Named κ] {s : Setup μ κ MemoryHistory}
    {n : Navigator μ κ MemoryHistory} (built : s.build = .ok n) (before : List (Act κ)) {a : Act κ}
    {r hop : Request} (turn : ((Moment.start n).after before).upcoming? a = some r)
    (target : ((Moment.start n).after before).navigator.located? r = some hop)
    (within : hop.redirects ≤ ((Moment.start n).after before).navigator.config.maxRedirects)
    {acts : List (Act κ)} (same : .next ∉ acts)
    (lets : LetGo (((Moment.start n).after before).journal (a :: acts))) {outcome owed : Outcome}
    (done : (((Moment.start n).after before).after (a :: acts)).stage = .served r outcome owed) :
    let m₀ := (Moment.start n).after before
    let journal := m₀.journal (a :: acts)
    let urls := m₀.navigator.history.urls
    let i := m₀.navigator.history.position
    let left := (m₀.after (a :: acts)).navigator.history
    ∃ us u, committedIn journal = hop.url :: us ∧ (hop.url :: us).getLast? = some u ∧
      (ledIn journal = us ∨ ∃ depth target, outcome = .failed (.redirectLoop depth target) ∧
        ledIn journal = us ++ [target]) ∧
      match r.kind with
      | .push => left.urls = urls.take (i + 1) ++ [u] ∧ left.position + 1 = left.urls.length
      | .replace => left.urls = (if urls = [] then [u] else urls.set i u) ∧ left.position = i
      | .back => 0 < i ∧ left.position = i - 1 ∧ left.urls.length = urls.length ∧
          left.urls = urls.set (i - 1) u ∧ (us = [] → left.urls = urls)
      | .forward => i + 1 < urls.length ∧ left.position = i + 1 ∧
          left.urls.length = urls.length ∧ left.urls = urls.set (i + 1) u ∧
          (us = [] → left.urls = urls) := by
  intro m₀ journal urls i left
  have sound₀ : m₀.Sound := Moment.sound_after (Moment.sound_start built) before
  obtain ⟨n', flight, p, accepted, request, quiet, goes, shape, began⟩ :=
    Moment.step_of_upcoming turn
  obtain ⟨kind, aim⟩ := Navigator.aim_of_located target
  have away (way : r.kind.isTraversal) : urls ≠ [] := by
    obtain ⟨offset, way⟩ := Option.isSome_iff_exists.mp (r.kind.isTraversal_eq ▸ way)
    obtain ⟨e, found, -⟩ := Option.map_eq_some_iff.mp (aim offset way)
    obtain ⟨j, -, url⟩ := MemoryHistory.of_peek? found
    exact List.ne_nil_of_mem (List.mem_of_getElem? url)
  have begins : Course m₀.navigator.history r hop.url (m₀.step a).2 (m₀.step a).1 := by
    rw [began]
    refine (Course.begins quiet goes request target within).congr ?_ ?_
    · rcases shape with rfl | rfl <;> simp
    · rcases shape with rfl | rfl <;> simp
  have course := begins.after aim away (Moment.sound_step sound₀ a) same (lets.of_append).2
  obtain ⟨us, u, committed, last, led, put⟩ := course.result done
  replace put : (left.urls, left.position) = r.kind.leaves urls i u := put
  refine ⟨us, u, committed, last, led, ?_⟩
  -- Where a traversal goes, the URL that was asked for is there already.
  have turned (offset : Int) (way : r.kind.offset? = some offset) :
      ∃ j, m₀.navigator.history.index? offset = some j ∧ (us = [] → urls.set j u = urls) := by
    obtain ⟨e, found, same⟩ := Option.map_eq_some_iff.mp (aim offset way)
    obtain ⟨j, index, url⟩ := MemoryHistory.of_peek? found
    refine ⟨j, index, ?_⟩
    rintro rfl
    obtain rfl := Option.some.inj last
    exact set_of_getElem? (same ▸ url)
  cases way : r.kind with
  | push =>
    rw [way] at put
    obtain ⟨left_urls, left_position⟩ := Prod.mk.inj put
    exact ⟨left_urls, by simp [left_urls, left_position]⟩
  | replace =>
    rw [way] at put
    exact Prod.mk.inj put
  | back =>
    rw [way] at put
    obtain ⟨left_urls, left_position⟩ := Prod.mk.inj put
    obtain ⟨j, index, stays⟩ := turned (-1) (by rw [way]; rfl)
    obtain ⟨some, rfl⟩ := MemoryHistory.index?_back index
    exact ⟨some, left_position, by rw [left_urls, List.length_set], left_urls,
      fun first => left_urls.trans (stays first)⟩
  | forward =>
    rw [way] at put
    obtain ⟨left_urls, left_position⟩ := Prod.mk.inj put
    obtain ⟨j, index, stays⟩ := turned 1 (by rw [way]; rfl)
    have inside := MemoryHistory.lt_of_index?_eq_some index
    obtain rfl := MemoryHistory.index?_forward index
    exact ⟨by simpa [urls, MemoryHistory.urls] using inside, left_position,
      by rw [left_urls, List.length_set], left_urls, fun first => left_urls.trans (stays first)⟩

/-- Going back to a page that leads elsewhere: its entry is overwritten, the later one stays. -/
theorem history_after_navigation_back :
    let s : Setup String String MemoryHistory :=
      { routes := [{ (Route.catchAll : Route String) with entry := ["guard"] }], history := {} }
    let before : List (Act String) :=
      [.call (.start "/a"), .answer .proceed, .next, .call (.push "/b"), .answer .proceed, .next]
    let acts : List (Act String) := [.answer (.redirect "/c" none), .answer .proceed]
    ∃ n, s.build = .ok n ∧
      let m₀ := (Moment.start n).after before
      let m := m₀.after (.call .back :: acts)
      m₀.navigator.history.urls = ["/a", "/b"] ∧ m.navigator.history.urls = ["/c", "/b"] ∧
      m.navigator.history.position = m₀.navigator.history.position - 1 ∧
      m.navigator.history.urls.length = m₀.navigator.history.urls.length := by
  intro s before acts
  have built : s.build = .ok _ := rfl
  have same : .next ∉ acts := by simp [acts]
  obtain ⟨us, u, -, -, -, left⟩ := @history_after_navigation _ _ _ _ s _ built before (.call .back)
    ⟨"/a", .back, 0⟩ ⟨"/a", .back, 0⟩ (by decide) (by decide) (by decide) acts same
    (by decide) (.success "/c") (.success "/c") (by decide)
  exact ⟨_, built, by decide, by decide, left.2.1, left.2.2.1⟩

end Wayfinder
