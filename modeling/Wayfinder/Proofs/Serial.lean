/-
Requests are served one after the other.

`Serial` describes the journals of a server that has a queue: requests are accepted at its end and
taken from its front, one has to end before the next begins, and whatever happens in between happens
for the request whose turn it is. The only requests that are put in front are those that exit chains
lead to. It is shown that the journal of every run is of this kind, with the queue and the current
request that the navigator has in the end.
-/
import Wayfinder.Proofs.Service

namespace Wayfinder

variable {μ κ η : Type}

/-- The journals of a server with a queue, with the requests that wait and the current one. -/
inductive Serial : List (Event μ) → List Request → Option Request → Prop
  /-- Nothing has happened. -/
  | nil : Serial [] [] none
  /-- A request joins the queue. -/
  | accepted {journal queue current} (before : Serial journal queue current) (r : Request)
      (direct : r.redirects = 0) : Serial (journal ++ [.accepted r]) (queue ++ [r]) current
  /-- The next request begins, once the one before has ended. -/
  | began {journal r queue} (before : Serial journal (r :: queue) none) :
      Serial (journal ++ [.began r]) queue (some r)
  /-- A middleware answers for the current request. -/
  | answered {journal queue r hop} (before : Serial journal queue (some r)) (leads : r.Leads hop)
      (side : Side) (middleware : μ) (action : Action) :
      Serial (journal ++ [.answered side hop middleware action]) queue (some r)
  /-- A URL of the current request is put into the history. -/
  | committed {journal queue r} (before : Serial journal queue (some r)) (url : String) :
      Serial (journal ++ [.committed url]) queue (some r)
  /-- The current request ends. -/
  | ended {journal queue r} (before : Serial journal queue (some r)) (outcome : Outcome) :
      Serial (journal ++ [.ended r outcome]) queue none
  /-- The current request ends because an exit chain leads elsewhere: that comes first of all. -/
  | diverted {journal queue r hop} (before : Serial journal queue (some r)) (leads : r.Leads hop)
      (target : String) (outcome : Outcome) :
      Serial (journal ++ [.diverted (hop.redirected target .push), .ended r outcome])
        (hop.redirected target .push :: queue) none
  /-- A call returns, when nothing waits. -/
  | returned {journal} (before : Serial journal [] none) (outcome : Outcome) :
      Serial (journal ++ [.returned outcome]) [] none
  /-- A page changes its address, when there is nothing else to do. -/
  | readdressed {journal} (before : Serial journal [] none) (outcome : Outcome) :
      Serial (journal ++ [.readdressed outcome]) [] none

/-- The request that an event accepts. -/
@[simp] def Event.accepted? : Event μ → Option Request
  | accepted r => some r
  | _ => none

/-- The request whose turn an event begins. -/
@[simp] def Event.begun? : Event μ → Option Request
  | began r => some r
  | _ => none

/-- The requests that were accepted, in order. -/
abbrev acceptedIn (journal : List (Event μ)) : List Request := gather Event.accepted? journal

/-- The requests that had their turn, in order. -/
abbrev begunIn (journal : List (Event μ)) : List Request := gather Event.begun? journal

namespace Serial

variable {journal : List (Event μ)} {queue : List Request} {current : Option Request}

/-- Requests have their turns in the order in which they were accepted, each of them once; those
that no caller has asked for are left out here. -/
lemma accepted_eq (h : Serial journal queue current) :
    acceptedIn journal = (begunIn journal ++ queue).filter (·.redirects = 0) := by
  induction h with
  | nil => rfl
  | accepted before r direct ih =>
    simp only [gather_append, ih]
    simp [direct]
  | began before ih =>
    simp only [gather_append, ih]
    simp
  | diverted before leads target outcome ih =>
    simp only [gather_append, ih]
    simp [Request.redirected]
  | answered before leads side middleware action ih
  | committed before url ih
  | ended before outcome ih
  | returned before outcome ih
  | readdressed before outcome ih =>
    simp only [gather_append, ih]
    simp

/-- A list that goes on has the same parts before an element of its beginning. -/
lemma split_of_append {α : Type} {l l' before later : List α} {x : α}
    (split : l ++ l' = before ++ x :: later) :
    (∃ middle, l = before ++ x :: middle ∧ later = middle ++ l') ∨
      ∃ middle, before = l ++ middle ∧ l' = middle ++ x :: later := by
  rcases List.append_eq_append_iff.mp split with ⟨middle, h, h'⟩ | ⟨middle, h, h'⟩
  · exact .inr ⟨middle, h, h'⟩
  · rcases middle with _ | ⟨y, middle⟩
    · exact .inr ⟨[], by simpa using h.symm, by simpa using h'.symm⟩
    · obtain ⟨rfl, rfl⟩ := List.cons_eq_cons.mp h'
      exact .inl ⟨middle, h, rfl⟩

/-- What an exit chain leads to has the very next turn: until then nothing is served. -/
lemma of_diverted (h : Serial journal queue current) {before later : List (Event μ)} {r : Request}
    (split : journal = before ++ .diverted r :: later) :
    (begunIn later ++ queue).head? = some r ∧ (begunIn later = [] → current = none) := by
  induction h generalizing later with
  | nil => simp at split
  | accepted _ r' direct ih =>
    obtain ⟨middle, h, rfl⟩ | ⟨middle, -, h⟩ := split_of_append split
    · obtain ⟨first, free⟩ := ih h
      have same : begunIn (middle ++ [.accepted r']) = begunIn middle := by simp
      rw [same, ← List.append_assoc, List.head?_append, first]
      exact ⟨rfl, free⟩
    · cases middle <;> simp at h
  | began _ ih =>
    obtain ⟨middle, h, rfl⟩ | ⟨middle, -, h⟩ := split_of_append split
    · refine ⟨by simpa using (ih h).1, fun none => ?_⟩
      simp at none
    · cases middle <;> simp at h
  | @diverted journal queue r' hop _ leads target outcome ih =>
    obtain ⟨middle, h, rfl⟩ | ⟨middle, -, h⟩ := split_of_append split
    · obtain ⟨first, free⟩ := ih h
      -- The request that was put in front before has had its turn, since another one is served now.
      rcases begun : begunIn middle with _ | ⟨r₀, rest⟩
      · cases free begun
      · rw [begun] at first
        simp only [gather_append, begun]
        exact ⟨first, fun _ => trivial⟩
    · rcases middle with _ | ⟨_, _ | ⟨_, middle⟩⟩
      · obtain ⟨rfl, rfl⟩ := by simpa using h
        exact ⟨rfl, fun _ => rfl⟩
      · simp at h
      · simp at h
  | answered _ _ _ _ _ ih
  | committed _ _ ih =>
    obtain ⟨middle, h, rfl⟩ | ⟨middle, -, h⟩ := split_of_append split
    · obtain ⟨first, free⟩ := ih h
      exact ⟨by simpa using first, fun none => free (by simpa using none)⟩
    · cases middle <;> simp at h
  | ended _ _ ih
  | returned _ _ ih
  | readdressed _ _ ih =>
    obtain ⟨middle, h, rfl⟩ | ⟨middle, -, h⟩ := split_of_append split
    · exact ⟨by simpa using (ih h).1, fun _ => rfl⟩
    · cases middle <;> simp at h

/-! ### Steps -/

lemma landed (before : Serial journal queue current) (p : Navigator.Progress μ κ η) {r : Request}
    (turn : current = some r) : Serial (journal ++ Navigator.landed p) queue current := by
  subst turn
  obtain h | ⟨url, h⟩ := Navigator.landed_cases p
  · simpa [h] using before
  · rw [h]
    exact before.committed url

lemma reach {r : Request} {p : Navigator.Progress μ κ η} (before : Serial journal queue (some r))
    (underway : Navigator.Underway r queue p) (flight : Flight) :
    Serial (journal ++ (Moment.reach r flight p).2) (Moment.reach r flight p).1.navigator.queue
      (Moment.reach r flight p).1.stage.request? := by
  rw [Moment.queue_reach underway]
  rcases p with ⟨n, _ | outcome⟩
  · simpa [Moment.reach] using before
  · exact before.ended outcome

lemma begun {r : Request} {p : Navigator.Progress μ κ η} (before : Serial journal (r :: queue) none)
    (underway : Navigator.Underway r queue p) (flight : Flight) :
    Serial (journal ++ (Moment.begun r flight p).2) (Moment.begun r flight p).1.navigator.queue
      (Moment.begun r flight p).1.stage.request? := by
  have landed := before.began.landed p rfl
  simpa [Moment.begun] using landed.reach underway flight

variable [Named μ] [Named κ] [History η]

omit [Named μ] [Named κ] in
/-- The answer of an exit middleware keeps a journal serial. -/
lemma exitAnswered {n : Navigator μ κ η} {flight : Flight} {page : ActivePage κ}
    {leaving : Leaving} {m : μ} {rest : List μ} {action : Action} {p : Navigator.Progress μ κ η}
    {r : Request} (before : Serial journal n.queue (some r))
    (goes : n.ExitReaction flight page leaving rest action p) (bare : n.active = none)
    (leads : r.Leads flight.request) :
    Serial (journal ++ (answerEvents .exit flight.request m action p ++
        (Moment.reach r flight p).2))
      (Moment.reach r flight p).1.navigator.queue (Moment.reach r flight p).1.stage.request? := by
  have underway := goes.underway bare leads
  have answered := before.answered leads .exit m action
  cases action with
  | proceed =>
    have landed := answered.landed p rfl
    simpa [answerEvents] using landed.reach underway flight
  | deny reason => simpa [answerEvents] using answered.reach underway flight
  | redirect target reason =>
    rw [Moment.queue_reach underway]
    cases goes with
    | redirected quiet =>
      simpa [answerEvents, Moment.reach, Navigator.queueAfter] using
        answered.diverted leads target (.blocked (reason.getD "Redirected") (some target))

omit [Named μ] in
/-- The answer of an entry middleware keeps a journal serial. -/
lemma entryAnswered {n : Navigator μ κ η} {flight : Flight} {route : Nat} {context : Context κ}
    {m : μ} {rest : List μ} {action : Action} {p : Navigator.Progress μ κ η} {r : Request}
    (before : Serial journal n.queue (some r))
    (goes : n.EntryReaction flight route context rest action p) (bare : n.active = none)
    (leads : r.Leads flight.request) :
    Serial (journal ++ (answerEvents .entry flight.request m action p ++
        (Moment.reach r flight p).2))
      (Moment.reach r flight p).1.navigator.queue (Moment.reach r flight p).1.stage.request? := by
  have underway := goes.underway bare leads
  have answered := before.answered leads .entry m action
  cases action with
  | proceed => simpa [answerEvents] using answered.reach underway flight
  | deny reason => simpa [answerEvents] using answered.reach underway flight
  | redirect target reason =>
    have landed := answered.landed p rfl
    simpa [answerEvents] using landed.reach underway flight

omit [Named μ] in
/-- No step breaks the order of a journal. -/
lemma move {n : Navigator μ κ η} {stage : Stage} {a : Act κ}
    {result : Moment μ κ η × List (Event μ)}
    (before : Serial journal n.queue stage.request?) (sound : Moment.Sound ⟨n, stage⟩)
    (move : Moment.Move n stage a result) :
    Serial (journal ++ result.2) result.1.navigator.queue result.1.stage.request? := by
  cases move with
  | still other => simpa using before
  | @called _ url kind _ target goes =>
    have empty : n.queue = [] := sound.2
    have accepted := before.accepted { url, kind } rfl
    rw [empty] at accepted
    have underway := goes.underway .here
    rw [empty] at underway
    simpa using accepted.begun underway _
  | queued other quiet =>
    obtain ⟨_, _, rfl⟩ := quiet
    exact before.accepted _ rfl
  | @readdressed push url =>
    have empty : n.queue = [] := sound.2
    rw [empty] at before
    rw [(Navigator.readdressing sound.1 push url).queue_eq, empty]
    exact before.readdressed _
  | exitAnswered doing goes =>
    cases doing ▸ sound.2 with
    | exiting leads => exact before.exitAnswered goes sound.1 leads
  | entryAnswered doing goes =>
    cases doing ▸ sound.2 with
    | entering leads => exact before.entryAnswered goes sound.1 leads
  | refusalShown doing quiet => exact before.reach (Navigator.underway_of_settled quiet _) _
  | returned queue =>
    rw [queue] at before ⊢
    exact before.returned _
  | dequeued queue quiet goes =>
    obtain ⟨_, _, rfl⟩ := quiet
    rw [queue] at before
    exact before.begun (goes.underway .here) _
  | touched =>
    simpa [(Touch.touched n _).queue] using before

/-- No run breaks the order of a journal. -/
theorem after {m : Moment μ κ η} (sound : m.Sound)
    (before : Serial journal m.navigator.queue m.stage.request?) (acts : List (Act κ)) :
    Serial (journal ++ m.journal acts) (m.after acts).navigator.queue
      (m.after acts).stage.request? := by
  induction acts generalizing m journal with
  | nil => simpa using before
  | cons a acts ih =>
    have step := before.move sound (Moment.move sound a)
    simpa using ih (Moment.sound_step sound a) step

end Serial

/-- Every navigator serves its requests one after the other. While it waits for something, a request
is queued and does nothing else; the journal of the run is that of a server with a queue, so
requests have their turns in the order in which they were accepted, each of them once, and what an
exit chain leads to comes before all others; and between two calls nothing is in progress and
nothing waits. -/
theorem requests_served_in_order [Named μ] [Named κ] [History η] {s : Setup μ κ η}
    {n : Navigator μ κ η} (built : s.build = .ok n) (acts : List (Act κ)) :
    let m := (Moment.start n).after acts
    let journal := (Moment.start n).journal acts
    (∀ r, m.stage = .serving r → ∀ url,
      (∀ kind, ∃ n', Navigator.Quietly
          { m.navigator with queue := m.navigator.queue ++ [{ url, kind }] } n' ∧
        m.navigator.request kind url = (n', some (.queued url))) ∧
      (∀ push, ∃ n', Navigator.Quietly
          { m.navigator with
            queue := m.navigator.queue ++ [{ url, kind := if push then .push else .replace }] } n' ∧
        m.navigator.inPlace push url = (n', .queued url))) ∧
    Serial journal m.navigator.queue m.stage.request? ∧
    acceptedIn journal = (begunIn journal ++ m.navigator.queue).filter (·.redirects = 0) ∧
    (∀ before r later, journal = before ++ .diverted r :: later →
      (begunIn later ++ m.navigator.queue).head? = some r) ∧
    (m.stage = .resting → m.navigator.phase = .idle ∧ m.navigator.queue = []) := by
  have start := Moment.sound_start built
  have sound := Moment.sound_after start acts
  have empty : n.queue = [] := start.2
  have serial : Serial ((Moment.start n).journal acts)
      ((Moment.start n).after acts).navigator.queue
      ((Moment.start n).after acts).stage.request? := by
    have begins : Serial ([] : List (Event μ)) (Moment.start n).navigator.queue none := by
      rw [Moment.start, empty]
      exact .nil
    exact begins.after start acts
  intro m journal
  refine ⟨fun r busy url => ?_, serial, serial.accepted_eq, fun before r later split => ?_,
    fun resting => ?_⟩
  · have busy : m.navigator.phase ≠ .idle := by
      simp only [Moment.Sound, m, busy] at sound
      exact sound.2.phase_ne
    exact ⟨fun kind => Navigator.request_of_phase_ne busy kind url,
      fun push => Navigator.inPlace_of_phase_ne busy push url⟩
  · exact (serial.of_diverted split).1
  · simp only [Moment.Sound, m, resting] at sound
    exact ⟨by rw [Navigator.phase, sound.1]; rfl, sound.2⟩

/-- Two requests come to a page that asks before it is left; the first one is led to a third page,
which has its turn before the second. -/
theorem requests_served_in_order_redirect :
    let s : Setup String String MemoryHistory :=
      { routes := [{ Route.catchAll with exit := ["confirm"] }], history := {} }
    let acts : List (Act String) :=
      [.call (.start "/a"), .next, .call (.push "/b"), .call (.push "/c"),
        .answer (.redirect "/d" none), .next, .answer .proceed, .next]
    ∃ n, s.build = .ok n ∧
      begunIn ((Moment.start n).journal acts) =
        [⟨"/a", .replace, 0⟩, ⟨"/b", .push, 0⟩, ⟨"/d", .push, 1⟩, ⟨"/c", .push, 0⟩] ∧
      acceptedIn ((Moment.start n).journal acts) =
        (begunIn ((Moment.start n).journal acts) ++
          ((Moment.start n).after acts).navigator.queue).filter (·.redirects = 0) := by
  intro s acts
  have built : s.build = .ok _ := rfl
  exact ⟨_, built, by decide, (requests_served_in_order built acts).2.2.1⟩

end Wayfinder
