/-
Traversals that wait.

A traversal that is asked for while a navigation is in progress goes to the end of the queue,
provided that there is an entry to go to at this moment; otherwise nothing happens at all. The entry
that was seen then is of no further importance: where the traversal goes is looked up when its turn
comes, and it moves by one entry from where the requests before it have left the history, or is
dropped. So a traversal that waits does what it would do if it were asked for only after the others
have ended.

* `Moment.asked_of_none`, `Moment.asked_of_some`: what becomes of a traversal that is asked for.
* `Moment.dropped`, `Moment.traversed`: what becomes of it when its turn comes.
* `Moment.alike_of_late`: asking early and asking late lead to the same.
-/
import Wayfinder.Proofs.Course
import Wayfinder.Proofs.Likeness
import Wayfinder.Proofs.Redirects

namespace Wayfinder

variable {μ κ η : Type}

/-- The direction of a call, if it is a traversal. -/
@[simp] def Call.direction? : Call → Option Kind
  | back => some .back
  | forward => some .forward
  | _ => none

lemma isTraversal_of_direction {c : Call} {kind : Kind} (direction : c.direction? = some kind) :
    kind.isTraversal := by
  cases c with
  | back | forward => cases direction; rfl
  | start | push | replace => cases direction

namespace Navigator

variable [History η]

lemma target?_of_direction {c : Call} {kind : Kind} (direction : c.direction? = some kind)
    (n : Navigator μ κ η) : n.target? c = (n.traversalUrl? kind).map (kind, ·) := by
  cases c with
  | back | forward => cases direction; rfl
  | start | push | replace => cases direction

/-- Of a traversal only the direction counts. -/
lemma located?_of_isTraversal (n : Navigator μ κ η) {r : Request} (way : r.kind.isTraversal) :
    n.located? r = (n.traversalUrl? r.kind).map fun url => { r with url } := by
  obtain ⟨offset, way⟩ := Option.isSome_iff_exists.mp (r.kind.isTraversal_eq ▸ way)
  simp only [located?, traversalUrl?, way, Option.bind_some, Option.map_map]
  rfl

/-- The URL that a traversal was asked for with makes no difference. -/
lemma TakeOff.relocated [Named κ] {n : Navigator μ κ η} {flight : Flight} {p : Progress μ κ η}
    (goes : n.TakeOff flight p) (way : flight.request.kind.isTraversal) (url : String) :
    n.TakeOff { flight with request := { flight.request with url } } p := by
  have same : n.located? { flight.request with url } = n.located? flight.request := by
    rw [n.located?_of_isTraversal way,
      located?_of_isTraversal n (r := { flight.request with url }) way]
  cases goes with
  | dropped target quiet => exact .dropped (same.trans target) quiet
  | looped target exceeds quiet => exact .looped (same.trans target) exceeds quiet
  | departs target within goes => exact .departs (same.trans target) within goes

end Navigator

namespace Moment

/-! ### Asking -/

/-- While a navigation is in progress, a request is served. -/
lemma Sound.serving {m : Moment μ κ η} (sound : m.Sound) (busy : m.navigator.phase ≠ .idle) :
    ∃ r, m.stage = .serving r := by
  rcases m with ⟨n, _ | r | ⟨r, outcome, owed⟩⟩
  · exact absurd (congrArg Activity.phase sound.1) busy
  · exact ⟨r, rfl⟩
  · exact absurd (congrArg Activity.phase (show n.activity = .idle from sound)) busy

variable [Named μ] [Named κ]

section

variable [History η] {m : Moment μ κ η} {a : Act κ} {r : Request}

/-- A traversal that is asked for while there is no entry to go to is gone. -/
theorem asked_of_none {c : Call} {kind : Kind} (direction : c.direction? = some kind)
    (nowhere : m.navigator.traversalUrl? kind = none) : m.step (.call c) = (m, []) := by
  have target := Navigator.target?_of_direction direction m.navigator
  rw [nowhere] at target
  simp only [step, call, target, Option.map_none]

/-- A traversal that is asked for while a navigation is in progress has to wait, if there is an entry
to go to now. -/
theorem asked_of_some (sound : m.Sound) (busy : m.navigator.phase ≠ .idle) {c : Call} {kind : Kind}
    (direction : c.direction? = some kind) {url : String}
    (seen : m.navigator.traversalUrl? kind = some url) :
    ∃ n', Navigator.Quietly { m.navigator with queue := m.navigator.queue ++ [{ url, kind }] } n' ∧
      m.navigator.request kind url = (n', some (.queued url)) ∧
      m.step (.call c) = ({ m with navigator := n' }, [.accepted { url, kind }]) := by
  obtain ⟨r, serving⟩ := sound.serving busy
  have target := Navigator.target?_of_direction direction m.navigator
  rw [seen] at target
  obtain ⟨n', quiet, h⟩ := Navigator.request_of_phase_ne busy kind url
  refine ⟨n', quiet, h, ?_⟩
  simp only [step, call, target, Option.map_some, serving, h]

/-! ### The turn -/

omit [Named μ] [Named κ] in
/-- No redirect leads to a traversal. -/
lemma redirects_of_upcoming {limit : Nat} {l : Lineage} (bounded : Bounded limit l m)
    (turn : m.upcoming? a = some r) (way : r.kind.isTraversal) : r.redirects = 0 := by
  cases a with
  | call c =>
    cases bounded with
    | resting =>
      obtain ⟨_, -, rfl⟩ := Option.map_eq_some_iff.mp turn
      rfl
    | serving | served | diverted => cases turn
  | next =>
    cases bounded with
    | resting | serving => cases turn
    | served bound taken direct =>
      exact direct r (List.mem_of_mem_head? turn)
    | diverted queue counts bound waits push =>
      simp only [upcoming?, queue, List.head?_cons, Option.some.injEq] at turn
      rw [← turn, push] at way
      cases way
  | inPlace | answer | shown | touch => cases turn

/-- A traversal whose turn comes when there is no entry to go to is dropped, and that is all. -/
theorem dropped (sound : m.Sound) (turn : m.upcoming? a = some r) (way : r.kind.isTraversal)
    (nowhere : m.navigator.traversalUrl? r.kind = none) :
    (m.step a).1.navigator.effect = { m.navigator.effect with queue := m.waiting a } ∧
      ∃ owed, (m.step a).1.stage = .served r (.blocked "No history entry to go to" none) owed := by
  have idle := sound.idle_of_upcoming turn
  obtain ⟨n', flight, p, accepted, rfl, ⟨outbox, told, rfl⟩, goes, -, began⟩ :=
    step_of_upcoming turn
  have located : m.navigator.located? flight.request = none := by
    rw [Navigator.located?_of_isTraversal _ way, nowhere, Option.map_none]
  rw [began]
  cases goes with
  | dropped target quiet =>
    obtain ⟨_, told', rfl⟩ := quiet
    refine ⟨?_, _, rfl⟩
    simp only [begun, reach]
    obtain ⟨_, told'', h⟩ := Navigator.quietly_reportServed _ flight
      (.blocked "No history entry to go to" none)
    rw [h]
    simp only [Navigator.effect, told'', told', told, idle]
  | looped target | departs target => cases located.symm.trans target

end

end Moment

/-! ### Moves -/

/-- A request whose page was kept: nothing was put into the history. -/
inductive Kept (past : MemoryHistory) (journal : List (Event μ)) : Moment μ κ MemoryHistory → Prop
  | intro {n r outcome owed} (urls : n.history.urls = past.urls)
    (position : n.history.position = past.position) (committed : committedIn journal = [])
    (refused : ¬ LetGo journal) : Kept past journal ⟨n, .served r outcome owed⟩

/-- How far a traversal to a URL has come that was there when its turn began. -/
inductive Traversed (past : MemoryHistory) (offset : Int) (url : String) (journal : List (Event μ))
    (m : Moment μ κ MemoryHistory) : Prop
  /-- Its page is still being left, or was kept. -/
  | stays (urls : m.navigator.history.urls = past.urls)
    (position : m.navigator.history.position = past.position) (committed : committedIn journal = [])
    (held : m.navigator.phase = .exiting ∨ ¬ LetGo journal)
  /-- It has moved to the entry with the URL. If entry chains have led elsewhere, the entry is
  overwritten. -/
  | moves {us last} (position : (m.navigator.history.position : Int) = past.position + offset)
    (there : past.urls[m.navigator.history.position]? = some url)
    (committed : committedIn journal = url :: us) (led : (url :: us).getLast? = some last)
    (urls : m.navigator.history.urls = past.urls.set m.navigator.history.position last)

section

variable {past : MemoryHistory} {r : Request} {url : String} {journal : List (Event μ)}
  {n : Navigator μ κ MemoryHistory} {stage : Stage} {a : Act κ}
  {result : Moment μ κ MemoryHistory × List (Event μ)}

/-- Once a page was kept, the history stays until the next turn. -/
lemma Kept.move [Named μ] [Named κ] (kept : Kept past journal ⟨n, stage⟩)
    (move : Moment.Move n stage a result) (same : a ≠ .next) :
    Kept past (journal ++ result.2) result.1 := by
  cases kept with
  | intro urls position committed refused =>
    cases move with
    | still other => simpa using Kept.intro urls position committed refused
    | returned | dequeued => exact absurd rfl same
    | @touched _ t =>
      have history := (t.touched n).history
      simpa using Kept.intro (history ▸ urls) (history ▸ position) committed refused

/-! Only the answers of exit middlewares say whether a page is left. -/

@[simp] lemma leave?_landed (p : Navigator.Progress μ κ η) :
    gather Event.leave? (Navigator.landed p) = [] :=
  Navigator.gather_landed (fun _ => rfl) p

@[simp] lemma leave?_reach (p : Navigator.Progress μ κ η) (r : Request) (flight : Flight) :
    gather Event.leave? (Moment.reach r flight p).2 = [] := by
  rcases p with ⟨n, _ | outcome⟩ <;> rfl

@[simp] lemma leave?_answerEvents (side : Side) (hop : Request) (m : μ) (action : Action)
    (p : Navigator.Progress μ κ η) : gather Event.leave? (answerEvents side hop m action p) =
      match side with
      | .exit => [action]
      | .entry => [] := by
  cases side <;> cases action <;> simp [answerEvents]

/-- A request stays on its course until its page is kept. -/
lemma Course.move_or_kept [Named μ] [Named κ]
    (aim : ∀ offset, r.kind.offset? = some offset → (past.peek? offset).map (·.url) = some url)
    (some : r.kind.isTraversal → past.urls ≠ []) (course : Course past r url journal ⟨n, stage⟩)
    (sound : Moment.Sound ⟨n, stage⟩) (move : Moment.Move n stage a result) (same : a ≠ .next) :
    Course past r url (journal ++ result.2) result.1 ∨ Kept past (journal ++ result.2) result.1 := by
  by_cases lets : LetGo result.2
  · exact .inl (course.move aim some sound move same lets)
  · -- Only the answer of an exit middleware can have refused.
    refine .inr ?_
    cases move with
    | @exitAnswered _ flight _ _ m _ action p doing goes =>
      cases course with
      | entering phase =>
        rw [Navigator.phase, doing] at phase
        cases phase
      | leaving _ _ _ urls position committed =>
        have refuses : ¬ LetGo (journal ++
            (answerEvents .exit flight.request m action p ++ (Moment.reach r flight p).2)) :=
          fun h => lets h.of_append.2
        cases goes with
        | next | left => exact absurd (by simp [LetGo]) lets
        | denied quiet | redirected quiet =>
          obtain ⟨_, -, rfl⟩ := quiet
          refine .intro ?_ ?_ ?_ refuses
          · rw [Navigator.history_reportServed, urls]
          · rw [Navigator.history_reportServed, position]
          · simpa [answerEvents, Moment.reach] using committed
    | still | queued | touched | entryAnswered | refusalShown =>
      exact absurd (by simp [LetGo]) lets
    | called | readdressed => cases course
    | returned | dequeued => exact absurd rfl same

/-- So it does over a whole turn. -/
lemma Course.after_or_kept [Named μ] [Named κ] {m : Moment μ κ MemoryHistory}
    (aim : ∀ offset, r.kind.offset? = some offset → (past.peek? offset).map (·.url) = some url)
    (some : r.kind.isTraversal → past.urls ≠ [])
    (course : Course past r url journal m ∨ Kept past journal m) (sound : m.Sound)
    {acts : List (Act κ)} (same : .next ∉ acts) :
    Course past r url (journal ++ m.journal acts) (m.after acts) ∨
      Kept past (journal ++ m.journal acts) (m.after acts) := by
  induction acts generalizing m journal with
  | nil => simpa using course
  | cons a acts ih =>
    obtain ⟨other, same⟩ : (.next : Act κ) ≠ a ∧ .next ∉ acts := by simpa using same
    have move := Moment.move sound a
    have step : Course past r url (journal ++ (m.step a).2) (m.step a).1 ∨
        Kept past (journal ++ (m.step a).2) (m.step a).1 := by
      rcases course with course | kept
      · exact course.move_or_kept aim some sound move other.symm
      · exact .inr (kept.move move other.symm)
    simpa using ih step (Moment.sound_step sound a) same

/-- A traversal that has been put into the history has moved. -/
lemma Traversed.of_leaves {m : Moment μ κ MemoryHistory} {offset : Int}
    (way : r.kind.offset? = some offset) {i : Nat} (index : past.index? offset = some i)
    (there : past.urls[i]? = some url) {url' : String}
    (left : (m.navigator.history.urls, m.navigator.history.position) =
      r.kind.leaves past.urls past.position url')
    (committed : ∃ us, committedIn journal = url :: us)
    (last : (committedIn journal).getLast? = some url') : Traversed past offset url journal m := by
  rw [leaves_of_index? way index] at left
  obtain ⟨urls, position⟩ := Prod.mk.inj left
  obtain ⟨us, committed⟩ := committed
  rw [committed] at last
  subst position
  exact .moves (MemoryHistory.index?_eq index) there committed last urls

/-- So a traversal on its course has moved, or its page is still being left. -/
lemma Course.traversed {m : Moment μ κ MemoryHistory} (course : Course past r url journal m)
    {offset : Int} (way : r.kind.offset? = some offset) {i : Nat}
    (index : past.index? offset = some i) (there : past.urls[i]? = some url) :
    Traversed past offset url journal m := by
  cases course with
  | leaving doing kind target urls position committed =>
    exact .stays urls position committed (.inl (congrArg Activity.phase doing))
  | entering phase left committed last => exact .of_leaves way index there left ⟨_, committed⟩ last
  | ended left committed last =>
    refine .of_leaves way index there left ?_ last
    rcases committed with committed | ⟨_, _, -, committed⟩
    · exact ⟨_, committed⟩
    · -- One redirect was too many: the URLs before it were put into the history.
      rcases put : committedIn journal with _ | ⟨url', us⟩
      · rw [put] at last
        cases last
      · rw [put] at committed
        exact ⟨us, congrArg (· :: us) (List.cons_eq_cons.mp committed).1⟩

lemma Kept.traversed {m : Moment μ κ MemoryHistory} (kept : Kept past journal m) (offset : Int)
    (url : String) : Traversed past offset url journal m := by
  cases kept with
  | intro urls position committed refused => exact .stays urls position committed (.inr refused)

/-- A traversal whose turn comes when there is an entry to go to goes there, and nowhere else. -/
theorem Moment.traversed [Named μ] [Named κ] {m : Moment μ κ MemoryHistory} (sound : m.Sound)
    {a : Act κ} (turn : m.upcoming? a = some r) {offset : Int} (way : r.kind.offset? = some offset)
    (within : r.redirects ≤ m.navigator.config.maxRedirects)
    (seen : m.navigator.traversalUrl? r.kind = some url) {acts : List (Act κ)}
    (same : .next ∉ acts) :
    Traversed m.navigator.history offset url (m.journal (a :: acts)) (m.after (a :: acts)) := by
  have target : m.navigator.located? r = some { r with url } := by
    rw [m.navigator.located?_of_isTraversal (by simp [Kind.isTraversal_eq, way]), seen,
      Option.map_some]
  obtain ⟨-, aim⟩ := Navigator.aim_of_located target
  obtain ⟨e, found, rfl⟩ := Option.map_eq_some_iff.mp (aim offset way)
  obtain ⟨i, index, there⟩ := MemoryHistory.of_peek? found
  have some : m.navigator.history.urls ≠ [] := List.ne_nil_of_mem (List.mem_of_getElem? there)
  obtain ⟨n', flight, p, accepted, request, quiet, goes, shape, began⟩ := step_of_upcoming turn
  have begins : Course m.navigator.history r e.url (m.step a).2 (m.step a).1 := by
    rw [began]
    refine (Course.begins quiet goes request target within).congr ?_ ?_
    · rcases shape with rfl | rfl <;> simp
    · rcases shape with rfl | rfl <;> simp
  rcases Course.after_or_kept aim (fun _ => some) (.inl begins) (sound_step sound a) same with
    course | kept
  · exact course.traversed way index there
  · exact kept.traversed offset e.url

end

/-! ### Asking late -/

namespace Moment

variable [Named μ] [Named κ] [History η] {m late early : Moment μ κ η} {c : Call} {kind : Kind}
  {url : String}

/-- A traversal that waits makes no difference while those before it are served. -/
lemma alike_of_asked (sound : m.Sound) (busy : m.navigator.phase ≠ .idle)
    (direction : c.direction? = some kind) (seen : m.navigator.traversalUrl? kind = some url)
    {acts : List (Act κ)} (asks : ∀ a ∈ acts, a.isRequest = false)
    (runs : (m.after acts).stage ≠ .resting) :
    Alike [{ url, kind }] (m.after acts) ((m.step (.call c)).1.after acts) := by
  obtain ⟨n', quiet, -, waits⟩ := asked_of_some sound busy direction seen
  have alike : Alike [{ url, kind }] m (m.step (.call c)).1 := by
    rw [waits]
    exact ⟨.of_quietly quiet, .refl _⟩
  exact alike.after sound (sound_step sound _) (.inr ⟨asks, runs⟩)

/-- Where a traversal goes does not depend on where it seemed to go when it was asked for. -/
lemma alike_relocated {n n' : Navigator μ κ η} (alike : n.Alike [] n') (way : kind.isTraversal)
    (url' : String) (owed : Option Outcome) :
    Alike [] (takeUp n { request := { url := url', kind } }).1
      (takeUp n' { request := { url, kind }, owed }).1 := by
  have goes := n.takeOff_eq { request := { url := url', kind } }
  have goes' := n'.takeOff_eq { request := { url, kind }, owed }
  exact .reach (goes.alike (goes'.relocated way url') alike) ..

/-- A traversal that is dropped lets the call go on, and return. -/
lemma alike_returned {n n' : Navigator μ κ η} (alike : n.Alike [] n') (idle : n.activity = .idle)
    (empty : n.queue = []) (way : kind.isTraversal) (nowhere : n.traversalUrl? kind = none)
    (owed : Outcome) :
    Alike [] ⟨n, .resting⟩ (takeUp n' { request := { url, kind }, owed := some owed }).1.next.1 := by
  have goes := n'.takeOff_eq { request := { url, kind }, owed := some owed }
  have located : n'.located? { url, kind } = none := by
    rw [n'.located?_of_isTraversal way, alike.traversalUrl?_eq, nowhere, Option.map_none]
  generalize hp : n'.takeOff { request := { url, kind }, owed := some owed } = p at goes
  cases goes with
  | @dropped n'' _ quiet =>
    rw [← alike.activity_eq_idle idle] at quiet
    have served := quiet.trans (n''.quietly_reportServed
      { request := { url, kind }, owed := some owed } (.blocked "No history entry to go to" none))
    have left : n.Alike [] (n''.reportServed _ _) := .quietly ⟨n.outbox, rfl, rfl⟩ served alike
    have empty' := left.queue_eq
    rw [empty, List.append_nil] at empty'
    simp only [takeUp, hp, reach, next, empty']
    exact ⟨left, .resting⟩
  | looped target | departs target => cases located.symm.trans target

/-- When the others have ended, its turn leads where asking for it now leads. If there is no entry to
go to, the call goes on once more, and returns. -/
lemma alike_of_turn (alike : Alike [{ url, kind }] late early) (sound : late.Sound)
    (direction : c.direction? = some kind) {r : Request} {outcome owed : Outcome}
    (ended : late.stage = .served r outcome owed) (empty : late.navigator.queue = []) :
    Alike [] (late.after [.next, .call c]) (early.after
      (if (late.navigator.traversalUrl? kind).isSome then [.next] else [.next, .next])) := by
  obtain ⟨n, stage⟩ := late
  obtain ⟨n', stage'⟩ := early
  obtain ⟨same, stages⟩ := alike
  obtain rfl : stage = .served r outcome owed := ended
  replace empty : n.queue = [] := empty
  cases stages with
  | @served _ r' _ _ owed' =>
    have queue' : n'.queue = [{ url, kind }] := by rw [same.queue_eq, empty, List.nil_append]
    -- The navigator whose turn it is differs from the other one only in what does not count.
    have taken : n.Alike [] (n'.dequeue { url, kind } []) := by
      have here : Navigator.Quietly { n with queue := [] } n := ⟨n.outbox, rfl, by rw [← empty]⟩
      exact Navigator.Alike.requeued same here (n'.quietly_dequeue { url, kind } [])
    have turn : (step (κ := κ) ⟨n', .served r' outcome owed'⟩ .next).1 =
        (takeUp (n'.dequeue { url, kind } []) { request := { url, kind }, owed := some owed' }).1 := by
      simp only [step, next, queue']
    have way := isTraversal_of_direction direction
    have target := Navigator.target?_of_direction direction n
    rcases seen : n.traversalUrl? kind with _ | url'
    · rw [seen] at target
      simp only [Option.isSome_none, Bool.false_eq_true, if_false, after_cons, after_nil, turn]
      simp only [step, next, empty, call, target, Option.map_none]
      exact alike_returned taken sound empty way seen owed'
    · rw [seen] at target
      simp only [Option.isSome_some, if_true, after_cons, after_nil, turn]
      simp only [step, next, empty, call, target, Option.map_some]
      exact alike_relocated taken way url' (some owed')

/-- Whatever happens afterwards, it makes no difference that the traversal was asked for early. -/
lemma alike_of_late (alike : Alike [{ url, kind }] late early) (sound : late.Sound)
    (sound' : early.Sound) (direction : c.direction? = some kind) {r : Request}
    {outcome owed : Outcome} (ended : late.stage = .served r outcome owed)
    (empty : late.navigator.queue = []) (later : List (Act κ)) :
    Alike [] (late.after (.next :: .call c :: later))
      (early.after ((if (late.navigator.traversalUrl? kind).isSome then [.next]
        else [.next, .next]) ++ later)) := by
  rw [after_append]
  exact (alike_of_turn alike sound direction ended empty).after
    (sound_after sound [.next, .call c]) (sound_after sound' _) (.inl rfl)

end Moment

/-- Traversals that are asked for while a navigation is in progress.

If there is an entry to go to at this moment, the traversal is put at the end of the queue and
answered as queued; otherwise nothing happens at all. The first case is as good as asking for it
after the others have ended: until then only the queue is different, and from then on nothing is but
what is told and owed to callers.

When the turn of a traversal comes, it goes to the entry beside the one where the requests before it
have left the history. Without such an entry it is dropped, and but for the queue everything stays. -/
theorem traversals_deferred [Named μ] [Named κ] {s : Setup μ κ MemoryHistory}
    {n : Navigator μ κ MemoryHistory} (built : s.build = .ok n) (before : List (Act κ)) :
    let m := (Moment.start n).after before
    (∀ c kind, c.direction? = some kind → m.navigator.phase ≠ .idle →
      (m.navigator.traversalUrl? kind = none → m.step (.call c) = (m, [])) ∧
      ∀ url, m.navigator.traversalUrl? kind = some url →
        (∃ n',
          Navigator.Quietly { m.navigator with queue := m.navigator.queue ++ [{ url, kind }] } n' ∧
          m.navigator.request kind url = (n', some (.queued url)) ∧
          m.step (.call c) = ({ m with navigator := n' }, [.accepted { url, kind }])) ∧
        ∀ acts, (∀ a ∈ acts, a.isRequest = false) → ∀ r outcome owed,
          let late := m.after acts
          let early := (m.step (.call c)).1.after acts
          late.stage = .served r outcome owed → late.navigator.queue = [] →
            early.navigator.effect = { late.navigator.effect with queue := [{ url, kind }] } ∧
            ∀ later,
              let turn :=
                if (late.navigator.traversalUrl? kind).isSome then [.next] else [.next, .next]
              let m₁ := early.after (turn ++ later)
              let m₂ := late.after (.next :: .call c :: later)
              m₁.navigator.effect = m₂.navigator.effect ∧ m₂.stage.Alike m₁.stage) ∧
    ∀ a r offset, m.upcoming? a = some r → r.kind.offset? = some offset →
      (m.navigator.traversalUrl? r.kind = none →
        (m.step a).1.navigator.effect = { m.navigator.effect with queue := m.waiting a } ∧
        ∃ owed, (m.step a).1.stage = .served r (.blocked "No history entry to go to" none) owed) ∧
      ∀ url, m.navigator.traversalUrl? r.kind = some url → ∀ acts, .next ∉ acts →
        Traversed m.navigator.history offset url (m.journal (a :: acts)) (m.after (a :: acts)) := by
  intro m
  have start := Moment.sound_start built
  have sound : m.Sound := Moment.sound_after start before
  have bounds : Bounds _ (lineageOf ((Moment.start n).journal before)) m :=
    (Bounds.start built).after start before
  refine ⟨fun c kind direction busy => ⟨Moment.asked_of_none direction, fun url seen =>
    ⟨Moment.asked_of_some sound busy direction seen, ?late⟩⟩,
    fun a r offset turn way => ⟨?nowhere, fun url seen acts same => ?goes⟩⟩
  case late =>
    intro acts asks r outcome owed late early ended empty
    have alike : Moment.Alike [{ url, kind }] late early :=
      Moment.alike_of_asked sound busy direction seen asks (by rw [ended]; rintro ⟨⟩)
    refine ⟨by rw [alike.navigator.effect_eq, empty, List.nil_append], fun later => ?_⟩
    have same := Moment.alike_of_late alike (Moment.sound_after sound acts)
      (Moment.sound_after (Moment.sound_step sound _) acts) direction ended empty later
    refine ⟨?_, same.stage⟩
    rw [same.navigator.effect_eq, List.append_nil]
    rfl
  case nowhere => exact Moment.dropped sound turn (by simp [Kind.isTraversal_eq, way])
  case goes =>
    have direct := Moment.redirects_of_upcoming bounds.2 turn (by simp [Kind.isTraversal_eq, way])
    exact Moment.traversed sound turn way (by omega) seen same

/-- Going back while another page is being pushed: when it was asked for, the entry to go to was the
first one, and it goes to the second one. -/
theorem traversals_deferred_back :
    let s : Setup String String MemoryHistory :=
      { routes := [{ (Route.catchAll : Route String) with exit := ["ask"] }], history := {} }
    let before : List (Act String) :=
      [.call (.start "/a"), .next, .call (.push "/b"), .answer .proceed, .next, .call (.push "/c")]
    let acts : List (Act String) := [.answer .proceed]
    ∃ n, s.build = .ok n ∧
      let m := (Moment.start n).after before
      let late := m.after acts
      let early := (m.step (.call .back)).1.after acts
      let m' := early.after [.next, .answer .proceed]
      m.navigator.phase = .exiting ∧ m.navigator.traversalUrl? .back = some "/a" ∧
      early.navigator.queue = [⟨"/a", .back, 0⟩] ∧
      m'.navigator.effect = (late.after [.next, .call .back, .answer .proceed]).navigator.effect ∧
      m'.navigator.history.urls = ["/a", "/b", "/c"] ∧ m'.navigator.history.position = 1 := by
  intro s before acts
  have built : s.build = .ok _ := rfl
  obtain ⟨asked, -⟩ := traversals_deferred (κ := String) built before
  obtain ⟨-, waits⟩ := asked .back .back rfl (by decide)
  obtain ⟨-, late⟩ := waits "/a" (by decide)
  obtain ⟨-, same⟩ := late acts (by decide) ⟨"/c", .push, 0⟩ (.success "/c") (.success "/c")
    (by decide) (by decide)
  obtain ⟨effect, -⟩ := same [.answer .proceed]
  rw [if_pos (by decide)] at effect
  exact ⟨_, built, by decide, by decide, by decide, effect, by decide, by decide⟩

/-- Going back while the first page is being left: there is no entry to go to yet, so the traversal
is gone. Asked for after the other page has been entered, it leads back. -/
theorem traversals_lost_early :
    let s : Setup String String MemoryHistory :=
      { routes := [{ (Route.catchAll : Route String) with exit := ["ask"] }], history := {} }
    let before : List (Act String) := [.call (.start "/a"), .next, .call (.push "/b")]
    ∃ n, s.build = .ok n ∧
      let m := (Moment.start n).after before
      let early := (m.step (.call .back)).1.after [.answer .proceed]
      let late := m.after [.answer .proceed]
      m.navigator.phase = .exiting ∧ m.step (.call .back) = (m, []) ∧
      early.navigator.queue = [] ∧ late.navigator.traversalUrl? .back = some "/a" ∧
      (early.after [.next]).navigator.history.position = 1 ∧
      (late.after [.next, .call .back, .answer .proceed]).navigator.history.position = 0 := by
  intro s before
  have built : s.build = .ok _ := rfl
  exact ⟨_, built, by decide, Moment.asked_of_none rfl (by decide), by decide, by decide, by decide,
    by decide⟩

end Wayfinder
