/-
Decoding the parameters of a page.

The captures of a URL are decoded in two places: where a page goes on with another URL of its route,
and by a middleware of the entry chain. The first one is told by the settings which capture holds
encoded parameters; the middleware is told when it is made. All else is the same, so the two agree
wherever they are told the same.

* `Session.runMiddleware_parse`: what the middleware does.
* `Moment.Move.enters`: a URL that is put into the history is entered with the captures of its route.
* `decoding_agrees`: the parameters of a page, however it came to its URL.
-/
import Wayfinder.Proofs.Address
import Wayfinder.Proofs.ParameterMap
import Wayfinder.Proofs.Redirects
import Wayfinder.Session.Behaviour

namespace Wayfinder

variable {μ κ η : Type}

/-! ### Decoding -/

/-- Which capture is read as a segment makes no difference where there is none. -/
lemma Segment.decodeCaptures_congr {captures : Parameters} {key key' : String}
    (absent : captures.get? key = none) (absent' : captures.get? key' = none) :
    Segment.decodeCaptures captures key = Segment.decodeCaptures captures key' := by
  have all {k : String} (none : captures.get? k = none) :
      captures.entries.filter (·.1 ≠ k) = captures.entries := by
    rw [List.filter_eq_self]
    rintro ⟨k', value⟩ mem
    have other : k' ≠ k := by
      rintro rfl
      exact Parameters.get?_eq_none_iff.mp none (List.mem_map_of_mem mem)
    simpa using other
  simp only [decodeCaptures, all absent, all absent', absent, absent']

/-- The context with the parameters that its captures stand for. The capture with the key is read as
a segment. -/
def Context.decoded (key : String) (c : Context κ) : Context κ :=
  { c with parameters := Segment.decodeCaptures c.captures key }

/-- The middleware that decodes parameters does so to the context it runs on, and lets it pass. -/
lemma Session.runMiddleware_parse {m : Middleware} {key : String} (deed : m.deed = .parse key)
    {w : Desk} (acts : m.acts ((w.state.runs.lookup m.number).getD 0)) (inside : w.detached = none) :
    (runMiddleware m w).2 = some .proceed ∧
      (runMiddleware m w).1.navigator = Touch.apply w.navigator (.edit (Context.decoded key)) := by
  unfold runMiddleware
  simp only [acts, if_true, deed, carryOut, onState, Workspace.editContext, inside, Workspace.report]
  exact ⟨trivial, rfl⟩

namespace Navigator

variable [History η] {n : Navigator μ κ η} {flight : Flight} {p : Progress μ κ η} {url : String}

/-! ### Entering a URL -/

/-- A URL whose entry chain has a middleware is about to be entered, with the captures of its
route. -/
def Enters (t : RouteTable μ) (url : String) (n : Navigator μ κ η) : Prop :=
  ∀ found m rest, t.firstMatch url = some found → t.entryChain found.index = m :: rest →
    ∃ flight context, n.activity = .entering flight found.index context (m :: rest) ∧
      flight.request.url = url ∧ context.captures = found.captures

section

variable {t : RouteTable μ}

/-- A request that arrives enters the URL that it puts into the history. -/
lemma Arrival.enters (goes : n.Arrival flight p) (used : t.Used n.table)
    (put : .committed url ∈ (landed p : List (Event μ))) : Enters t url p.1 := by
  intro found m rest first chain
  cases goes with
  | notFound _ _ resolved quiet =>
    obtain rfl : url = flight.request.url := by simpa [landed] using put
    obtain ⟨none, -⟩ := used.resolve resolved
    cases none.trans first
  | waits _ _ resolved chain' quiet =>
    obtain ⟨_, -, rfl⟩ := quiet
    obtain rfl : url = flight.request.url := by simpa [landed] using put
    obtain ⟨first', used'⟩ := used.resolve resolved
    cases first'.trans first
    rw [used'.entryChain_eq, chain] at chain'
    cases chain'
    exact ⟨_, _, rfl, rfl, rfl⟩
  | entered _ _ resolved chain' quiet =>
    obtain rfl : url = flight.request.url := by simpa [landed] using put
    obtain ⟨first', used'⟩ := used.resolve resolved
    cases first'.trans first
    rw [used'.entryChain_eq, chain] at chain'
    cases chain'

variable [Named κ]

lemma Departure.enters (goes : n.Departure flight p) (used : t.Used n.table)
    (put : .committed url ∈ (landed p : List (Event μ))) : Enters t url p.1 := by
  cases goes with
  | fresh shown quiet goes =>
    obtain ⟨_, -, rfl⟩ := quiet
    exact goes.enters used put
  | waits shown chain quiet =>
    obtain ⟨_, -, rfl⟩ := quiet
    cases put
  | left shown chain quiet goes =>
    obtain ⟨_, -, rfl⟩ := quiet
    exact goes.enters used put

lemma TakeOff.enters (goes : n.TakeOff flight p) (used : t.Used n.table)
    (put : .committed url ∈ (landed p : List (Event μ))) : Enters t url p.1 := by
  cases goes with
  | dropped | looped => cases put
  | departs target within goes => exact goes.enters used put

end

end Navigator

namespace Moment

variable {t : RouteTable μ} {n : Navigator μ κ η} {p : Navigator.Progress μ κ η} {url : String}

lemma enters_reach (enters : p.1.Enters t url) (r : Request) (flight : Flight) :
    (reach r flight p).1.navigator.Enters t url := by
  rcases p with ⟨n, _ | outcome⟩
  · exact enters
  · obtain ⟨_, -, h⟩ := n.quietly_reportServed flight outcome
    simp only [reach, h]
    exact enters

/-- The end of a request puts nothing into the history. -/
lemma committed_not_mem_reach (r : Request) (flight : Flight) :
    .committed url ∉ (reach r flight p).2 := by
  rcases p with ⟨n, _ | outcome⟩ <;> simp [reach]

variable [Named κ] [History η]

lemma enters_begun {flight : Flight} (goes : n.TakeOff flight p) (used : t.Used n.table)
    {r : Request} (put : .committed url ∈ (begun r flight p).2) :
    (begun r flight p).1.navigator.Enters t url :=
  enters_reach (goes.enters used (by simpa [begun, committed_not_mem_reach] using put)) _ _

/-- When a URL is put into the history, it is entered. -/
lemma Move.enters {stage : Stage} {a : Act κ} {result : Moment μ κ η × List (Event μ)}
    (move : Move n stage a result) (used : t.Used n.table) (put : .committed url ∈ result.2) :
    result.1.navigator.Enters t url := by
  cases move with
  | still | queued | readdressed | returned | touched => simp at put
  | called target goes => exact enters_begun goes used (by simpa using put)
  | exitAnswered doing goes =>
    refine enters_reach ?_ _ _
    have landed := (List.mem_append.mp put).resolve_right (committed_not_mem_reach _ _)
    cases goes with
    | next quiet =>
      obtain ⟨_, -, rfl⟩ := quiet
      simp [answerEvents, Navigator.landed] at landed
    | left quiet goes =>
      obtain ⟨_, -, rfl⟩ := quiet
      exact goes.enters used (by simpa [answerEvents] using landed)
    | denied | redirected => simp [answerEvents] at landed
  | entryAnswered doing goes =>
    refine enters_reach ?_ _ _
    have landed := (List.mem_append.mp put).resolve_right (committed_not_mem_reach _ _)
    cases goes with
    | next | entered | refused | denied => simp [answerEvents] at landed
    | followed quiet goes =>
      obtain ⟨_, -, rfl⟩ := quiet
      exact goes.enters used (by simpa [answerEvents] using landed)
  | refusalShown doing quiet => exact absurd put (committed_not_mem_reach _ _)
  | dequeued queue quiet goes =>
    obtain ⟨_, -, rfl⟩ := quiet
    exact enters_begun goes used put

variable [Named μ]

/-- When the last middleware of an entry chain lets the URL pass, the page is shown with its context. -/
lemma step_last {n : Navigator μ κ η} {flight : Flight} {route : Nat} {context : Context κ} {x : μ}
    (doing : n.activity = .entering flight route context [x]) (r : Request) :
    let success : Outcome := .success flight.request.url
    ∃ n', (n.settled route context).Quietly n' ∧
      step ⟨n, .serving r⟩ (.answer .proceed) =
        (⟨n', .served r success (flight.owed.getD success)⟩, [.answered .entry flight.request x .proceed,
          .ended r success]) := by
  intro success
  obtain ⟨p, reacts, goes⟩ := Navigator.react_entering doing .proceed
  cases goes with
  | entered quiet =>
    refine ⟨_, quiet.trans (Navigator.quietly_reportServed _ flight (.success flight.request.url)), ?_⟩
    simp only [step, answer, Navigator.asked?, doing, reacts, reach, answerEvents]
    rfl

/-- When the parameters are decoded by the only middleware that a route is still entered with, the page
is shown with them. -/
lemma decode_last {m : Moment μ κ η} (sound : m.Sound) {flight : Flight} {route : Nat}
    {context : Context κ} {x : μ}
    (doing : m.navigator.activity = .entering flight route context [x]) (key : String) :
    let m' := m.after [.touch (.edit (Context.decoded key)), .answer .proceed]
    m'.navigator.active = some { route := some route, context := context.decoded key } ∧
      m'.navigator.phase = .idle ∧
      ∃ r, m.stage = .serving r ∧ m.journal [.touch (.edit (Context.decoded key)), .answer .proceed] =
        [.answered .entry flight.request x .proceed, .ended r (.success flight.request.url)] := by
  obtain ⟨n, stage⟩ := m
  dsimp only at doing
  cases stage with
  | resting => cases doing.symm.trans sound.1
  | served => cases doing.symm.trans sound
  | serving r =>
    have edited : (Touch.apply n (.edit (Context.decoded key))).activity =
        .entering flight route (context.decoded key) [x] := by
      rw [Touch.apply, Navigator.editContext, doing]
      rfl
    obtain ⟨n', ⟨_, -, rfl⟩, stepped⟩ := step_last edited r
    refine ⟨?_, ?_, r, rfl, ?_⟩
    · show (step ⟨_, _⟩ _).1.navigator.active = _
      rw [stepped]
      rfl
    · show (step ⟨_, _⟩ _).1.navigator.phase = _
      rw [stepped]
      rfl
    · show _ ++ ((step ⟨_, _⟩ _).2 ++ _) = _
      rw [stepped]
      rfl

end Moment

/-! ### The settings -/

namespace Navigator

variable [History η] {n : Navigator μ κ η} {flight : Flight} {p : Progress μ κ η}

lemma Arrival.config_eq (goes : n.Arrival flight p) : p.1.config = n.config := by
  cases goes with
  | notFound put aim found quiet
  | waits put aim found chain quiet
  | entered put aim found chain quiet =>
    obtain ⟨_, -, rfl⟩ := quiet
    rfl

variable [Named κ]

lemma TakeOff.config_eq (goes : n.TakeOff flight p) : p.1.config = n.config := by
  cases goes with
  | dropped target quiet
  | looped target exceeds quiet =>
    obtain ⟨_, -, rfl⟩ := quiet
    rfl
  | departs target within goes =>
    cases goes with
    | waits shown chain quiet =>
      obtain ⟨_, -, rfl⟩ := quiet
      rfl
    | fresh shown quiet goes
    | left shown chain quiet goes =>
      obtain ⟨_, -, rfl⟩ := quiet
      exact goes.config_eq

omit [Named κ] in
lemma ExitReaction.config_eq {page : ActivePage κ} {leaving : Leaving} {rest : List μ}
    {action : Action} (goes : n.ExitReaction flight page leaving rest action p) :
    p.1.config = n.config := by
  cases goes with
  | next quiet
  | denied quiet
  | redirected quiet =>
    obtain ⟨_, -, rfl⟩ := quiet
    rfl
  | left quiet goes =>
    obtain ⟨_, -, rfl⟩ := quiet
    exact goes.config_eq

lemma EntryReaction.config_eq {route : Nat} {context : Context κ} {rest : List μ} {action : Action}
    (goes : n.EntryReaction flight route context rest action p) : p.1.config = n.config := by
  cases goes with
  | next quiet
  | entered quiet
  | refused shows quiet
  | denied shows quiet =>
    obtain ⟨_, -, rfl⟩ := quiet
    rfl
  | followed quiet goes =>
    obtain ⟨_, -, rfl⟩ := quiet
    exact goes.config_eq

end Navigator

namespace Moment

lemma config_reach (p : Navigator.Progress μ κ η) (r : Request) (flight : Flight) :
    (reach r flight p).1.navigator.config = p.1.config := by
  rcases p with ⟨n, _ | outcome⟩
  · rfl
  · obtain ⟨_, -, h⟩ := n.quietly_reportServed flight outcome
    simp only [reach, h]

variable [Named κ] [History η]

/-- No step changes the settings. -/
lemma Move.config_eq {n : Navigator μ κ η} {stage : Stage} {a : Act κ}
    {result : Moment μ κ η × List (Event μ)} (move : Move n stage a result)
    (sound : Sound ⟨n, stage⟩) : result.1.navigator.config = n.config := by
  cases move with
  | still | returned => rfl
  | called target goes => exact (config_reach ..).trans goes.config_eq
  | queued other quiet =>
    obtain ⟨_, -, rfl⟩ := quiet
    rfl
  | readdressed => exact (Navigator.readdressing sound.1 ..).config_eq
  | exitAnswered doing goes => exact (config_reach ..).trans goes.config_eq
  | entryAnswered doing goes => exact (config_reach ..).trans goes.config_eq
  | refusalShown doing quiet =>
    obtain ⟨_, -, rfl⟩ := quiet
    exact config_reach ..
  | dequeued queue quiet goes =>
    obtain ⟨_, -, rfl⟩ := quiet
    exact (config_reach ..).trans goes.config_eq
  | touched => exact (Touch.touched ..).config

/-- The settings of a run are those it has begun with. -/
lemma config_after [Named μ] {m : Moment μ κ η} (sound : m.Sound) (acts : List (Act κ)) :
    (m.after acts).navigator.config = m.navigator.config := by
  induction acts generalizing m with
  | nil => rfl
  | cons a acts ih => exact (ih (sound_step sound a)).trans ((move sound a).config_eq sound)

end Moment

/-! ### Both ways -/

/-- The parameters of a page are decoded alike when the page goes on with a URL of its route and when
the URL is entered, if both read the same capture as a segment. Let a page have taken the URL in some
run. In any other one, let the act `a` put it into the history, and let the only middleware of its entry
chain be one that decodes the parameters in the capture `key` and lets the URL be entered. Then the page
is shown, and of its parameters those of the captures are the same, unless the settings name another
capture than `key` and the route has one of the two. -/
theorem decoding_agrees [Named μ] [Named κ] [History η] {s : Setup μ κ η} {n : Navigator μ κ η}
    (built : s.build = .ok n) (key : String) {url url' : String} {push : Bool} {acts : List (Act κ)}
    (idle : ((Moment.start n).after acts).navigator.phase = .idle)
    (success : (((Moment.start n).after acts).navigator.inPlace push url).2 = .success url')
    {found : RouteMatch} {x : μ} (first : n.table.firstMatch url = some found)
    (chain : n.table.entryChain found.index = [x]) {before : List (Act κ)} {a : Act κ}
    (put : .committed url ∈ (((Moment.start n).after before).step a).2) :
    let readdressed := (((Moment.start n).after acts).navigator.inPlace push url).1
    let decode : List (Act κ) := [.touch (.edit (Context.decoded key)), .answer .proceed]
    let entering := (Moment.start n).after (before ++ [a])
    let entered := (entering.after decode).navigator
    (∃ page page', readdressed.active = some page ∧ entered.active = some page' ∧
      page.route = some found.index ∧ page'.route = some found.index) ∧
    entering.navigator.asked?.map (·.2.2) = some x ∧
    (∃ r, entering.stage = .serving r ∧ .ended r (.success url) ∈ entering.journal decode) ∧
    readdressed.currentParameters =
      Segment.decodeCaptures found.captures s.config.parametersKey ∧
    entered.currentParameters = Segment.decodeCaptures found.captures key ∧
    (key = s.config.parametersKey ∨ found.captures.get? key = none ∧
        found.captures.get? s.config.parametersKey = none →
      readdressed.currentParameters = entered.currentParameters) := by
  intro readdressed decode entering entered
  have start := Moment.sound_start built
  have begins : n.config = s.config := by
    obtain rfl := Setup.eq_of_build built
    rfl
  obtain ⟨page, shown, route, here⟩ : ∃ page, readdressed.active = some page ∧
      page.route = some found.index ∧
      page.context.parameters = Segment.decodeCaptures found.captures s.config.parametersKey := by
    obtain ⟨rfl, page, table, found', -, resolved, route, _, -, changed⟩ :=
      Navigator.inPlace_of_success idle success
    have used := ((Stands.start built).after start acts).1
    obtain ⟨first', -⟩ := used.resolve resolved
    cases first'.trans first
    have settings := (Moment.config_after start acts).trans begins
    refine ⟨_, congrArg Navigator.active changed, route, ?_⟩
    exact congrArg (fun config => Segment.decodeCaptures found.captures config.parametersKey) settings
  have used := ((Stands.start built).after start before).1
  have sound := Moment.sound_after start before
  have last : entering = (((Moment.start n).after before).step a).1 := Moment.after_append ..
  have enters := (Moment.move sound a).enters used put
  rw [← last] at enters
  obtain ⟨flight, context, doing, rfl, captures⟩ := enters found x [] first chain
  obtain ⟨shown', -, r, serving, journal⟩ :=
    Moment.decode_last (last ▸ Moment.sound_step sound a) doing key
  have there : entered.currentParameters = Segment.decodeCaptures found.captures key := by
    rw [Navigator.currentParameters, shown', ← captures]
    rfl
  have same : readdressed.currentParameters = page.context.parameters := by
    rw [Navigator.currentParameters, shown]
  refine ⟨⟨page, _, shown, shown', route, rfl⟩, ?_, ⟨r, serving, ?_⟩, same.trans here, there,
    fun agreed => ?_⟩
  · simp only [Navigator.asked?, doing]
    rfl
  · rw [journal]
    simp
  · rw [same, here, there]
    obtain rfl | ⟨absent, absent'⟩ := agreed
    · rfl
    · exact Segment.decodeCaptures_congr absent' absent

/-- Two captures have a name in common with what the segment says, and the segment wins both ways. -/
theorem decoding_agrees_collision :
    let s : Setup String String MemoryHistory :=
      { config := { parametersKey := "p" }
        routes := [{ (Route.new "/items/:page/:p?" : Route String) with entry := ["parse"] }]
        history := {} }
    let decode : List (Act String) := [.touch (.edit (Context.decoded "p")), .answer .proceed]
    let acts : List (Act String) := .call (.start "/items/1") :: decode ++ [.next]
    let url := "/items/1/page=2"
    ∃ n, s.build = .ok n ∧
      let m := (Moment.start n).after acts
      let readdressed := (m.navigator.inPlace false url).1
      let entering := (Moment.start n).after (acts ++ [.call (.push url)])
      let entered := (entering.after decode).navigator
      m.navigator.currentParameters = .ofList [("page", "1")] ∧
      (m.navigator.inPlace false url).2 = .success url ∧
      readdressed.currentParameters = .ofList [("page", "2")] ∧
      entered.currentParameters = .ofList [("page", "2")] := by
  intro s decode acts url
  have built : s.build = .ok _ := rfl
  refine ⟨_, built, ?_⟩
  intro m readdressed entering entered
  have idle : m.navigator.phase = .idle := by decide +kernel
  have success : (m.navigator.inPlace false url).2 = .success url := by decide +kernel
  have put : .committed url ∈ (m.step (.call (.push url))).2 := by decide +kernel
  have first : s.table.firstMatch url = some ⟨0, .ofList [("page", "1"), ("p", "page=2")]⟩ := by
    decide +kernel
  have chain : s.table.entryChain 0 = ["parse"] := by decide +kernel
  obtain ⟨-, -, -, here, there, -⟩ :=
    decoding_agrees built "p" idle success first chain put
  exact ⟨by decide +kernel, success, here.trans (by decide +kernel),
    there.trans (by decide +kernel)⟩

/-- Where the settings name another capture than the middleware does, a URL has different parameters
once it is entered. -/
theorem decoding_differs :
    let s : Setup String String MemoryHistory :=
      { config := { parametersKey := "p" }
        routes := [{ (Route.new "/items/:p?" : Route String) with entry := ["parse"] }]
        history := {} }
    let decode : List (Act String) :=
      [.touch (.edit (Context.decoded "parameters")), .answer .proceed]
    let acts : List (Act String) := .call (.start "/items") :: decode ++ [.next]
    let url := "/items/page=2"
    ∃ n, s.build = .ok n ∧
      let m := (Moment.start n).after acts
      let readdressed := (m.navigator.inPlace true url).1
      let entered := (m.after (.call (.push url) :: decode)).navigator
      (m.navigator.inPlace true url).2 = .success url ∧
      readdressed.currentParameters = .ofList [("page", "2")] ∧
      entered.currentUrl? = some url ∧ entered.phase = .idle ∧
      entered.currentParameters = .ofList [("p", "page=2")] ∧
      readdressed.currentParameters ≠ entered.currentParameters := by
  intro s decode acts url
  exact ⟨_, rfl, by decide +kernel, by decide +kernel, by decide +kernel, by decide +kernel,
    by decide +kernel, by decide +kernel⟩

end Wayfinder
