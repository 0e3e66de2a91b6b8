/-
A navigator at rest.

The page that is shown, the history and the route table are written in different places: when a request
arrives, when a chain keeps its page, when entry is refused, when a page changes its address. Whenever
nothing is in progress they fit together all the same. The page is that of the current history entry,
and it has the route and the captures that the table resolves its URL to.

There may be no page at all. That is so until a URL is put into the history for the first time, and
after an entry chain has led elsewhere once too often (`GaveUp`), until the next URL is put into it.

* `OnRoute`, `AtHome`: what a page has to do with the table, and how it is kept up while chains run.
* `AtHome.after`: every run keeps it up.
* `at_rest`: what holds whenever nothing is in progress.
-/
import Mathlib.Data.List.Induction
import Wayfinder.Proofs.Admission
import Wayfinder.Proofs.Restoring

namespace Wayfinder

variable {μ κ η : Type}

/-! ### Pages and their routes -/

/-- A table that has been in use resolves a URL to the first route that matches. -/
lemma RouteTable.Used.resolve_eq {t₀ t : RouteTable μ} (used : t₀.Used t) (url : String) :
    (t.resolve url).2 = t₀.firstMatch url :=
  (RouteTable.resolve_eq used.coherent url).1.trans (used.firstMatch_eq url)

/-- A page has the route and the captures that a table resolves its URL to. A URL without a route gives
neither. -/
structure OnRoute (t : RouteTable μ) (route : Option Nat) (context : Context κ) : Prop where
  /-- The route is the one that the URL leads to. -/
  route : route = (t.firstMatch context.url).map (·.index)
  /-- The captures are those of the route. -/
  captures : context.captures = ((t.firstMatch context.url).map (·.captures)).getD .empty

lemma OnRoute.congr {t : RouteTable μ} {route : Option Nat} {context context' : Context κ}
    (onRoute : OnRoute t route context) (url : context'.url = context.url)
    (captures : context'.captures = context.captures) : OnRoute t route context' :=
  ⟨by rw [url, ← onRoute.route], by rw [url, captures, ← onRoute.captures]⟩

/-- The last page that was entered was given up: its entry chain led elsewhere once too often, and
nothing was put into the history since. -/
def GaveUp (journal : List (Event μ)) : Prop :=
  ∃ before hop m target reason r limit later,
    journal = before ++ .answered .entry hop m (.redirect target reason) ::
      .ended r (.failed (.redirectLoop limit target)) :: later ∧
    turnOf before = some (r, some hop.url) ∧ (committedIn before).getLast? = some hop.url ∧
    committedIn later = []

/-- Nothing was put into the history yet, or the last page that was entered was given up. -/
def Bare (journal : List (Event μ)) : Prop := committedIn journal = [] ∨ GaveUp journal

/-- What puts nothing into the history brings no page. -/
lemma Bare.append {journal events : List (Event μ)} (bare : Bare journal)
    (none : committedIn events = []) : Bare (journal ++ events) := by
  rcases bare with blank | ⟨before, hop, m, target, reason, r, limit, later, rfl, turn, last, quiet⟩
  · exact .inl (by simp [blank, none])
  · exact .inr ⟨before, hop, m, target, reason, r, limit, later ++ events, by simp, turn, last,
      by simp [quiet, none]⟩

/-- The URL that a request has put into the history last is the last one in it. -/
lemma getLast?_committedIn {journal : List (Event μ)} {r : Request} {url : String}
    (turn : turnOf journal = some (r, some url)) : (committedIn journal).getLast? = some url := by
  induction journal using List.reverseRecOn generalizing r url with
  | nil => cases turn
  | append_singleton journal e ih =>
    rw [turnOf_append] at turn
    cases e with
    | committed url' =>
      obtain ⟨⟨r', _⟩, -, same⟩ := Option.map_eq_some_iff.mp turn
      obtain rfl : url' = url := by simpa using congrArg Prod.snd same
      simp
    | began r' => cases turn
    | accepted | answered | diverted | ended | returned | readdressed => simpa using ih turn

/-- How the page fits to what goes on at a moment. -/
inductive AtHome (t : RouteTable μ) (journal : List (Event μ)) : Moment μ κ η → Prop
  /-- Nothing is in progress. -/
  | idle {n stage} (doing : n.activity = .idle)
      (shown : ∀ page, n.active = some page → OnRoute t page.route page.context)
      (bare : n.active = none → Bare journal) : AtHome t journal ⟨n, stage⟩
  /-- A page is being left; it may be kept. -/
  | leaving {n r flight page leaving middlewares}
      (doing : n.activity = .exiting flight page leaving middlewares)
      (onRoute : OnRoute t page.route page.context) : AtHome t journal ⟨n, .serving r⟩
  /-- A route is being entered. -/
  | entering {n r flight route context middlewares}
      (doing : n.activity = .entering flight route context middlewares)
      (onRoute : OnRoute t (some route) context) : AtHome t journal ⟨n, .serving r⟩
  /-- The reason is being shown why a route may not be entered. -/
  | refused {n r flight route context reason}
      (doing : n.activity = .refused flight route context reason)
      (onRoute : OnRoute t (some route) context) : AtHome t journal ⟨n, .serving r⟩

namespace AtHome

variable {t : RouteTable μ} {journal events : List (Event μ)} {r : Request}
  {n : Navigator μ κ η} {flight : Flight} {p : Navigator.Progress μ κ η}

/-- The page that is shown while nothing is in progress. -/
lemma rests {stage : Stage} (home : AtHome t journal ⟨n, stage⟩) (doing : n.activity = .idle) :
    (∀ page, n.active = some page → OnRoute t page.route page.context) ∧
      (n.active = none → Bare journal) := by
  cases home with
  | idle _ shown bare => exact ⟨shown, bare⟩
  | leaving doing' | entering doing' | refused doing' => cases doing.symm.trans doing'

/-- Where there is a page nothing has to be said about its absence. -/
lemma of_shown {stage : Stage} {page : ActivePage κ} (doing : n.activity = .idle)
    (shown : n.active = some page) (onRoute : OnRoute t page.route page.context) :
    AtHome t journal ⟨n, stage⟩ := by
  refine .idle doing (fun page' shown' => ?_) fun none => by cases none.symm.trans shown
  obtain rfl := Option.some.inj (shown.symm.trans shown')
  exact onRoute

/-- What has been said about a request on its way holds once it has ended. -/
lemma reach (home : AtHome t journal ⟨p.1, .serving r⟩) {queue : List Request}
    (underway : Navigator.Underway r queue p) (flight : Flight) :
    AtHome t journal (Moment.reach r flight p).1 := by
  rcases p with ⟨n, _ | outcome⟩
  · exact home
  · obtain ⟨shown, bare⟩ := home.rests underway.1
    obtain ⟨_, -, h⟩ := n.quietly_reportServed flight outcome
    simp only [Moment.reach, h]
    exact .idle underway.1 shown bare

/-- A page that is settled is on its route if its context is. -/
lemma settled {n' : Navigator μ κ η} {route : Nat} {context : Context κ} {stage : Stage}
    (quiet : Navigator.Quietly (n.settled route context) n')
    (onRoute : OnRoute t (some route) context) : AtHome t journal ⟨n', stage⟩ := by
  obtain ⟨_, _, rfl⟩ := quiet
  exact .of_shown rfl rfl onRoute

section

variable [History η]

/-- The page of a request that arrives is on the route that its URL leads to. -/
lemma arrives (goes : n.Arrival flight p) (used : t.Used n.table) :
    AtHome t journal ⟨p.1, .serving r⟩ := by
  cases goes with
  | notFound put aim found quiet =>
    obtain ⟨first, -⟩ := used.resolve found
    obtain ⟨_, _, rfl⟩ := quiet
    refine .of_shown rfl rfl ⟨?_, ?_⟩ <;> simp [Navigator.freshContext, ← first]
  | waits put aim found chain quiet =>
    obtain ⟨first, -⟩ := used.resolve found
    obtain ⟨_, _, rfl⟩ := quiet
    refine .entering rfl ⟨?_, ?_⟩ <;> simp [Navigator.fillIn, Navigator.freshContext, ← first]
  | entered put aim found chain quiet =>
    obtain ⟨first, -⟩ := used.resolve found
    obtain ⟨_, _, rfl⟩ := quiet
    refine .of_shown rfl rfl ⟨?_, ?_⟩ <;> simp [Navigator.fillIn, Navigator.freshContext, ← first]

/-- A page that is being left stays on its route. -/
lemma departs [Named κ] (goes : n.Departure flight p) (used : t.Used n.table)
    (shown : ∀ page, n.active = some page → OnRoute t page.route page.context) :
    AtHome t journal ⟨p.1, .serving r⟩ := by
  cases goes with
  | fresh bare quiet goes =>
    obtain ⟨_, _, rfl⟩ := quiet
    exact arrives goes used
  | waits here chain quiet =>
    obtain ⟨_, _, rfl⟩ := quiet
    exact .leaving rfl ((shown _ here).congr rfl rfl)
  | left here chain quiet goes =>
    obtain ⟨_, _, rfl⟩ := quiet
    exact arrives goes used

/-- A request that does not get anywhere leaves everything as it was. -/
lemma takesOff [Named κ] (goes : n.TakeOff flight p) (used : t.Used n.table)
    (shown : ∀ page, n.active = some page → OnRoute t page.route page.context)
    (bare : Navigator.landed p = ([] : List (Event μ)) → n.active = none → Bare journal) :
    AtHome t journal ⟨p.1, .serving r⟩ := by
  cases goes with
  | dropped target quiet
  | looped target exceeds quiet =>
    obtain ⟨_, _, rfl⟩ := quiet
    exact .idle rfl shown (bare rfl)
  | departs target within goes => exact departs goes used shown

/-- The turn of a request. -/
lemma begun [Named κ] (goes : n.TakeOff flight p) (used : t.Used n.table)
    (shown : ∀ page, n.active = some page → OnRoute t page.route page.context)
    (bare : n.active = none → Bare journal) (leads : r.Leads flight.request) :
    AtHome t (journal ++ (Moment.begun r flight p).2) (Moment.begun r flight p).1 := by
  refine reach (takesOff goes used shown fun none here => (bare here).append ?_)
    (goes.underway leads) flight
  rcases p with ⟨n', _ | outcome⟩ <;> simp [Moment.begun, none, Moment.reach]

/-- The answer of an exit middleware: the page is left, or kept as it was. -/
lemma exitAnswered {page : ActivePage κ} {leaving : Leaving} {rest : List μ} {action : Action}
    (goes : n.ExitReaction flight page leaving rest action p) (used : t.Used n.table)
    (onRoute : OnRoute t page.route page.context) : AtHome t journal ⟨p.1, .serving r⟩ := by
  cases goes with
  | next quiet =>
    obtain ⟨_, _, rfl⟩ := quiet
    exact .leaving rfl onRoute
  | left quiet goes =>
    obtain ⟨_, _, rfl⟩ := quiet
    exact arrives goes used
  | denied quiet
  | redirected quiet =>
    obtain ⟨_, _, rfl⟩ := quiet
    exact .of_shown rfl rfl onRoute

/-- The answer of an entry middleware. A redirect too many ends the request without a page. -/
lemma entryAnswered [Named κ] {route : Nat} {context : Context κ} {m : μ} {rest : List μ}
    {action : Action} (goes : n.EntryReaction flight route context rest action p)
    (used : t.Used n.table) (bare : n.active = none) (onRoute : OnRoute t (some route) context)
    (turn : turnOf journal = some (r, some flight.request.url)) :
    AtHome t
      (journal ++ (answerEvents .entry flight.request m action p ++ (Moment.reach r flight p).2))
      ⟨p.1, .serving r⟩ := by
  cases goes with
  | next quiet =>
    obtain ⟨_, _, rfl⟩ := quiet
    exact .entering rfl onRoute
  | entered quiet => exact settled quiet onRoute
  | refused shows quiet =>
    obtain ⟨_, _, rfl⟩ := quiet
    exact .refused rfl (onRoute.congr rfl rfl)
  | denied shows quiet => exact settled quiet onRoute
  | @followed _ target reason _ _ quiet goes =>
    obtain ⟨_, _, rfl⟩ := quiet
    cases goes with
    | dropped located => cases located
    | looped located exceeds quiet =>
      obtain ⟨_, _, rfl⟩ := quiet
      obtain rfl := Option.some.inj located
      exact .idle rfl (fun page shown => by cases bare.symm.trans shown) fun _ =>
        .inr ⟨journal, flight.request, m, target, reason, r, _, [], rfl, turn,
          getLast?_committedIn turn, rfl⟩
    | departs located within goes =>
      exact departs goes used fun page shown => by cases bare.symm.trans shown

end

/-! ### Changes of the address and touches -/

end AtHome

/-- Whether an act leaves the URLs and the captures of contexts alone. -/
def Act.OwnPlace : Act κ → Prop
  | touch (.edit f) => ∀ c, (f c).url = c.url ∧ (f c).captures = c.captures
  | _ => True

lemma Act.OwnPlace.ownUrl {a : Act κ} (own : a.OwnPlace) : a.OwnUrl := by
  rcases a with _ | _ | _ | _ | _ | _ | _
  all_goals first | trivial | exact fun c => (own c).1

/-- Such a touch leaves a context where it is. -/
lemma Touch.change_place {t : Touch κ} (own : (Act.touch t).OwnPlace) (c : Context κ) :
    (t.change c).url = c.url ∧ (t.change c).captures = c.captures := by
  cases t with
  | edit f => exact own c
  | _ => exact ⟨rfl, rfl⟩

/-- A change of the address succeeds only with the captures of the new URL, and otherwise the page stays
as it is. -/
lemma Navigator.inPlace_active [History η] {n : Navigator μ κ η} (idle : n.activity = .idle)
    (push : Bool) (url : String) :
    (n.inPlace push url).1.active = n.active ∨
      ∃ page context m, n.active = some page ∧
        (n.inPlace push url).1.active = some { page with context } ∧
        (n.table.resolve url).2 = some m ∧ page.route = some m.index ∧ context.url = url ∧
        context.captures = m.captures := by
  have free : n.phase = .idle := by rw [phase, idle]; rfl
  unfold inPlace
  rw [if_pos free]
  rcases shown : n.active with _ | page
  · exact .inl shown
  · rcases resolved : n.table.resolve url with ⟨table, found⟩
    dsimp only
    split
    · exact .inl rfl
    · rename_i m here
      obtain ⟨rfl, same⟩ := Option.filter_eq_some_iff.mp here
      cases push with
      | true => exact .inr ⟨page, _, m, rfl, rfl, rfl, by simpa using same, rfl, rfl⟩
      | false => exact .inr ⟨page, _, m, rfl, rfl, rfl, by simpa using same, rfl, rfl⟩

namespace AtHome

variable {t : RouteTable μ} {journal : List (Event μ)} {n : Navigator μ κ η}

/-- A change of the address leaves the page on its route. -/
lemma inPlace [History η] (home : AtHome t journal ⟨n, .resting⟩) (used : t.Used n.table)
    (idle : n.activity = .idle) (push : Bool) (url : String) :
    AtHome t (journal ++ [.readdressed (n.inPlace push url).2]) ⟨(n.inPlace push url).1, .resting⟩ := by
  obtain ⟨shown, bare⟩ := home.rests idle
  have idle' := (Navigator.readdressing idle push url).activity_eq.trans idle
  obtain same | ⟨page, context, m, here, changed, found, route, rfl, captures⟩ :=
    n.inPlace_active idle push url
  · exact .idle idle' (same ▸ shown) fun none => (bare (same ▸ none)).append rfl
  · have first : some m = t.firstMatch context.url :=
      found.symm.trans (used.resolve_eq context.url)
    refine .of_shown idle' changed ⟨?_, ?_⟩
    · rw [← first, route, Option.map_some]
    · rw [← first, captures, Option.map_some, Option.getD_some]

/-- A touch leaves the page on its route. -/
lemma touched {m : Moment μ κ η} (home : AtHome t journal m) {touch : Touch κ}
    (own : (Act.touch touch).OwnPlace) :
    AtHome t journal { m with navigator := touch.apply m.navigator } := by
  have touched := touch.touched m.navigator
  have activity := touch.activity_apply m.navigator
  cases home with
  | @idle n stage doing shown bare =>
    obtain ⟨hold, active⟩ := touched.active
    refine .idle (touched.activity_eq_idle doing) (fun page here => ?_) fun none => bare ?_
    · obtain ⟨page₀, here₀, rfl⟩ := Option.map_eq_some_iff.mp (active.symm.trans here)
      exact (shown page₀ here₀).congr rfl rfl
    · exact Option.map_eq_none_iff.mp (active.symm.trans none)
  | leaving doing onRoute =>
    obtain ⟨url, captures⟩ := Touch.change_place own _
    exact .leaving (activity.trans (congrArg _ doing)) (onRoute.congr url captures)
  | entering doing onRoute =>
    obtain ⟨url, captures⟩ := Touch.change_place own _
    exact .entering (activity.trans (congrArg _ doing)) (onRoute.congr url captures)
  | refused doing onRoute => exact .refused (activity.trans (congrArg _ doing)) onRoute

/-! ### Runs -/

variable [Named μ] [Named κ] [History η]

omit [Named μ] in
/-- Every act leaves the page on its route. -/
lemma move {stage : Stage} {a : Act κ} {result : Moment μ κ η × List (Event μ)}
    (home : AtHome t journal ⟨n, stage⟩) (stands : Stands t journal ⟨n, stage⟩)
    (sound : Moment.Sound ⟨n, stage⟩) (move : Moment.Move n stage a result) (own : a.OwnPlace) :
    AtHome t (journal ++ result.2) result.1 := by
  obtain ⟨used, standing⟩ := stands
  cases move with
  | still other => simpa using home
  | called target goes =>
    obtain ⟨shown, bare⟩ := home.rests sound.1
    rw [List.append_cons]
    exact begun goes used shown (fun none => (bare none).append rfl) .here
  | queued other quiet =>
    obtain ⟨_, _, rfl⟩ := quiet
    cases home with
    | idle doing shown bare => exact .idle doing shown fun none => (bare none).append rfl
    | leaving doing onRoute => exact .leaving doing onRoute
    | entering doing onRoute => exact .entering doing onRoute
    | refused doing onRoute => exact .refused doing onRoute
  | readdressed => exact home.inPlace used sound.1 _ _
  | exitAnswered doing goes =>
    cases doing ▸ sound.2 with
    | exiting leads =>
      refine reach ?_ (goes.underway sound.1 leads) _
      cases home with
      | leaving doing' onRoute =>
        cases doing.symm.trans doing'
        exact exitAnswered goes used onRoute
      | idle doing' | entering doing' | refused doing' => cases doing.symm.trans doing'
  | entryAnswered doing goes =>
    cases doing ▸ sound.2 with
    | entering leads =>
      refine reach ?_ (goes.underway sound.1 leads) _
      cases home with
      | entering doing' onRoute =>
        cases doing.symm.trans doing'
        cases standing with
        | entering doing'' found chain trail turn owed =>
          cases doing.symm.trans doing''
          exact entryAnswered goes used sound.1 onRoute turn
        | leaving doing'' | refused doing'' => cases doing.symm.trans doing''
      | idle doing' | leaving doing' | refused doing' => cases doing.symm.trans doing'
  | refusalShown doing quiet =>
    refine reach ?_ (Navigator.underway_of_settled quiet _) _
    cases home with
    | refused doing' onRoute =>
      cases doing.symm.trans doing'
      exact settled quiet onRoute
    | idle doing' | leaving doing' | entering doing' => cases doing.symm.trans doing'
  | returned queue =>
    obtain ⟨shown, bare⟩ := home.rests sound
    exact .idle sound shown fun none => (bare none).append rfl
  | dequeued queue quiet goes =>
    obtain ⟨shown, bare⟩ := home.rests sound
    obtain ⟨_, _, rfl⟩ := quiet
    exact begun goes used shown bare .here
  | touched => simpa using home.touched own

/-- Every run leaves the page on its route. -/
theorem after {m : Moment μ κ η} (home : AtHome t journal m) (stands : Stands t journal m)
    (sound : m.Sound) {acts : List (Act κ)} (own : ∀ a ∈ acts, a.OwnPlace) :
    AtHome t (journal ++ m.journal acts) (m.after acts) := by
  induction acts generalizing m journal with
  | nil => simpa using home
  | cons a acts ih =>
    have step := Moment.move sound a
    simpa using ih (home.move stands sound step (own a (List.mem_cons_self ..)))
      (stands.move sound step) (Moment.sound_step sound a) fun a mem => own a (.tail _ mem)

omit [Named μ] [Named κ] [History η] in
lemma start {s : Setup μ κ η} (built : s.build = .ok n) : AtHome t [] (Moment.start n) := by
  obtain rfl := Setup.eq_of_build built
  exact .idle rfl (by rintro _ ⟨⟩) fun _ => .inl rfl

end AtHome

/-! ### Calls that were given up -/

/-- What a navigator may have become since a call was given up. -/
inductive Navigator.Adrift [Named μ] [Named κ] [History η] (n : Navigator μ κ η) :
    Navigator μ κ η → Prop
  /-- Nothing has happened since. -/
  | here : n.Adrift n
  /-- A navigation was asked for. -/
  | request {n'} (before : n.Adrift n') (kind : Kind) (url : String) :
    n.Adrift (n'.request kind url).1
  /-- A change of the address was asked for. -/
  | inPlace {n'} (before : n.Adrift n') (push : Bool) (url : String) :
    n.Adrift (n'.inPlace push url).1
  /-- A middleware answers after all. -/
  | answer {n'} (before : n.Adrift n') (action : Action) : n.Adrift (n'.answer action).1
  /-- A refusal has been shown after all. -/
  | resume {n'} (before : n.Adrift n') : n.Adrift n'.resume.1
  /-- Anything else. -/
  | touch {n'} (before : n.Adrift n') (t : Touch κ) : n.Adrift (t.apply n')

/-- Nothing brings such a navigator to rest again. -/
lemma Navigator.Adrift.activity_eq [Named μ] [Named κ] [History η] {n n' : Navigator μ κ η}
    {phase : Phase} {leaving : Option Leaving} (given_up : n.activity = .abandoned phase leaving)
    (busy : phase ≠ .idle) (adrift : n.Adrift n') : n'.activity = .abandoned phase leaving := by
  induction adrift with
  | here => exact given_up
  | request before kind url ih =>
    exact ((history_of_abandoned ih busy).1 kind url).1.trans ih
  | inPlace before push url ih =>
    exact ((history_of_abandoned ih busy).2.1 push url).1.trans ih
  | answer before action ih =>
    rw [(history_of_abandoned ih busy).2.2.1 action]
    exact ih
  | resume before ih =>
    rw [(history_of_abandoned ih busy).2.2.2]
    exact ih
  | touch before t ih =>
    rw [t.activity_apply, ih]
    rfl

/-- A call that is given up while something is waited for leaves its phase behind, and what can be read
about a page that is being left. -/
lemma Navigator.activity_abandon {n : Navigator μ κ η} (busy : n.phase ≠ .idle) :
    n.abandon.activity = .abandoned n.phase n.activity.leaving? := by
  unfold abandon
  split
  · rename_i idle
    exact absurd (by rw [phase, idle]; rfl) busy
  · rfl

/-- A call that is given up while something is waited for leaves the navigator busy for ever. -/
lemma Navigator.phase_of_adrift [Named μ] [Named κ] [History η] {n n' : Navigator μ κ η}
    (busy : n.phase ≠ .idle) (adrift : n.abandon.Adrift n') : n'.phase = n.phase := by
  rw [phase, adrift.activity_eq (activity_abandon busy) busy]
  rfl

/-! ### At rest -/

/-- A navigator at rest is consistent, whatever has led there. Let no middleware write the URL or the
captures of a context. Whenever nothing is in progress, the page that is shown has the URL of the current
history entry, and the route and the captures that the table resolves this URL to; the table gives the
first route that matches. There is no page only if no URL was put into the history yet, or if the last
one that was put into it belongs to a request that was given up there, because its entry chain led
elsewhere once too often.

Between two calls nothing is in progress. A call that is given up while it runs leaves the navigator
in its phase for ever, so nothing is said about what it has left behind. -/
theorem at_rest [Named μ] [Named κ] {s : Setup μ κ MemoryHistory}
    {n : Navigator μ κ MemoryHistory} (built : s.build = .ok n) {acts : List (Act κ)}
    (own : ∀ a ∈ acts, a.OwnPlace) :
    let m := (Moment.start n).after acts
    let journal := (Moment.start n).journal acts
    (m.navigator.phase = .idle →
      (∀ page, m.navigator.active = some page →
        let found := (m.navigator.table.resolve page.context.url).2
        m.navigator.currentUrl? = some page.context.url ∧
        found = n.table.firstMatch page.context.url ∧
        page.route = found.map (·.index) ∧
        page.context.captures = (found.map (·.captures)).getD .empty) ∧
      (m.navigator.active = none → committedIn journal = [] ∨ GaveUp journal)) ∧
    (m.stage = .resting → m.navigator.phase = .idle) ∧
    ∀ r, m.stage = .serving r → m.navigator.phase ≠ .idle ∧
      ∀ n', m.navigator.abandon.Adrift n' → n'.phase = m.navigator.phase := by
  intro m journal
  have start := Moment.sound_start built
  have sound : m.Sound := Moment.sound_after start acts
  have stands : Stands n.table journal m := (Stands.start built).after start acts
  have home : AtHome n.table journal m :=
    AtHome.after (AtHome.start built) (Stands.start built) start own
  have recalls : Recalls _ m := recalls_after (recalls_start built) start fun a mem => (own a mem).ownUrl
  generalize m = m at sound stands home recalls ⊢
  obtain ⟨n', stage⟩ := m
  have busy {r : Request} (serving : stage = .serving r) : n'.phase ≠ .idle := by
    subst serving
    exact sound.2.phase_ne
  refine ⟨fun idle => ?_, ?_, fun r serving => ⟨busy serving, fun n'' => ?_⟩⟩
  · have doing : n'.activity = .idle := by
      cases stage with
      | resting => exact sound.1
      | serving r => exact absurd idle (busy rfl)
      | served => exact sound
    obtain ⟨shown, bare⟩ := home.rests doing
    refine ⟨fun page here => ?_, bare⟩
    obtain ⟨current, -⟩ := (recalls.rests doing).of_shown here
    obtain ⟨route, captures⟩ := shown page here
    have first := stands.1.resolve_eq page.context.url
    dsimp only
    rw [first]
    exact ⟨current, rfl, route, captures⟩
  · rintro rfl
    rw [Navigator.phase, sound.1]
    rfl
  · exact Navigator.phase_of_adrift (busy serving)

/-- A page changes its address to another one of its route. Then the next page leads elsewhere, which is
once too often. -/
theorem at_rest_redirect_loop :
    let s : Setup String String MemoryHistory :=
      { config := { maxRedirects := 1 }
        routes := [{ (Route.new "/user/:id" : Route String) with entry := ["guard"] }], history := {} }
    let before : List (Act String) :=
      [.call (.start "/user/1"), .answer .proceed, .next, .inPlace true "/user/2"]
    let acts : List (Act String) :=
      before ++ [.call (.push "/user/3"), .answer (.redirect "/user/4" none),
        .answer (.redirect "/user/5" none), .next]
    ∃ n, s.build = .ok n ∧
      let m := (Moment.start n).after before
      let m' := (Moment.start n).after acts
      m.navigator.active.map (fun page => (page.context.url, page.route, page.context.captures)) =
        some ("/user/2", some 0, .ofList [("id", "2")]) ∧
      (∀ page, m.navigator.active = some page → m.navigator.currentUrl? = some page.context.url) ∧
      m'.navigator.active.isNone ∧ m'.navigator.currentUrl? = some "/user/4" ∧
      GaveUp ((Moment.start n).journal acts) := by
  intro s before acts
  have built : s.build = .ok _ := rfl
  have own₁ : ∀ a ∈ before, a.OwnPlace := by simp [before, Act.OwnPlace]
  have own₂ : ∀ a ∈ acts, a.OwnPlace := by simp [acts, before, Act.OwnPlace]
  refine ⟨_, built, by decide +kernel, fun page shown => ?_, by decide +kernel, by decide +kernel, ?_⟩
  · exact (((at_rest built own₁).1 (by decide +kernel)).1 page shown).1
  · refine (((at_rest built own₂).1 (by decide +kernel)).2 ?_).resolve_left (by decide +kernel)
    exact Option.isNone_iff_eq_none.mp (by decide +kernel)

end Wayfinder
