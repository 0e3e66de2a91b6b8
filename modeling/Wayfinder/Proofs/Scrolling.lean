/-
Scrolling at the right moment.

The transcript of a run (`Moment.transcript`) says in order what is of importance for scrolling, together
with the positions that the surface was told to scroll to. It is shown that the transcript of every run
is orderly, also of those in which calls are given up: so a navigation scrolls once at most, where it
was aimed when it was matched, after its entry chain has ended, and later if the page has asked for it.

* `Navigator.aim`: where a navigation is to scroll to.
* `Moment.orderly_happen`, `Moment.orderly_transcript`: what one incident adds to the transcript, and
  what a run does.
* `scrolling_follows_entry`: what that means for a run.
-/
import Wayfinder.Proofs.Errands
import Wayfinder.Proofs.Service

namespace Wayfinder

variable {μ κ η : Type}

/-! ### Where to scroll -/

namespace Navigator

variable [History η]

/-- The navigator once the page that is shown, if there is one, is about to be left: what is to be kept
of it has been recorded. -/
def readied (n : Navigator μ κ η) : Navigator μ κ η :=
  match n.active with
  | none => n
  | some page => { n with
      scroll := n.scroll.record page.context.url n.viewport.position
      history := n.leftHistory page.context }

/-- Where a navigation to a URL is to scroll to, when it is matched. Traversals go to the position that
the entry keeps, or else to the one in the store; all else goes to the top. -/
def aim (n : Navigator μ κ η) (kind : Kind) (url : String) : Option ScrollPosition :=
  if n.config.restoreScroll then
    match kind.offset? with
    | none => some .top
    | some offset =>
      let entry := (History.go n.history offset).2.filter (·.url == url)
      some (((entry.bind (·.state.scroll)).or (n.scroll.peek? url)).getD .top)
  else none

lemma isSome_aim (n : Navigator μ κ η) (kind : Kind) (url : String) :
    (n.aim kind url).isSome = n.config.restoreScroll := by
  unfold aim
  cases n.config.restoreScroll <;> cases kind.offset? <;> rfl

/-- The navigator scrolls where a navigation aims. -/
lemma aim_eq {n : Navigator μ κ η} {r : Request} {history : η} {state : HistoryState}
    {scroll : ScrollStore} {target : Option ScrollPosition}
    (put : commit n.history r = (history, state))
    (aim : n.scrollTarget r state = (scroll, target)) : n.aim r.kind r.url = target := by
  rcases r with ⟨url, kind, redirects⟩
  unfold scrollTarget at aim
  unfold Navigator.aim
  cases restores : n.config.restoreScroll with
  | false =>
    rw [restores] at aim
    exact congrArg Prod.snd aim
  | true =>
    simp only [restores, Bool.not_true, Bool.false_eq_true, if_false, if_true] at aim ⊢
    cases kind with
    | push | replace => exact congrArg Prod.snd aim
    | back | forward =>
      simp only [Kind.isTraversal, if_true, ScrollStore.take, Option.orElse_eq_or,
        Prod.mk.injEq] at aim
      simp only [commit, Kind.offset?, Option.getD_some] at put ⊢
      rw [← aim.2]
      split at put
      case h_1 entry found =>
        obtain ⟨-, rfl⟩ := Prod.mk.inj put
        rw [found]
        rfl
      case h_2 missing =>
        obtain ⟨-, rfl⟩ := Prod.mk.inj put
        rw [missing]
        rfl

end Navigator

/-! ### Transcripts -/

/-- What happens in a run in which calls may be given up. -/
inductive Incident (κ : Type) where
  /-- An act. -/
  | act (a : Act κ)
  /-- The running call is given up. -/
  | giveUp

/-- Whether the surface that pages are shown on changes by itself. -/
def Incident.isView {κ : Type} : Incident κ → Bool
  | act (.touch (.view _)) => true
  | _ => false

/-- What an event says about scrolling, if its navigation aims somewhere. -/
@[simp] def Event.mark? (aim : String → Option ScrollPosition) : Event μ → Option Mark
  | answered .entry _ _ action => some (.answered action)
  | committed url => some (.aimed (aim url))
  | ended r outcome => some (.ended r outcome)
  | returned outcome => some (.returned outcome)
  | _ => none

/-- What an incident itself says about scrolling. -/
@[simp] def Incident.marks : Incident κ → List Mark
  | act (.touch .deferScroll) => [.deferred]
  | act (.touch .contentRendered) => [.rendered]
  | _ => []

/-- Where a surface was told to scroll to since it was in an earlier state, if it was told so. -/
def Viewport.toldSince (earlier v : Viewport) : Option ScrollPosition :=
  if v.scrolls = earlier.scrolls then none else some v.position

@[simp] lemma Viewport.toldSince_follow (v : Viewport) (target : Option ScrollPosition) :
    v.toldSince (v.follow target) = target := by
  cases target <;> simp [toldSince, follow, scrollTo]

namespace Moment

variable [Named μ] [Named κ] [History η]

/-- What an incident leads to. -/
def happen (m : Moment μ κ η) : Incident κ → Moment μ κ η × List (Event μ)
  | .act a => m.step a
  | .giveUp => ({ m with navigator := m.navigator.abandon }, [])

/-- The moment after some incidents. -/
def through (m : Moment μ κ η) (incidents : List (Incident κ)) : Moment μ κ η :=
  incidents.foldl (fun m i => (m.happen i).1) m

/-- How the navigation was asked for that an incident may put into the history: the one whose turn
begins, or the one whose exit chain goes on. A redirect of an entry chain replaces. -/
def coming (m : Moment μ κ η) : Incident κ → Kind
  | .act a =>
    match m.upcoming? a, m.navigator.activity with
    | some r, _ => r.kind
    | none, .exiting flight .. => flight.request.kind
    | none, _ => .replace
  | .giveUp => .replace

/-- Where the surface is told to scroll to in an incident, if it is. -/
def told? (m : Moment μ κ η) (i : Incident κ) : Option ScrollPosition :=
  if i.isView then none else m.navigator.viewport.toldSince (m.happen i).1.navigator.viewport

/-- What an incident says about scrolling, and the scrolling. -/
def marks (m : Moment μ κ η) (i : Incident κ) : List Mark :=
  gather (Event.mark? (m.navigator.readied.aim (m.coming i))) (m.happen i).2 ++ i.marks ++
    Mark.scrolling (m.told? i)

/-- What a run says about scrolling. -/
def transcript (m : Moment μ κ η) : List (Incident κ) → List Mark
  | [] => []
  | i :: incidents => m.marks i ++ transcript (m.happen i).1 incidents

end Moment

/-! ### Steps -/

/-- The state of a navigator with an errand. -/
def Errand.Fits (n : Navigator μ κ η) : Errand → Prop
  | entering target held => n.phase = .entering ∧ n.pendingScroll = target ∧
      (n.scrollDeferred && !n.contentReady) = held
  | waiting target => n.phase ≠ .entering ∧ n.pendingScroll = target

/-- An errand of a navigator that is entering a page. -/
lemma Errand.Fits.of_entering {n : Navigator μ κ η} {e : Errand} (fits : e.Fits n)
    (doing : n.phase = .entering) : ∃ target held, e = .entering target held := by
  cases e with
  | entering target held => exact ⟨target, held, rfl⟩
  | waiting target => exact absurd doing fits.1

/-- An errand of a navigator that is not entering a page. -/
lemma Errand.Fits.of_not_entering {n : Navigator μ κ η} {e : Errand} (fits : e.Fits n)
    (doing : n.phase ≠ .entering) : ∃ target, e = .waiting target := by
  cases e with
  | entering target held => exact absurd fits.1 doing
  | waiting target => exact ⟨target, rfl⟩

namespace Navigator

/-- A navigator becomes another one, which says something and scrolls if that is due. -/
def Advances (e : Errand) (n n' : Navigator μ κ η) (marks : List Mark) : Prop :=
  n'.config = n.config ∧
    ∃ target e', n'.viewport = n.viewport.follow target ∧
      Orderly n.config.restoreScroll e (marks ++ Mark.scrolling target) e' ∧ e'.Fits n'

/-- What has nothing to do with scrolling. -/
structure Aside (n n' : Navigator μ κ η) : Prop where
  config : n'.config = n.config
  viewport : n'.viewport = n.viewport
  pending : n'.pendingScroll = n.pendingScroll
  deferred : n'.scrollDeferred = n.scrollDeferred
  ready : n'.contentReady = n.contentReady
  phase : n'.phase = n.phase

lemma Quietly.aside {n n' : Navigator μ κ η} (quiet : Quietly n n') : n.Aside n' := by
  obtain ⟨_, _, rfl⟩ := quiet
  exact ⟨rfl, rfl, rfl, rfl, rfl, rfl⟩

section

variable {e : Errand} {n n' n'' : Navigator μ κ η} {marks : List Mark}

lemma Aside.fits (aside : n.Aside n') (fits : e.Fits n) : e.Fits n' := by
  cases e with
  | entering target held =>
    exact ⟨aside.phase.trans fits.1, aside.pending.trans fits.2.1,
      by rw [aside.deferred, aside.ready, fits.2.2]⟩
  | waiting target => exact ⟨aside.phase ▸ fits.1, aside.pending.trans fits.2⟩

lemma Aside.advances (aside : n.Aside n') (fits : e.Fits n) : Advances e n n' [] :=
  ⟨aside.config, none, e, aside.viewport, .nil, aside.fits fits⟩

lemma Advances.then (advances : Advances e n n' marks) (aside : n'.Aside n'') :
    Advances e n n'' marks := by
  obtain ⟨config, target, e', viewport, orderly, fits⟩ := advances
  exact ⟨aside.config.trans config, target, e', aside.viewport.trans viewport, orderly,
    aside.fits fits⟩

/-- What is said first is added in front. -/
lemma Advances.cons {e' : Errand} {x : Mark} (takes : e.Takes n.config.restoreScroll x none e')
    (advances : Advances e' n n' marks) : Advances e n n' (x :: marks) := by
  obtain ⟨config, target, e'', viewport, orderly, fits⟩ := advances
  exact ⟨config, target, e'', viewport, .cons takes orderly, fits⟩

/-- Only the settings and the surface of the first navigator count. -/
lemma Advances.of_eq (config : n'.config = n.config) (viewport : n'.viewport = n.viewport)
    (advances : Advances e n' n'' marks) : Advances e n n'' marks := by
  obtain ⟨config', target, e', viewport', orderly, fits⟩ := advances
  rw [config] at config' orderly
  rw [viewport] at viewport'
  exact ⟨config', target, e', viewport', orderly, fits⟩

/-- A page whose entry chain has ended is scrolled, unless its content is still to come. -/
lemma advances_settled {route : Nat} {context : Context κ} {target : Option ScrollPosition}
    {held : Bool} (quiet : Quietly (n.settled route context) n')
    (fits : (Errand.entering target held).Fits n) (r : Request) (outcome : Outcome) :
    Advances (.entering target held) n n' [.ended r outcome] := by
  obtain ⟨-, pending, waits⟩ := fits
  have now : (!n.scrollDeferred || n.contentReady) = !held := by rw [← waits]; simp
  refine Advances.then ?_ quiet.aside
  cases held with
  | false =>
    rw [Bool.not_false] at now
    exact ⟨rfl, target, .waiting none, by simp [settled, now, pending], .single .settled,
      by simp [settled, phase, Activity.phase], by simp [settled, now]⟩
  | true =>
    rw [Bool.not_true] at now
    exact ⟨rfl, none, .waiting target, by simp [settled, now, Viewport.follow], .single .held,
      by simp [settled, phase, Activity.phase], by simp [settled, now, pending]⟩

/-- Asking to wait with scrolling counts while a page is being entered only. -/
lemma advances_deferScroll (fits : e.Fits n) : n.Advances e n.deferScroll [.deferred] := by
  unfold deferScroll
  cases e with
  | entering target held =>
    rw [if_pos fits.1]
    exact ⟨rfl, none, .entering target true, rfl, .single .deferred, fits.1, fits.2.1, rfl⟩
  | waiting target =>
    rw [if_neg fits.1]
    exact ⟨rfl, none, .waiting target, rfl, .single .ignored, fits⟩

/-- Once the content is rendered the navigator scrolls, unless a page is being entered. -/
lemma advances_contentRendered (fits : e.Fits n) : n.Advances e n.contentRendered [.rendered] := by
  unfold contentRendered
  cases e with
  | entering target held =>
    rw [if_pos fits.1]
    exact ⟨rfl, none, .entering target false, rfl, .single .early, fits.1, fits.2.1, by simp⟩
  | waiting target =>
    rw [if_neg fits.1]
    refine Advances.then ?_ (n.quietly_scrollNow _).aside
    exact ⟨rfl, target, .waiting none, by rw [fits.2], .single .released, fits.1, rfl⟩

lemma aside_takeController (n : Navigator μ κ η) : n.Aside (Touch.takeController.apply n) := by
  simp only [Touch.apply, takeController]
  rcases n.active with _ | page
  · exact ⟨rfl, rfl, rfl, rfl, rfl, rfl⟩
  · rcases held : page.context.controller with _ | c
    · simp only [held]
      exact ⟨rfl, rfl, rfl, rfl, rfl, rfl⟩
    · simp only [held]
      exact ⟨rfl, rfl, rfl, rfl, rfl, rfl⟩

lemma aside_returnController (n : Navigator μ κ η) (c : κ) : n.Aside (n.returnController c) := by
  unfold returnController
  rcases n.active with _ | page
  · exact ⟨rfl, rfl, rfl, rfl, rfl, rfl⟩
  · rcases held : page.context.controller with _ | c'
    · simp only [held]
      exact ⟨rfl, rfl, rfl, rfl, rfl, rfl⟩
    · simp only [held]
      exact ⟨rfl, rfl, rfl, rfl, rfl, rfl⟩

/-- What a touch has to do with scrolling, if the surface itself does not change. -/
lemma advances_touch (fits : e.Fits n) (t : Touch κ)
    (steady : (Incident.act (.touch t)).isView = false) :
    n.Advances e (t.apply n) (Incident.act (.touch t)).marks := by
  cases t with
  | deferScroll => exact advances_deferScroll fits
  | contentRendered => exact advances_contentRendered fits
  | view viewport => cases steady
  | edit f =>
    have phase := (Touch.touched n (.edit f)).phase_eq
    have aside : n.Aside (n.editContext f) := ⟨rfl, rfl, rfl, rfl, rfl, phase⟩
    exact aside.advances fits
  | attach c =>
    have phase := (Touch.touched n (.attach c)).phase_eq
    simp only [Touch.apply, attach, discard_eq] at phase ⊢
    exact Aside.advances ⟨rfl, rfl, rfl, rfl, rfl, phase⟩ fits
  | takeController => exact n.aside_takeController.advances fits
  | returnController c => exact (n.aside_returnController c).advances fits

end

variable [History η] {n : Navigator μ κ η} {flight : Flight} {p : Progress μ κ η}

/-- What the progress of a request says. -/
def said (n : Navigator μ κ η) (kind : Kind) (r : Request) (flight : Flight)
    (p : Progress μ κ η) : List Mark :=
  gather (Event.mark? (n.aim kind)) (landed p ++ (Moment.reach r flight p).2)

omit [History η] in
lemma aside_reach (r : Request) (flight : Flight) (p : Progress μ κ η) :
    p.1.Aside (Moment.reach r flight p).1.navigator := by
  rcases p with ⟨n, _ | outcome⟩
  · exact ⟨rfl, rfl, rfl, rfl, rfl, rfl⟩
  · exact (n.quietly_reportServed flight outcome).aside

lemma Arrival.advances (goes : n.Arrival flight p) (target : Option ScrollPosition) (r : Request)
    (flight' : Flight) :
    Advances (.waiting target) n (Moment.reach r flight' p).1.navigator
      (n.said flight.request.kind r flight' p) := by
  refine Advances.then ?_ (aside_reach r flight' p)
  have set := n.isSome_aim flight.request.kind flight.request.url
  cases goes with
  | notFound put aim found quiet =>
    refine Advances.then (Advances.cons (.aimed set) ?_) quiet.aside
    exact ⟨rfl, _, .waiting none, rfl, aim_eq put aim ▸ .single .settled, by rintro ⟨⟩, rfl⟩
  | waits put aim found chain quiet =>
    obtain ⟨_, _, rfl⟩ := quiet
    refine Advances.cons (.aimed set) ?_
    exact ⟨rfl, none, _, rfl, .nil, rfl, (aim_eq put aim).symm, rfl⟩
  | entered put aim found chain quiet =>
    refine Advances.then (Advances.cons (.aimed set) ?_) quiet.aside
    exact ⟨rfl, _, .waiting none, rfl, aim_eq put aim ▸ .single .settled, by rintro ⟨⟩, rfl⟩

/-- Looking the target of a traversal up leaves the way it was asked for as it is. -/
lemma kind_of_located {r hop : Request} (target : n.located? r = some hop) : hop.kind = r.kind := by
  unfold located? at target
  split at target
  · rw [Option.some.inj target]
  · obtain ⟨_, -, rfl⟩ := Option.map_eq_some_iff.mp target
    rfl

lemma aim_congr {n n' : Navigator μ κ η} (config : n'.config = n.config)
    (history : n'.history = n.history) (scroll : n'.scroll = n.scroll) : n'.aim = n.aim := by
  unfold aim
  rw [config, history, scroll]

lemma readied_of_bare {n : Navigator μ κ η} (bare : n.active = none) : n.readied = n := by
  rw [readied, bare]

/-- The requests that wait have nothing to do with where a navigation aims. -/
lemma aim_readied_queue (n : Navigator μ κ η) (queue : List Request) (outbox : List (Effect κ)) :
    ({ n with queue, outbox } : Navigator μ κ η).readied.aim = n.readied.aim := by
  unfold readied
  rcases n.active with _ | page <;> rfl

lemma Departure.advances [Named κ] (goes : n.Departure flight p) {target : Option ScrollPosition}
    (due : n.pendingScroll = target) (r : Request) (flight' : Flight) :
    Advances (.waiting target) n (Moment.reach r flight' p).1.navigator
      (n.readied.said flight.request.kind r flight' p) := by
  cases goes with
  | fresh shown quiet goes =>
    obtain ⟨_, _, rfl⟩ := quiet
    rw [readied_of_bare shown]
    exact (goes.advances target r flight').of_eq rfl rfl
  | waits shown chain quiet =>
    refine Advances.then ?_ quiet.aside
    obtain ⟨_, _, rfl⟩ := quiet
    exact ⟨rfl, none, .waiting target, rfl, .nil, by rintro ⟨⟩, due⟩
  | left shown chain quiet goes =>
    obtain ⟨_, _, rfl⟩ := quiet
    have advances := (goes.advances target r flight').of_eq (n := n) rfl rfl
    unfold said at advances ⊢
    rw [aim_congr (n := n.readied) (by rw [readied, shown]) (by rw [readied, shown])
      (by rw [readied, shown])] at advances
    exact advances

lemma TakeOff.advances [Named κ] (goes : n.TakeOff flight p) {target : Option ScrollPosition}
    (due : n.pendingScroll = target) (r : Request) (flight' : Flight) :
    Advances (.waiting target) n (Moment.reach r flight' p).1.navigator
      (n.readied.said flight.request.kind r flight' p) := by
  cases goes with
  | dropped missing quiet =>
    refine Advances.then ?_ (aside_reach r flight' _)
    refine Advances.then ?_ quiet.aside
    exact ⟨rfl, none, .waiting target, rfl, .single (.unentered ⟨rfl, rfl⟩), by rintro ⟨⟩, due⟩
  | looped located exceeds quiet =>
    refine Advances.then ?_ (aside_reach r flight' _)
    refine Advances.then ?_ quiet.aside
    exact ⟨rfl, none, .waiting target, rfl, .single (.unentered ⟨rfl, rfl⟩), by rintro ⟨⟩, due⟩
  | departs located within goes =>
    rw [← kind_of_located located]
    exact goes.advances due r flight'

lemma TakeOff.advances_of_bare [Named κ] (goes : n.TakeOff flight p) (bare : n.active = none)
    {target : Option ScrollPosition} (due : n.pendingScroll = target) (r : Request)
    (flight' : Flight) :
    Advances (.waiting target) n (Moment.reach r flight' p).1.navigator
      (n.said flight.request.kind r flight' p) := by
  have advances := goes.advances due r flight'
  rwa [readied_of_bare bare] at advances

omit [History η] in
/-- Changing the address of the page that is shown has nothing to do with scrolling. -/
lemma Readdressing.aside {url : String} {result : Navigator μ κ η × Outcome}
    (h : n.Readdressing url result) : n.Aside result.1 := by
  cases h with
  | nowhere => exact ⟨rfl, rfl, rfl, rfl, rfl, rfl⟩
  | elsewhere _ _ _ quiet | here _ _ _ _ quiet =>
    obtain ⟨_, _, rfl⟩ := quiet
    exact ⟨rfl, rfl, rfl, rfl, rfl, rfl⟩

/-- What the answer of a middleware says, and what follows from it. -/
def replied (n : Navigator μ κ η) (kind : Kind) (side : Side) (hop : Request) (m : μ)
    (action : Action) (r : Request) (flight : Flight) (p : Progress μ κ η) : List Mark :=
  gather (Event.mark? (n.aim kind))
    (answerEvents side hop m action p ++ (Moment.reach r flight p).2)

lemma ExitReaction.advances {page : ActivePage κ} {leaving : Leaving} {rest : List μ}
    {action : Action} (goes : n.ExitReaction flight page leaving rest action p)
    {target : Option ScrollPosition} (fits : (Errand.waiting target).Fits n)
    (m : μ) (r : Request) :
    Advances (.waiting target) n (Moment.reach r flight p).1.navigator
      (n.replied flight.request.kind .exit flight.request m action r flight p) := by
  cases goes with
  | next quiet =>
    obtain ⟨_, _, rfl⟩ := quiet
    exact ⟨rfl, none, .waiting target, rfl, .nil, by rintro ⟨⟩, fits.2⟩
  | left quiet goes =>
    obtain ⟨_, _, rfl⟩ := quiet
    exact (goes.advances target r flight).of_eq rfl rfl
  | denied quiet | redirected quiet =>
    refine Advances.then ?_ (aside_reach r flight _)
    refine Advances.then ?_ quiet.aside
    exact ⟨rfl, none, .waiting target, rfl, .single (.unentered ⟨rfl, rfl⟩), by rintro ⟨⟩, fits.2⟩

lemma EntryReaction.advances [Named κ] {route : Nat} {context : Context κ} {rest : List μ}
    {action : Action} (goes : n.EntryReaction flight route context rest action p)
    (bare : n.active = none) {target : Option ScrollPosition} {held : Bool}
    (fits : (Errand.entering target held).Fits n) (m : μ) (r : Request) :
    Advances (.entering target held) n (Moment.reach r flight p).1.navigator
      (n.replied .replace .entry flight.request m action r flight p) := by
  cases goes with
  | next quiet | refused shows quiet =>
    refine Advances.then ?_ quiet.aside
    exact ⟨rfl, none, _, rfl, .single (.answered rfl), rfl, fits.2⟩
  | entered quiet | denied shows quiet =>
    refine Advances.then ?_ (aside_reach r flight _)
    exact Advances.cons (.answered rfl) (advances_settled quiet fits r _)
  | followed quiet goes =>
    obtain ⟨outbox, _, rfl⟩ := quiet
    refine Advances.cons .misled ?_
    exact (goes.advances_of_bare bare rfl r flight).of_eq rfl rfl

end Navigator

/-! ### Incidents -/

namespace Moment

/-- A moment in a run in which calls may be given up. -/
def Fair (m : Moment μ κ η) : Prop :=
  m.Sound ∨ (∃ r, m.stage = .serving r) ∧
    ∃ phase leaving, m.navigator.activity = .abandoned phase leaving ∧ phase ≠ .idle

lemma Sound.fair {m : Moment μ κ η} (sound : m.Sound) : m.Fair := .inl sound

lemma Fair.idle {m : Moment μ κ η} (fair : m.Fair) (free : m.stage.request? = none) :
    m.navigator.activity = .idle := by
  rcases m with ⟨n, stage⟩
  rcases fair with sound | ⟨⟨r, rfl⟩, -⟩
  · cases stage with
    | resting => exact sound.1
    | serving r => cases free
    | served => exact sound
  · cases free

variable [Named μ] [Named κ] [History η]

/-- A call that was given up serves no request any more: those that come are queued, and nothing else
is done for them. -/
lemma move_of_abandoned {n : Navigator μ κ η} {phase : Phase} {leaving : Option Leaving}
    (doing : n.activity = .abandoned phase leaving) (busy : phase ≠ .idle) (r : Request) (a : Act κ) :
    Move n (.serving r) a (step ⟨n, .serving r⟩ a) ∧
      ∃ n', n'.activity = n.activity ∧ (step ⟨n, .serving r⟩ a).1 = ⟨n', .serving r⟩ := by
  replace busy : n.phase ≠ .idle := by rwa [Navigator.phase, doing]
  cases a with
  | call c =>
    rcases target : n.target? c with _ | ⟨kind, url⟩
    · simp only [step, call, target]
      exact ⟨.still rfl, n, rfl, rfl⟩
    · obtain ⟨n', quiet, h⟩ := Navigator.request_of_phase_ne busy kind url
      simp only [step, call, target, h]
      refine ⟨.queued rfl quiet, n', ?_, rfl⟩
      obtain ⟨_, _, rfl⟩ := quiet
      rfl
  | inPlace push url =>
    obtain ⟨n', quiet, h⟩ := Navigator.inPlace_of_phase_ne busy push url
    simp only [step, inPlace, h]
    refine ⟨.queued rfl quiet, n', ?_, rfl⟩
    obtain ⟨_, _, rfl⟩ := quiet
    rfl
  | answer action =>
    simp only [step, answer, Navigator.asked?, doing]
    exact ⟨.still rfl, n, doing, rfl⟩
  | shown =>
    simp only [step, shown, Navigator.resumeRefused, doing]
    exact ⟨.still rfl, n, doing, rfl⟩
  | next => exact ⟨.still rfl, n, rfl, rfl⟩
  | touch t =>
    refine ⟨.touched, t.apply n, ?_, rfl⟩
    obtain ⟨f, edited⟩ := (t.touched n).activity
    rw [edited, doing]
    rfl

/-- What every act does in a run in which calls may be given up. -/
lemma Fair.move {m : Moment μ κ η} (fair : m.Fair) (a : Act κ) :
    Move m.navigator m.stage a (m.step a) ∧ (m.step a).1.Fair := by
  rcases m with ⟨n, stage⟩
  rcases fair with sound | ⟨⟨r, rfl⟩, phase, leaving, doing, busy⟩
  · exact ⟨Moment.move sound a, .inl (sound_step sound a)⟩
  · obtain ⟨move, n', same, h⟩ := move_of_abandoned doing busy r a
    exact ⟨move, h ▸ .inr ⟨⟨r, rfl⟩, phase, leaving, same.trans doing, busy⟩⟩

omit [Named μ] [Named κ] [History η] in
/-- Giving a call up has nothing to do with scrolling. -/
lemma Fair.abandon {m : Moment μ κ η} (fair : m.Fair) :
    m.navigator.Aside m.navigator.abandon ∧ Fair ⟨m.navigator.abandon, m.stage⟩ := by
  rcases m with ⟨n, stage⟩
  unfold Navigator.abandon
  split
  · exact ⟨⟨rfl, rfl, rfl, rfl, rfl, rfl⟩, fair⟩
  · rename_i busy
    refine ⟨⟨rfl, rfl, rfl, rfl, rfl, rfl⟩, .inr ⟨?_, n.activity.phase, _, rfl, ?_⟩⟩
    · cases stage with
      | serving r => exact ⟨r, rfl⟩
      | resting | served => exact absurd (fair.idle rfl) busy
    · rcases fair with sound | ⟨-, phase, leaving, doing, busy⟩
      · cases stage with
        | serving r => exact sound.2.phase_ne
        | resting | served => exact absurd (Fair.idle (.inl sound) rfl) busy
      · exact doing ▸ busy

omit [Named μ] [Named κ] [History η] in
/-- Only touches say something about scrolling of their own. -/
lemma marks_of_other {a : Act κ} (other : a.touch? = none) : (Incident.act a).marks = [] := by
  cases a with
  | touch t => cases other
  | call | inPlace | answer | shown | next => rfl

omit [Named μ] [Named κ] [History η] in
/-- No page is shown while something is waited for. -/
lemma Fair.bare {n : Navigator μ κ η} {r : Request} (fair : Fair ⟨n, .serving r⟩)
    (doing : ∀ phase leaving, n.activity ≠ .abandoned phase leaving) : n.active = none := by
  rcases fair with sound | ⟨-, phase, leaving, given_up, -⟩
  · exact sound.1
  · exact absurd given_up (doing phase leaving)

omit [Named μ] in
/-- What every act says, and when it scrolls. -/
lemma Move.advances {n : Navigator μ κ η} {stage : Stage} {a : Act κ}
    {result : Moment μ κ η × List (Event μ)} (move : Move n stage a result)
    (fair : Fair ⟨n, stage⟩) {e : Errand} (fits : e.Fits n)
    (steady : (Incident.act a).isView = false) :
    n.Advances e result.1.navigator
      (gather (Event.mark? (n.readied.aim (coming ⟨n, stage⟩ (.act a)))) result.2 ++
        (Incident.act a).marks) := by
  have resting (free : stage.request? = none) : ∃ target, e = .waiting target :=
    fits.of_not_entering (by rw [Navigator.phase, fair.idle free]; rintro ⟨⟩)
  cases move with
  | still other =>
    rw [marks_of_other other]
    exact Navigator.Aside.advances ⟨rfl, rfl, rfl, rfl, rfl, rfl⟩ fits
  | @called c url kind p target goes =>
    obtain ⟨due, rfl⟩ := resting rfl
    have kind_eq : coming ⟨n, .resting⟩ (.act (.call c)) = kind := by
      simp only [coming, upcoming?, target, Option.map_some]
    rw [kind_eq]
    simpa [Navigator.said, begun] using goes.advances fits.2 { url, kind } _
  | queued other quiet =>
    rw [marks_of_other other]
    obtain ⟨_, _, rfl⟩ := quiet
    exact Navigator.Aside.advances ⟨rfl, rfl, rfl, rfl, rfl, rfl⟩ fits
  | readdressed =>
    exact (Navigator.readdressing (fair.idle rfl) _ _).aside.advances fits
  | @exitAnswered r flight page leaving m rest action p doing goes =>
    obtain ⟨due, rfl⟩ := fits.of_not_entering (by rw [Navigator.phase, doing]; rintro ⟨⟩)
    have kind_eq : coming ⟨n, .serving r⟩ (.act (.answer action)) = flight.request.kind := by
      simp only [coming, upcoming?, doing]
    rw [kind_eq, Navigator.readied_of_bare (fair.bare (by simp [doing]))]
    simpa [Navigator.replied] using goes.advances fits m r
  | @entryAnswered r flight route context m rest action p doing goes =>
    obtain ⟨due, held, rfl⟩ := fits.of_entering (by rw [Navigator.phase, doing]; rfl)
    have bare := fair.bare (by simp [doing])
    have kind_eq : coming ⟨n, .serving r⟩ (.act (.answer action)) = .replace := by
      simp only [coming, upcoming?, doing]
    rw [kind_eq, Navigator.readied_of_bare bare]
    simpa [Navigator.replied] using goes.advances bare fits m r
  | @refusalShown r flight route context reason n' doing quiet =>
    obtain ⟨due, held, rfl⟩ := fits.of_entering (by rw [Navigator.phase, doing]; rfl)
    refine Navigator.Advances.then ?_ (Navigator.aside_reach r flight (n', some (.blocked reason none)))
    exact Navigator.advances_settled quiet fits r (.blocked reason none)
  | returned queue =>
    obtain ⟨due, rfl⟩ := resting rfl
    exact ⟨rfl, none, .waiting due, rfl, .single .returned, fits⟩
  | @dequeued r outcome owed r' rest n' p queue quiet goes =>
    obtain ⟨due, rfl⟩ := resting rfl
    have kind_eq : coming ⟨n, .served r outcome owed⟩ (.act .next) = r'.kind := by
      simp only [coming, upcoming?, queue, List.head?_cons]
    rw [kind_eq]
    obtain ⟨_, _, rfl⟩ := quiet
    have advances := goes.advances fits.2 r' { request := r', owed := some owed }
    simp only [Navigator.said, Navigator.aim_readied_queue] at advances
    simpa [begun] using advances.of_eq (n := n) rfl rfl
  | touched => exact Navigator.advances_touch fits _ steady

/-- An incident carries the transcript on. Unless the surface changes by itself, it is told to scroll to
what the transcript says and to nothing else. -/
structure Accounted (m : Moment μ κ η) (e : Errand) (i : Incident κ) : Prop where
  fair : (m.happen i).1.Fair
  config : (m.happen i).1.navigator.config = m.navigator.config
  viewport : i.isView = false →
    (m.happen i).1.navigator.viewport = m.navigator.viewport.follow (m.told? i)
  orderly : ∃ e', Orderly m.navigator.config.restoreScroll e (m.marks i) e' ∧
    e'.Fits (m.happen i).1.navigator

lemma Accounted.of_advances {m : Moment μ κ η} {e : Errand} {i : Incident κ}
    (fair : (m.happen i).1.Fair) (steady : i.isView = false)
    (advances : m.navigator.Advances e (m.happen i).1.navigator
      (gather (Event.mark? (m.navigator.readied.aim (m.coming i))) (m.happen i).2 ++ i.marks)) :
    m.Accounted e i := by
  obtain ⟨config, target, e', viewport, orderly, fits⟩ := advances
  have told : m.told? i = target := by
    rw [told?, steady, viewport]
    exact Viewport.toldSince_follow _ target
  exact ⟨fair, config, fun _ => told ▸ viewport, e', by rw [marks, told]; exact orderly, fits⟩

lemma Fair.accounted {m : Moment μ κ η} (fair : m.Fair) {e : Errand} (fits : e.Fits m.navigator)
    (i : Incident κ) : m.Accounted e i := by
  cases i with
  | giveUp => exact .of_advances fair.abandon.2 rfl (fair.abandon.1.advances fits)
  | act a =>
    obtain ⟨move, fair'⟩ := fair.move a
    cases steady : (Incident.act a).isView with
    | false => exact .of_advances fair' steady (move.advances fair fits steady)
    | true =>
      unfold Incident.isView at steady
      split at steady
      case h_1 viewport same =>
        cases same
        exact ⟨fair', rfl, by rintro ⟨⟩, e, .nil, by cases e <;> exact fits⟩
      case h_2 => cases steady

/-- The transcript of a run is orderly. -/
lemma Fair.orderly {m : Moment μ κ η} (fair : m.Fair) {e : Errand} (fits : e.Fits m.navigator)
    (incidents : List (Incident κ)) :
    ∃ e', Orderly m.navigator.config.restoreScroll e (m.transcript incidents) e' ∧
      e'.Fits (m.through incidents).navigator ∧ (m.through incidents).Fair := by
  induction incidents generalizing m e with
  | nil => exact ⟨e, .nil, fits, fair⟩
  | cons i incidents ih =>
    obtain ⟨fair', config, -, e', first, fits'⟩ := fair.accounted fits i
    obtain ⟨e'', rest, final⟩ := ih fair' fits'
    exact ⟨e'', first.append (config ▸ rest), final⟩

end Moment

/-! ### The runs of a navigator -/

/-- The navigator scrolls when it is time, and where the navigation was aimed when it was matched
(`Navigator.aim`: its entry's own position or else the one in the store for a traversal, and the top for
all else). In every run, also if calls are given up:

One incident makes one call of the surface at most, which the transcript shows; the surface changes in no
other way, unless it does so by itself.

Each scrolling goes to where the navigation put into the history last was aimed, and there is none
before it for that navigation. Its entry chain has ended, and it was not led elsewhere. It happens at the
end of the navigation, or, if the page has asked to wait and not rendered since, the first time
that it renders after the end.

Conversely, a navigation that ends in success or without a route, or is denied entry, scrolls right when
it ends if the navigator is to scroll at all; if the page has asked to wait and not rendered since, it
scrolls right when that happens for the first time, unless another navigation has been put into the
history before. -/
theorem scrolling_follows_entry [Named μ] [Named κ] [History η] {s : Setup μ κ η}
    {n : Navigator μ κ η} (built : s.build = .ok n) (incidents : List (Incident κ)) :
    let transcript := (Moment.start n).transcript incidents
    (∀ done i rest, incidents = done ++ i :: rest → i.isView = false →
      let m := (Moment.start n).through done
      (m.happen i).1.navigator.viewport = m.navigator.viewport.follow (m.told? i)) ∧
    (∀ before p later, transcript = before ++ .scrolled p :: later →
      ∃ early late r outcome between,
        before = early ++ .aimed (some p) :: (late ++ .ended r outcome :: between) ∧
        (∀ x ∈ late, x.isWithin) ∧ (∀ x ∈ between, x.isBetween) ∧
        ((¬HeldBack late ∧ between = []) ∨
          (HeldBack late ∧ ∃ wait, between = wait ++ [.rendered] ∧ .rendered ∉ wait))) ∧
    (∀ before r outcome later, transcript = before ++ .ended r outcome :: later →
      (outcome.isSuccess ∨ outcome.isNotFound ∨ ∃ before' reason late,
        before = before' ++ .answered (.deny reason) :: late ∧ ∀ x ∈ late, x.isWithin) →
      ∃ early target late, before = early ++ .aimed target :: late ∧ (∀ x ∈ late, x.isWithin) ∧
        target.isSome = s.config.restoreScroll ∧
        (¬HeldBack late → ∃ rest, later = Mark.scrolling target ++ rest) ∧
        (HeldBack late → ∀ wait rest, later = wait ++ .rendered :: rest →
          (∀ t, .aimed t ∉ wait) → .rendered ∉ wait →
          ∃ rest', rest = Mark.scrolling target ++ rest')) ∧
    (s.config.restoreScroll = false → ∀ p, .scrolled p ∉ transcript) := by
  intro transcript
  have fair : (Moment.start n).Fair := (Moment.sound_start built).fair
  have set : n.config = s.config := by rw [Setup.eq_of_build built]
  have fits : (Errand.waiting none).Fits n := by
    rw [Setup.eq_of_build built]
    exact ⟨by rintro ⟨⟩, rfl⟩
  obtain ⟨e, orderly, -⟩ := fair.orderly fits incidents
  rw [show (Moment.start n).navigator.config = s.config from set] at orderly
  refine ⟨fun done i rest _ steady => ?once, fun before p later split => orderly.of_scrolled split,
    fun before r outcome later split well => ?due, fun off p mem => ?off⟩
  case once =>
    obtain ⟨e', -, fits', fair'⟩ := fair.orderly fits done
    exact (fair'.accounted fits' i).viewport steady
  case due =>
    have entered : ∃ early target late,
        before = early ++ .aimed target :: late ∧ ∀ x ∈ late, x.isWithin := by
      rcases well with well | well | ⟨before', reason, late, rfl, all⟩
      · exact orderly.of_ended split (.inl well)
      · exact orderly.of_ended split (.inr well)
      · have answered : transcript =
            before' ++ .answered (.deny reason) :: (late ++ .ended r outcome :: later) := by
          simpa using split
        obtain ⟨early, target, late', rfl, all'⟩ := orderly.of_answered answered
        refine ⟨early, target, late' ++ .answered (.deny reason) :: late, by simp, ?_⟩
        simp only [List.mem_append, List.mem_cons]
        rintro x (mem | rfl | mem)
        · exact all' x mem
        · rfl
        · exact all x mem
    obtain ⟨early, target, late, rfl, all⟩ := entered
    exact ⟨early, target, late, rfl, all, orderly.due (by simpa using split) all⟩
  case off =>
    obtain ⟨before, later, split⟩ := List.append_of_mem mem
    obtain ⟨early, late, r, outcome, between, rfl, all, -⟩ := orderly.of_scrolled split
    have ended : transcript = early ++ .aimed (some p) ::
        (late ++ .ended r outcome :: (between ++ .scrolled p :: later)) := by
      simpa using split
    obtain ⟨some_eq, -⟩ := orderly.due ended all
    rw [off] at some_eq
    cases some_eq

/-- A page that was scrolled is left and gone back to. It asks to wait, so it is scrolled to where it was
only when its content is rendered. -/
theorem scrolling_follows_entry_back :
    let s : Setup String String MemoryHistory :=
      { routes := [{ (Route.catchAll : Route String) with entry := ["guard"] }], history := {} }
    let done : List (Incident String) :=
      [.act (.call (.start "/a")), .act (.answer .proceed), .act .next,
        .act (.touch (.view { position := ⟨0, 40⟩, scrolls := 1 })),
        .act (.call (.push "/b")), .act (.answer .proceed), .act .next,
        .act (.call .back), .act (.touch .deferScroll), .act (.answer .proceed), .act .next]
    let rendered : Incident String := .act (.touch .contentRendered)
    ∃ n, s.build = .ok n ∧
      let m := (Moment.start n).through done
      ((Moment.start n).transcript (done ++ [rendered])).drop 10 =
        [.aimed (some ⟨0, 40⟩), .deferred, .answered .proceed,
          .ended ⟨"/a", .back, 0⟩ (.success "/a"), .returned (.success "/a"),
          .rendered, .scrolled ⟨0, 40⟩] ∧
      m.navigator.viewport = { position := .top, scrolls := 2 } ∧
      (m.happen rendered).1.navigator.viewport = { position := ⟨0, 40⟩, scrolls := 3 } := by
  intro s done rendered
  have built : s.build = .ok _ := rfl
  obtain ⟨once, -⟩ := scrolling_follows_entry built (done ++ [rendered])
  refine ⟨_, built, by decide +kernel, by decide +kernel, ?_⟩
  rw [once done rendered [] rfl rfl]
  decide +kernel

end Wayfinder
