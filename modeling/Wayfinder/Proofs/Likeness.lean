/-
Navigators that differ only in what they have reported.

A navigator writes a log and knows what it owes to the caller of the running call. Neither has any
influence on what it does. `Navigator.Alike` says that two navigators differ in nothing else, except
that the second one may have further requests at the end of its queue. They stay alike whatever is done
to both of them, as long as the further requests do not get their turn.

* `Navigator.Alike`, `Navigator.effect`: what does not count, and what is left of a navigator then.
* `Arrival.alike` and the like: each description of the pipeline determines all that counts.
* `Moment.Alike.step`, `Moment.Alike.after`: alike moments stay alike.
-/
import Wayfinder.Proofs.Service

namespace Wayfinder

variable {μ κ η : Type}

/-! ### Likeness -/

/-- The activity with something else owed to the caller. -/
def Activity.owing (owed : Option Outcome) : Activity μ κ → Activity μ κ
  | exiting flight page leaving middlewares =>
    exiting { flight with owed } page leaving middlewares
  | entering flight route context middlewares =>
    entering { flight with owed } route context middlewares
  | refused flight route context reason => refused { flight with owed } route context reason
  | other => other

@[simp] lemma Activity.owing_owing (a : Activity μ κ) (owed owed' : Option Outcome) :
    (a.owing owed).owing owed' = a.owing owed' := by
  cases a <;> rfl

/-- What an activity owes already. -/
lemma Activity.exists_owing_eq (a : Activity μ κ) : ∃ owed, a.owing owed = a := by
  cases a with
  | exiting flight | entering flight | refused flight => exact ⟨flight.owed, rfl⟩
  | idle | abandoned => exact ⟨none, rfl⟩

@[simp] lemma Activity.phase_owing (a : Activity μ κ) (owed : Option Outcome) :
    (a.owing owed).phase = a.phase := by
  cases a <;> rfl

lemma Activity.edit_owing (a : Activity μ κ) (owed : Option Outcome) (f : Context κ → Context κ) :
    (a.owing owed).edit f = (a.edit f).owing owed := by
  cases a <;> rfl

namespace Navigator

/-- A navigator without its log and without what it owes. -/
def effect (n : Navigator μ κ η) : Navigator μ κ η :=
  { n with outbox := orders n.outbox, activity := n.activity.owing none }

/-- The second navigator has more requests at the end of its queue; apart from this the two differ only
in their logs and in what they owe. -/
def Alike (extra : List Request) (n n' : Navigator μ κ η) : Prop :=
  ∃ outbox owed, orders outbox = orders n.outbox ∧
    n' = { n with queue := n.queue ++ extra, outbox, activity := n.activity.owing owed }

/-- Alike progress: alike navigators, and the same outcome if there is one. -/
def AlikeProgress (extra : List Request) (p p' : Progress μ κ η) : Prop :=
  p.1.Alike extra p'.1 ∧ p.2 = p'.2

variable {extra : List Request} {n n' : Navigator μ κ η}

/-- Nothing else counts. -/
lemma Alike.effect_eq (alike : n.Alike extra n') :
    n'.effect = { n.effect with queue := n.queue ++ extra } := by
  obtain ⟨_, _, told, rfl⟩ := alike
  simp only [effect, Activity.owing_owing, told]

/-- A navigator with more requests at the end of its queue. -/
lemma Alike.of_quietly (quiet : Quietly { n with queue := n.queue ++ extra } n') :
    n.Alike extra n' := by
  obtain ⟨outbox, told, rfl⟩ := quiet
  obtain ⟨owed, same⟩ := n.activity.exists_owing_eq
  exact ⟨outbox, owed, told, by rw [same]⟩

/-- Quiet steps keep navigators alike. -/
lemma Alike.quietly {m m' : Navigator μ κ η} (quiet : Quietly n m) (quiet' : Quietly n' m')
    (alike : n.Alike extra n') : m.Alike extra m' := by
  obtain ⟨_, owed, told, rfl⟩ := alike
  obtain ⟨_, told₁, rfl⟩ := quiet
  obtain ⟨_, told₂, rfl⟩ := quiet'
  exact ⟨_, owed, told₂.trans (told.trans told₁.symm), rfl⟩

/-- Pages whose entry chains have ended are settled alike. -/
lemma Alike.settled {m m' : Navigator μ κ η} (alike : n.Alike extra n') {route : Nat}
    {context : Context κ} (quiet : Quietly (n.settled route context) m)
    (quiet' : Quietly (n'.settled route context) m') : m.Alike extra m' := by
  obtain ⟨_, _, told, rfl⟩ := alike
  exact Alike.quietly quiet quiet' ⟨_, none, told, rfl⟩

/-! ### Requests -/

section

variable [History η] {flight : Flight} {owed : Option Outcome} {p p' : Progress μ κ η}

/-- What a request puts into the history, where it scrolls and which route it finds is determined. -/
lemma Arrival.alike (goes : n.Arrival flight p) (goes' : n'.Arrival { flight with owed } p')
    (alike : n.Alike extra n') : AlikeProgress extra p p' := by
  obtain ⟨outbox, owed', told, rfl⟩ := alike
  cases goes with
  | notFound put aim found quiet =>
    cases goes' with
    | notFound put' aim' found' quiet' =>
      cases put.symm.trans put'
      cases aim.symm.trans aim'
      cases found.symm.trans found'
      exact ⟨Alike.quietly quiet quiet' ⟨_, none, told, rfl⟩, rfl⟩
    | waits _ _ found' | entered _ _ found' => cases found.symm.trans found'
  | waits put aim found chain quiet =>
    cases goes' with
    | waits put' aim' found' chain' quiet' =>
      cases put.symm.trans put'
      cases aim.symm.trans aim'
      cases found.symm.trans found'
      cases chain.symm.trans chain'
      exact ⟨Alike.quietly quiet quiet' ⟨_, owed, told, rfl⟩, rfl⟩
    | notFound _ _ found' => cases found.symm.trans found'
    | entered _ _ found' chain' =>
      cases found.symm.trans found'
      cases chain.symm.trans chain'
  | entered put aim found chain quiet =>
    cases goes' with
    | entered put' aim' found' chain' quiet' =>
      cases put.symm.trans put'
      cases aim.symm.trans aim'
      cases found.symm.trans found'
      exact ⟨Alike.quietly quiet quiet' ⟨_, none, told, rfl⟩, rfl⟩
    | notFound _ _ found' => cases found.symm.trans found'
    | waits _ _ found' chain' =>
      cases found.symm.trans found'
      cases chain.symm.trans chain'

/-- So is how the page is left. -/
lemma Departure.alike [Named κ] (goes : n.Departure flight p)
    (goes' : n'.Departure { flight with owed } p') (alike : n.Alike extra n') :
    AlikeProgress extra p p' := by
  have same := alike
  obtain ⟨outbox, owed', told, rfl⟩ := alike
  cases goes with
  | fresh shown quiet goes =>
    cases goes' with
    | fresh shown' quiet' goes' => exact Arrival.alike goes goes' (Alike.quietly quiet quiet' same)
    | waits shown' | left shown' => cases shown.symm.trans shown'
  | waits shown chain quiet =>
    cases goes' with
    | waits shown' chain' quiet' =>
      cases shown.symm.trans shown'
      cases chain.symm.trans chain'
      exact ⟨Alike.quietly quiet quiet' ⟨_, owed, told, rfl⟩, rfl⟩
    | fresh shown' => cases shown.symm.trans shown'
    | left shown' chain' =>
      cases shown.symm.trans shown'
      cases chain.symm.trans chain'
  | left shown chain quiet goes =>
    cases goes' with
    | left shown' chain' quiet' goes' =>
      cases shown.symm.trans shown'
      exact Arrival.alike goes goes'
        (Alike.quietly quiet quiet' ⟨_, owed, by simp [told], rfl⟩)
    | fresh shown' => cases shown.symm.trans shown'
    | waits shown' chain' =>
      cases shown.symm.trans shown'
      cases chain.symm.trans chain'

/-- So is whether a request goes on, and where a traversal goes to. -/
lemma TakeOff.alike [Named κ] (goes : n.TakeOff flight p)
    (goes' : n'.TakeOff { flight with owed } p') (alike : n.Alike extra n') :
    AlikeProgress extra p p' := by
  have same := alike
  obtain ⟨outbox, owed', told, rfl⟩ := alike
  cases goes with
  | dropped target quiet =>
    cases goes' with
    | dropped target' quiet' => exact ⟨Alike.quietly quiet quiet' ⟨_, none, told, rfl⟩, rfl⟩
    | looped target' | departs target' => cases target.symm.trans target'
  | looped target exceeds quiet =>
    cases goes' with
    | looped target' exceeds' quiet' =>
      cases target.symm.trans target'
      exact ⟨Alike.quietly quiet quiet' ⟨_, none, told, rfl⟩, rfl⟩
    | dropped target' => cases target.symm.trans target'
    | departs target' within =>
      cases target.symm.trans target'
      exact absurd within (Nat.not_le_of_lt exceeds)
  | departs target within goes =>
    cases goes' with
    | departs target' within' goes' =>
      cases target.symm.trans target'
      exact Departure.alike goes goes' same
    | dropped target' => cases target.symm.trans target'
    | looped target' exceeds =>
      cases target.symm.trans target'
      exact absurd within (Nat.not_le_of_lt exceeds)

/-- So is what follows the answer of an exit middleware. -/
lemma ExitReaction.alike {page : ActivePage κ} {leaving : Leaving} {rest : List μ} {action : Action}
    (goes : n.ExitReaction flight page leaving rest action p)
    (goes' : n'.ExitReaction { flight with owed } page leaving rest action p')
    (alike : n.Alike extra n') : AlikeProgress extra p p' := by
  obtain ⟨outbox, owed', told, rfl⟩ := alike
  cases goes with
  | next quiet =>
    cases goes' with
    | next quiet' => exact ⟨Alike.quietly quiet quiet' ⟨_, owed, told, rfl⟩, rfl⟩
  | left quiet goes =>
    cases goes' with
    | left quiet' goes' =>
      exact Arrival.alike goes goes' (Alike.quietly quiet quiet' ⟨_, owed, by simp [told], rfl⟩)
  | denied quiet =>
    cases goes' with
    | denied quiet' => exact ⟨Alike.quietly quiet quiet' ⟨_, none, told, rfl⟩, rfl⟩
  | redirected quiet =>
    cases goes' with
    | redirected quiet' => exact ⟨Alike.quietly quiet quiet' ⟨_, none, told, rfl⟩, rfl⟩

/-- So is what follows the answer of an entry middleware. -/
lemma EntryReaction.alike [Named κ] {route : Nat} {context : Context κ} {rest : List μ}
    {action : Action} (goes : n.EntryReaction flight route context rest action p)
    (goes' : n'.EntryReaction { flight with owed } route context rest action p')
    (alike : n.Alike extra n') : AlikeProgress extra p p' := by
  have same := alike
  obtain ⟨outbox, owed', told, rfl⟩ := alike
  cases goes with
  | next quiet =>
    cases goes' with
    | next quiet' => exact ⟨Alike.quietly quiet quiet' ⟨_, owed, told, rfl⟩, rfl⟩
  | entered quiet =>
    cases goes' with
    | entered quiet' => exact ⟨same.settled quiet quiet', rfl⟩
  | refused shows quiet =>
    cases goes' with
    | refused shows' quiet' =>
      cases shows.symm.trans shows'
      exact ⟨Alike.quietly quiet quiet' ⟨_, owed, by simp [told], rfl⟩, rfl⟩
    | denied shows' => cases shows.symm.trans shows'
  | denied shows quiet =>
    cases goes' with
    | denied shows' quiet' => exact ⟨same.settled quiet quiet', rfl⟩
    | refused shows' => cases shows.symm.trans shows'
  | followed quiet goes =>
    cases goes' with
    | followed quiet' goes' =>
      exact TakeOff.alike goes goes' (Alike.quietly quiet quiet' ⟨_, owed', by simp [told], rfl⟩)

/-! ### Everything else -/

omit [History η] in
lemma Alike.phase_eq (alike : n.Alike extra n') : n'.phase = n.phase := by
  obtain ⟨_, _, -, rfl⟩ := alike
  exact Activity.phase_owing ..

omit [History η] in
lemma Alike.activity_eq (alike : n.Alike extra n') :
    ∃ owed, n'.activity = n.activity.owing owed := by
  obtain ⟨_, owed, -, rfl⟩ := alike
  exact ⟨owed, rfl⟩

omit [History η] in
lemma Alike.activity_eq_idle (alike : n.Alike extra n') (idle : n.activity = .idle) :
    n'.activity = .idle := by
  obtain ⟨owed, doing⟩ := alike.activity_eq
  rw [doing, idle]
  rfl

omit [History η] in
lemma Alike.queue_eq (alike : n.Alike extra n') : n'.queue = n.queue ++ extra := by
  obtain ⟨_, _, -, rfl⟩ := alike
  rfl

lemma Alike.traversalUrl?_eq (alike : n.Alike extra n') (kind : Kind) :
    n'.traversalUrl? kind = n.traversalUrl? kind := by
  obtain ⟨_, _, -, rfl⟩ := alike
  rfl

lemma Alike.target?_eq (alike : n.Alike extra n') (c : Call) : n'.target? c = n.target? c := by
  cases c with
  | start | push | replace => rfl
  | back | forward => simp only [Navigator.target?, alike.traversalUrl?_eq]

omit [History η] in
/-- The same change of the queue, apart from the end of the second one. -/
lemma Alike.requeued {m m' : Navigator μ κ η} (alike : n.Alike extra n')
    {queue extra' : List Request} (quiet : Quietly { n with queue } m)
    (quiet' : Quietly { n' with queue := queue ++ extra' } m') : m.Alike extra' m' := by
  obtain ⟨_, owed, told, rfl⟩ := alike
  exact Alike.quietly quiet quiet' ⟨_, owed, told, rfl⟩

omit [History η] in
/-- A request that has to wait. -/
lemma Alike.queued {m m' : Navigator μ κ η} (alike : n.Alike [] n') {r : Request}
    (quiet : Quietly { n with queue := n.queue ++ [r] } m)
    (quiet' : Quietly { n' with queue := n'.queue ++ [r] } m') : m.Alike [] m' := by
  rw [alike.queue_eq, List.append_nil] at quiet'
  exact alike.requeued quiet (by rwa [List.append_nil])

/-- A change of the address does the same to alike pages. -/
lemma Alike.inPlace (alike : n.Alike extra n') (idle : n.phase = .idle) (push : Bool) (url : String) :
    (n.inPlace push url).1.Alike extra (n'.inPlace push url).1 := by
  have idle' : n'.phase = .idle := alike.phase_eq.trans idle
  obtain ⟨outbox, owed, told, rfl⟩ := alike
  simp only [Navigator.inPlace, if_pos idle, if_pos idle']
  rcases shown : n.active with _ | page
  · exact ⟨outbox, owed, told, by rw [shown]⟩
  · rcases resolved : n.table.resolve url with ⟨table, found⟩
    dsimp only
    split
    · exact ⟨_, owed, by simp [report, told], rfl⟩
    · cases push with
      | true => exact ⟨_, owed, by simp [commitInPlace, report, told], rfl⟩
      | false => exact ⟨_, owed, by simp [commitInPlace, report, told], rfl⟩

end

end Navigator

lemma Navigator.runningContext?_owing (n : Navigator μ κ η) (owed : Option Outcome)
    (queue : List Request) (outbox : List (Effect κ)) :
    { n with queue, outbox, activity := n.activity.owing owed }.runningContext? =
      n.runningContext? := by
  unfold runningContext?
  cases n.activity <;> rfl

/-- A touch does the same to alike navigators. -/
lemma Touch.alike {extra : List Request} {n n' : Navigator μ κ η} (alike : n.Alike extra n')
    (t : Touch κ) : (t.apply n).Alike extra (t.apply n') := by
  have phase := alike.phase_eq
  obtain ⟨outbox, owed, told, rfl⟩ := alike
  cases t with
  | edit f =>
    exact ⟨outbox, owed, told, by simp only [apply, Navigator.editContext, Activity.edit_owing]⟩
  | attach c =>
    simp only [apply, Navigator.attach, Navigator.discard_eq, Navigator.editContext,
      Activity.edit_owing, Navigator.runningContext?_owing]
    exact ⟨_, owed, by simp [told], rfl⟩
  | takeController =>
    simp only [apply, Navigator.takeController]
    rcases shown : n.active with _ | page
    · exact ⟨outbox, owed, told, by simp [shown]⟩
    · rcases held : page.context.controller with _ | c
      · simp only [held]
        exact ⟨outbox, owed, told, by simp [shown]⟩
      · simp only [held]
        exact ⟨outbox, owed, told, rfl⟩
  | returnController c =>
    simp only [apply, Navigator.returnController]
    rcases shown : n.active with _ | page
    · exact ⟨outbox ++ [.dispose c], owed, by simp [Navigator.tell, told],
        by simp [Navigator.tell, shown]⟩
    · rcases held : page.context.controller with _ | c'
      · simp only [held]
        exact ⟨outbox, owed, told, rfl⟩
      · simp only [held]
        exact ⟨outbox ++ [.dispose c], owed, by simp [Navigator.tell, told],
          by simp [Navigator.tell, shown]⟩
  | deferScroll =>
    simp only [apply, Navigator.deferScroll, phase]
    split
    · exact ⟨_, owed, by simp [Navigator.report, told], rfl⟩
    · exact ⟨outbox, owed, told, rfl⟩
  | contentRendered =>
    simp only [apply, Navigator.contentRendered, phase]
    split
    · exact ⟨outbox, owed, told, rfl⟩
    · exact Navigator.Alike.quietly (Navigator.quietly_scrollNow ..) (Navigator.quietly_scrollNow ..)
        ⟨outbox, owed, told, rfl⟩
  | view viewport => exact ⟨outbox, owed, told, rfl⟩

/-! ### Moments -/

/-- Whether an act asks for a navigation. -/
def Act.isRequest : Act κ → Bool
  | call _ | inPlace .. => true
  | _ => false

/-- Stages that differ in nothing but which request was asked for and what is owed to the caller. -/
inductive Stage.Alike : Stage → Stage → Prop
  | resting : Alike .resting .resting
  | serving {r r'} : Alike (.serving r) (.serving r')
  | served {r r' outcome owed owed'} :
    Alike (.served r outcome owed) (.served r' outcome owed')

lemma Stage.Alike.refl (stage : Stage) : stage.Alike stage := by
  cases stage with
  | resting => exact .resting
  | serving => exact .serving
  | served => exact .served

namespace Moment

variable {extra : List Request} {m m' : Moment μ κ η} {n n' : Navigator μ κ η}

/-- Alike navigators at alike stages. -/
structure Alike (extra : List Request) (m m' : Moment μ κ η) : Prop where
  navigator : m.navigator.Alike extra m'.navigator
  stage : m.stage.Alike m'.stage

/-- Alike progress leads to alike moments. -/
lemma Alike.reach {p p' : Navigator.Progress μ κ η} (alike : Navigator.AlikeProgress extra p p')
    (r r' : Request) (flight flight' : Flight) :
    Alike extra (reach r flight p).1 (Moment.reach r' flight' p').1 := by
  rcases p with ⟨n, _ | outcome⟩
  · rcases p' with ⟨n', _ | outcome'⟩
    · exact ⟨alike.1, .serving⟩
    · cases alike.2
  · rcases p' with ⟨n', _ | outcome'⟩
    · cases alike.2
    · cases alike.2
      exact ⟨.quietly (n.quietly_reportServed flight outcome)
        (n'.quietly_reportServed flight' outcome) alike.1, .served⟩

section Steps

variable [Named μ] [Named κ] [History η]

lemma alike_takeUp (alike : n.Alike extra n') (flight : Flight) (owed : Option Outcome) :
    Alike extra (takeUp n flight).1 (takeUp n' { flight with owed }).1 :=
  .reach ((n.takeOff_eq flight).alike (n'.takeOff_eq _) alike) ..

lemma Alike.call (alike : Alike [] m m') (sound : m.Sound) (sound' : m'.Sound) (c : Call) :
    Alike [] (m.call c).1 (m'.call c).1 := by
  rcases m with ⟨n, stage⟩
  rcases m' with ⟨n', stage'⟩
  obtain ⟨same, stages⟩ := alike
  have target' := same.target?_eq c
  rcases target : n.target? c with _ | ⟨kind, url⟩
  · rw [target] at target'
    simp only [Moment.call, target, target']
    exact ⟨same, stages⟩
  · rw [target] at target'
    cases stages with
    | resting =>
      simp only [Moment.call, target, target']
      exact alike_takeUp same { request := { url, kind } } none
    | serving =>
      obtain ⟨n₁, quiet, h⟩ :=
        Navigator.request_of_phase_ne (Navigator.phase_ne_idle sound.2) kind url
      obtain ⟨n₁', quiet', h'⟩ :=
        Navigator.request_of_phase_ne (Navigator.phase_ne_idle sound'.2) kind url
      simp only [Moment.call, target, target', h, h']
      exact ⟨same.queued quiet quiet', .serving⟩
    | served =>
      simp only [Moment.call, target, target']
      exact ⟨same, .served⟩

omit [Named μ] [Named κ] in
lemma Alike.inPlace (alike : Alike [] m m') (sound : m.Sound) (sound' : m'.Sound) (push : Bool)
    (url : String) : Alike [] (m.inPlace push url).1 (m'.inPlace push url).1 := by
  rcases m with ⟨n, stage⟩
  rcases m' with ⟨n', stage'⟩
  obtain ⟨same, stages⟩ := alike
  cases stages with
  | resting =>
    have idle : n.phase = .idle := congrArg Activity.phase sound.1
    exact ⟨same.inPlace idle push url, .resting⟩
  | serving =>
    obtain ⟨n₁, quiet, h⟩ :=
      Navigator.inPlace_of_phase_ne (Navigator.phase_ne_idle sound.2) push url
    obtain ⟨n₁', quiet', h'⟩ :=
      Navigator.inPlace_of_phase_ne (Navigator.phase_ne_idle sound'.2) push url
    simp only [Moment.inPlace, h, h']
    exact ⟨same.queued quiet quiet', .serving⟩
  | served => exact ⟨same, .served⟩

lemma Alike.answer (alike : Alike extra m m') (sound : m.Sound) (action : Action) :
    Alike extra (m.answer action).1 (m'.answer action).1 := by
  rcases m with ⟨n, stage⟩
  rcases m' with ⟨n', stage'⟩
  obtain ⟨same, stages⟩ := alike
  cases stages with
  | resting => exact ⟨same, .resting⟩
  | served => exact ⟨same, .served⟩
  | @serving r =>
    obtain ⟨owed, doing'⟩ : ∃ owed, n'.activity = n.activity.owing owed := same.activity_eq
    generalize doing : n.activity = activity at doing'
    have serves : activity.Serves r := doing ▸ sound.2
    cases serves with
    | exiting leads =>
      obtain ⟨p, h, goes⟩ := Navigator.react_exiting doing action
      obtain ⟨p', h', goes'⟩ := Navigator.react_exiting doing' action
      simp only [Moment.answer, Navigator.asked?, doing, doing', Activity.owing, h, h']
      exact .reach (goes.alike goes' same) ..
    | entering leads =>
      obtain ⟨p, h, goes⟩ := Navigator.react_entering doing action
      obtain ⟨p', h', goes'⟩ := Navigator.react_entering doing' action
      simp only [Moment.answer, Navigator.asked?, doing, doing', Activity.owing, h, h']
      exact .reach (goes.alike goes' same) ..
    | refused leads =>
      simp only [Moment.answer, Navigator.asked?, doing, doing', Activity.owing]
      exact ⟨same, .serving⟩

omit [Named μ] [Named κ] [History η] in
lemma Alike.shown (alike : Alike extra m m') (sound : m.Sound) :
    Alike extra m.shown.1 m'.shown.1 := by
  rcases m with ⟨n, stage⟩
  rcases m' with ⟨n', stage'⟩
  obtain ⟨same, stages⟩ := alike
  cases stages with
  | resting => exact ⟨same, .resting⟩
  | served => exact ⟨same, .served⟩
  | @serving r =>
    obtain ⟨owed, doing'⟩ : ∃ owed, n'.activity = n.activity.owing owed := same.activity_eq
    generalize doing : n.activity = activity at doing'
    have serves : activity.Serves r := doing ▸ sound.2
    cases serves with
    | exiting leads | entering leads =>
      simp only [Moment.shown, Navigator.resumeRefused, doing, doing', Activity.owing]
      exact ⟨same, .serving⟩
    | @refused _ _ _ reason leads =>
      obtain ⟨n₁, quiet, h⟩ := Navigator.resumeRefused_eq doing
      obtain ⟨n₁', quiet', h'⟩ := Navigator.resumeRefused_eq doing'
      simp only [Moment.shown, h, h']
      have ended : Navigator.AlikeProgress extra (n₁, some (.blocked reason none))
          (n₁', some (.blocked reason none)) := ⟨same.settled quiet quiet', rfl⟩
      exact .reach ended ..

/-- The next request, unless it is the turn of one that only the second moment knows. -/
lemma Alike.next (alike : Alike extra m m') (apart : extra = [] ∨ m.next.1.stage ≠ .resting) :
    Alike extra m.next.1 m'.next.1 := by
  rcases m with ⟨n, stage⟩
  rcases m' with ⟨n', stage'⟩
  obtain ⟨same, stages⟩ := alike
  cases stages with
  | resting => exact ⟨same, .resting⟩
  | serving => exact ⟨same, .serving⟩
  | served =>
    have queue' : n'.queue = n.queue ++ extra := same.queue_eq
    rcases queue : n.queue with _ | ⟨r, rest⟩
    · simp only [Moment.next, queue, ne_eq, not_true_eq_false, or_false] at apart
      rw [queue, apart] at queue'
      simp only [Moment.next, queue, queue', List.append_nil]
      exact ⟨same, .resting⟩
    · rw [queue] at queue'
      simp only [Moment.next, queue, queue', List.cons_append]
      exact alike_takeUp
        (same.requeued (n.quietly_dequeue r rest) (n'.quietly_dequeue r (rest ++ extra))) ..

/-- Alike moments stay alike. If there are further requests, nothing else may be asked for, and the
call must not return, as it would go on to them instead. -/
theorem Alike.step (alike : Alike extra m m') (sound : m.Sound) (sound' : m'.Sound) {a : Act κ}
    (apart : extra = [] ∨ a.isRequest = false ∧ (m.step a).1.stage ≠ .resting) :
    Alike extra (m.step a).1 (m'.step a).1 := by
  cases a with
  | call c =>
    obtain rfl : extra = [] := apart.resolve_right (by rintro ⟨⟨⟩, -⟩)
    exact alike.call sound sound' c
  | inPlace push url =>
    obtain rfl : extra = [] := apart.resolve_right (by rintro ⟨⟨⟩, -⟩)
    exact alike.inPlace sound sound' push url
  | answer action => exact alike.answer sound action
  | shown => exact alike.shown sound
  | next => exact alike.next (apart.imp_right And.right)
  | touch t => exact ⟨Touch.alike alike.navigator t, alike.stage⟩

omit [Named μ] in
/-- Without a request a resting navigator goes on resting. -/
lemma Move.resting {n : Navigator μ κ η} {a : Act κ} {result : Moment μ κ η × List (Event μ)}
    (move : Move n .resting a result) (asks : a.isRequest = false) :
    result.1.stage = .resting := by
  cases move with
  | still | touched => rfl
  | called | readdressed => cases asks

/-- So does one over a whole run. -/
lemma resting_after (sound : m.Sound) (resting : m.stage = .resting) {acts : List (Act κ)}
    (asks : ∀ a ∈ acts, a.isRequest = false) : (m.after acts).stage = .resting := by
  induction acts generalizing m with
  | nil => exact resting
  | cons a acts ih =>
    refine ih (sound_step sound a) ?_ fun a' later => asks a' (.tail a later)
    exact (resting ▸ move sound a).resting (asks a (List.mem_cons_self ..))

/-- Alike moments stay alike over a whole run. If there are further requests, nothing else may be
asked for, and the call must not have returned at the end. -/
theorem Alike.after (alike : Alike extra m m') (sound : m.Sound) (sound' : m'.Sound)
    {acts : List (Act κ)}
    (apart : extra = [] ∨
      (∀ a ∈ acts, a.isRequest = false) ∧ (m.after acts).stage ≠ .resting) :
    Alike extra (m.after acts) (m'.after acts) := by
  induction acts generalizing m m' with
  | nil => exact alike
  | cons a acts ih =>
    have step := alike.step sound sound' (apart.imp_right fun ⟨asks, busy⟩ =>
      ⟨asks a (List.mem_cons_self ..), fun resting => busy (resting_after (sound_step sound a) resting
        fun a' later => asks a' (.tail a later))⟩)
    exact ih step (sound_step sound a) (sound_step sound' a) (apart.imp_right fun ⟨asks, busy⟩ =>
      ⟨fun a' later => asks a' (.tail a later), busy⟩)

end Steps

end Moment

end Wayfinder
