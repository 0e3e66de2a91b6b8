/-
Who holds the controllers.

A controller comes into being when a middleware attaches it to the context it runs on, or when a
handler is asked for one because a URL has no route or a route may not be entered. From then on it
is in the custody of the navigator until it is disposed. The books are kept here: `Moment.ledger`
lists the controllers that a run has brought into being, `disposed` those that were to be disposed,
and `held` those that the contexts of the navigator hold.

* `Navigator.Books`: what one step does to the books.
* `Moment.Discharged`: why a step has disposed a controller.
* `Moment.departs_performed`: what an exit chain that runs has changed since it began.
* `controllers_disposed_once`: the books of every run balance.

Two things would break the books: a middleware that takes a controller out of its context, and a
call that is given up while one of its chains runs (`controllers_lost_or_late`).
-/
import Mathlib.Data.List.Induction
import Wayfinder.Proofs.Refusal

namespace Wayfinder

variable {μ κ η : Type}

/-! ### Disposed and held -/

/-- The controller that an effect disposes. -/
@[simp] def Effect.disposed? : Effect κ → Option κ
  | dispose c => some c
  | _ => none

/-- The controllers that were to be disposed, in order. -/
def disposedIn (outbox : List (Effect κ)) : List κ := outbox.filterMap Effect.disposed?

@[simp] lemma disposedIn_append (a b : List (Effect κ)) :
    disposedIn (a ++ b) = disposedIn a ++ disposedIn b := by
  simp [disposedIn]

@[simp] lemma disposedIn_disposal (controller : Option κ) :
    disposedIn (disposal controller) = controller.toList := by
  cases controller <;> rfl

lemma disposedIn_orders (outbox : List (Effect κ)) :
    disposedIn (orders outbox) = disposedIn outbox := by
  rw [disposedIn, disposedIn, orders, List.filterMap_filter]
  refine congrArg (outbox.filterMap ·) (funext fun e => ?_)
  cases e <;> rfl

lemma disposedIn_congr {outbox outbox' : List (Effect κ)} (told : orders outbox = orders outbox') :
    disposedIn outbox = disposedIn outbox' := by
  rw [← disposedIn_orders, told, disposedIn_orders]

/-- The context that an activity has in its hands. -/
@[simp] def Activity.context? : Activity μ κ → Option (Context κ)
  | exiting _ page _ _ => some page.context
  | entering _ _ context _ => some context
  | refused _ _ context _ => some context
  | _ => none

/-- The controller that a context holds. -/
@[simp] def Context.holds (context : Option (Context κ)) : List κ :=
  (context.bind (·.controller)).toList

namespace Navigator

/-- The contexts of a navigator: that of the page that is shown, and that of the running chain. -/
def contexts (n : Navigator μ κ η) : List (Context κ) :=
  (n.active.map (·.context)).toList ++ n.activity.context?.toList

/-- The controllers that the contexts of a navigator hold. -/
def held (n : Navigator μ κ η) : List κ := n.contexts.filterMap (·.controller)

/-- The controllers that were to be disposed, in order. -/
def disposed (n : Navigator μ κ η) : List κ := disposedIn n.outbox

/-- The controller of the page that is shown. -/
@[simp] def shown (n : Navigator μ κ η) : List κ := Context.holds (n.active.map (·.context))

lemma held_eq (n : Navigator μ κ η) : n.held = n.shown ++ Context.holds n.activity.context? := by
  have single (context : Option (Context κ)) :
      context.toList.filterMap (·.controller) = Context.holds context := by
    rcases context with _ | ⟨_, _, _, _, _, _, _, _, _ | _⟩ <;> rfl
  rw [held, contexts, List.filterMap_append, single, single, shown]

/-- The controllers that handlers make when something happens. For an error that is only done where
there is none. -/
def made (n : Navigator μ κ η) : Event μ → List κ
  | .ended _ (.notFound url) => (n.handlers.renderNotFound url).toList
  | .answered .entry _ _ (.deny reason) =>
    if n.held.isEmpty then (n.handlers.renderError (.refused reason)).toList else []
  | _ => []

/-- The controller that an act attaches. -/
def attached (n : Navigator μ κ η) : Act κ → List κ
  | .touch (.attach c) => if n.runningContext?.isSome then [c] else []
  | _ => []

/-! ### The books -/

lemma attached_of_touch? {n : Navigator μ κ η} {a : Act κ} (other : a.touch? = none) :
    n.attached a = [] := by
  cases a with
  | touch t => cases other
  | _ => rfl

/-- What a stretch of a run does to the books. At its beginning, `n`, the controllers `before` are
held. Of these and of those that come into being, `new`, the controllers `gone` are disposed, and
the others are held in the end. -/
structure Books (n : Navigator μ κ η) (before new gone : List κ) (n' : Navigator μ κ η) : Prop where
  disposed : n'.disposed = n.disposed ++ gone
  held : before ++ new = gone ++ n'.held

/-- Nothing happens to any controller. -/
lemma books_of_same {n n' : Navigator μ κ η} (active : n'.active = n.active)
    (activity : n'.activity = n.activity) (told : orders n'.outbox = orders n.outbox) :
    n.Books n.held [] [] n' where
  disposed := by rw [List.append_nil, disposed, disposed, disposedIn_congr told]
  held := by
    simp only [List.append_nil, List.nil_append, Navigator.held, contexts, active, activity]

lemma Books.trans {n n' n'' : Navigator μ κ η} {before new gone new' gone' : List κ}
    (h : n.Books before new gone n') (h' : n'.Books n'.held new' gone' n'') :
    n.Books before (new ++ new') (gone ++ gone') n'' where
  disposed := by rw [h'.disposed, h.disposed, List.append_assoc]
  held :=
    calc before ++ (new ++ new')
      _ = (before ++ new) ++ new' := (List.append_assoc ..).symm
      _ = gone ++ (n'.held ++ new') := by rw [h.held, List.append_assoc]
      _ = (gone ++ gone') ++ n''.held := by rw [h'.held, List.append_assoc]

lemma Books.quietly {n n' n'' : Navigator μ κ η} {before new gone : List κ}
    (h : n.Books before new gone n') (quiet : Quietly n' n'') : n.Books before new gone n'' := by
  obtain ⟨outbox, told, rfl⟩ := quiet
  have same : n'.Books n'.held [] [] { n' with outbox } := books_of_same rfl rfl told
  simpa using h.trans same

/-- The log does not count. -/
lemma Books.of_quietly {n₀ n n' : Navigator μ κ η} {before new gone : List κ}
    (quiet : Quietly n₀ n) (h : n.Books before new gone n') : n₀.Books before new gone n' := by
  obtain ⟨outbox, told, rfl⟩ := quiet
  exact ⟨h.disposed.trans (congrArg (· ++ gone) (disposedIn_congr told)), h.held⟩

/-! ### The progress of one request -/

/-- The controller that is made for a request without a route. -/
@[simp] def rendered (n : Navigator μ κ η) : Progress μ κ η → List κ
  | (_, some (.notFound url)) => (n.handlers.renderNotFound url).toList
  | _ => []

lemma made_landed (n : Navigator μ κ η) (p : Progress μ κ η) : (landed p).flatMap n.made = [] := by
  obtain h | ⟨url, h⟩ := landed_cases p
  · rw [h]
    rfl
  · rw [h]
    rfl

/-- Of the events of an answer only the answer itself makes a controller. -/
lemma made_answerEvents (n : Navigator μ κ η) (side : Side) (hop : Request) (x : μ)
    (action : Action) (p : Progress μ κ η) :
    (answerEvents side hop x action p).flatMap n.made = n.made (.answered side hop x action) := by
  have landed := n.made_landed p
  cases side <;> cases action <;> simp [answerEvents, landed]
  rfl

lemma made_reach (n : Navigator μ κ η) (r : Request) (flight : Flight) (p : Progress μ κ η) :
    (Moment.reach r flight p).2.flatMap n.made = n.rendered p := by
  rcases p with ⟨n', _ | outcome⟩
  · rfl
  · cases outcome <;> simp [Moment.reach, made]

variable [History η] {n : Navigator μ κ η} {flight : Flight} {p : Progress μ κ η}

/-- An arrival disposes nothing. Afterwards at most the controller for a URL without a route is
held. -/
lemma Arrival.books (goes : n.Arrival flight p) (bare : n.active = none) :
    n.Books [] (n.rendered p) [] p.1 := by
  cases goes with
  | @notFound history state scroll target table n' put aim found quiet =>
    refine Books.quietly ⟨?_, ?_⟩ quiet
    · exact (List.append_nil _).symm
    · rw [held_eq]
      simp
  | waits put aim found chain quiet =>
    refine Books.quietly ⟨?_, ?_⟩ quiet
    · exact (List.append_nil _).symm
    · rw [held_eq]
      simp [bare, fillIn, freshContext]
  | entered put aim found chain quiet =>
    refine Books.quietly ⟨?_, ?_⟩ quiet
    · exact (List.append_nil _).symm
    · rw [held_eq]
      simp [fillIn, freshContext]

/-- A page has been left. When its controller `c` was disposed the history was `history` and the
phase was still that of leaving; only afterwards the request was put into the history and the route
of its URL was entered. -/
def Parts (n : Navigator μ κ η) (history : η) (c : κ) (p : Progress μ κ η) : Prop :=
  ∃ (n₁ : Navigator μ κ η) (flight : Flight), n₁.history = history ∧ n₁.phase = .exiting ∧
    n₁.disposed = n.disposed ++ [c] ∧ n₁.Arrival flight p

/-- A departure disposes the controller of a page whose exit chain has nobody to ask, and nothing
else. -/
lemma Departure.books [Named κ] (goes : n.Departure flight p) :
    ∃ gone, n.Books n.shown (n.rendered p) gone p.1 ∧ (gone = [] ∨ ∃ page c,
      n.active = some page ∧ page.context.controller = some c ∧ gone = [c] ∧
      n.table.exitChain page.route = [] ∧ n.Parts (n.leftHistory page.context) c p) := by
  cases goes with
  | fresh none quiet goes =>
    have bare : n.shown = [] := by simp [none]
    obtain ⟨outbox, told, rfl⟩ := quiet
    refine ⟨[], ?_, .inl rfl⟩
    rw [bare]
    exact (goes.books none).of_quietly ⟨outbox, told, rfl⟩
  | @waits page c rest n' some chain quiet =>
    refine ⟨[], Books.quietly ⟨?_, ?_⟩ quiet, .inl rfl⟩
    · exact (List.append_nil _).symm
    · rw [held_eq]
      simp [some, leavingPage]
  | @left page n' _ some chain quiet goes =>
    have here : n.shown = page.context.controller.toList := by simp [some]
    obtain ⟨outbox, told, rfl⟩ := quiet
    have parts : disposedIn outbox = n.disposed ++ page.context.controller.toList := by
      rw [disposedIn_congr told, disposedIn_append, disposedIn_disposal, disposed]
    have books := goes.books rfl
    refine ⟨page.context.controller.toList, ⟨?_, ?_⟩, ?_⟩
    · rw [books.disposed, List.append_nil]
      exact parts
    · rw [here]
      exact congrArg _ books.held
    · rcases holds : page.context.controller with _ | c
      · exact .inl rfl
      · rw [holds] at parts
        refine .inr ⟨page, c, some, holds, rfl, chain, _, _, ?_, ?_, ?_, goes⟩
        · rfl
        · rfl
        · exact parts

/-- So does taking off. -/
lemma TakeOff.books [Named κ] (goes : n.TakeOff flight p) :
    ∃ gone, n.Books n.shown (n.rendered p) gone p.1 ∧ (gone = [] ∨ ∃ page c,
      n.active = some page ∧ page.context.controller = some c ∧ gone = [c] ∧
      n.table.exitChain page.route = [] ∧ n.Parts (n.leftHistory page.context) c p) := by
  cases goes with
  | dropped target quiet
  | looped target exceeds quiet =>
    refine ⟨[], Books.quietly ⟨?_, ?_⟩ quiet, .inl rfl⟩
    · exact (List.append_nil _).symm
    · rw [held_eq]
      simp
  | departs target within goes => exact goes.books

/-- The answer of an exit middleware disposes the controller of the page if it is the last one and
lets the page be left. -/
lemma ExitReaction.books {page : ActivePage κ} {leaving : Leaving} {x : μ} {rest : List μ}
    {action : Action} (doing : n.activity = .exiting flight page leaving (x :: rest))
    (bare : n.active = none) (goes : n.ExitReaction flight page leaving rest action p) :
    ∃ gone, n.Books n.held (n.rendered p) gone p.1 ∧ (gone = [] ∨ ∃ c,
      page.context.controller = some c ∧ gone = [c] ∧ action = .proceed ∧ rest = [] ∧
      n.Parts n.history c p) := by
  have here : n.held = page.context.controller.toList := by
    rw [held_eq, doing]
    simp [bare]
  rw [here]
  cases goes with
  | next quiet
  | denied quiet
  | redirected quiet =>
    refine ⟨[], Books.quietly ⟨?_, ?_⟩ quiet, .inl rfl⟩
    · exact (List.append_nil _).symm
    · rw [held_eq]
      simp [bare]
  | left quiet goes =>
    obtain ⟨outbox, told, rfl⟩ := quiet
    have parts : disposedIn outbox = n.disposed ++ page.context.controller.toList := by
      rw [disposedIn_congr told, disposedIn_append, disposedIn_disposal, disposed]
    have books := goes.books bare
    refine ⟨page.context.controller.toList, ⟨?_, ?_⟩, ?_⟩
    · rw [books.disposed, List.append_nil]
      exact parts
    · exact congrArg _ books.held
    · rcases holds : page.context.controller with _ | c
      · exact .inl rfl
      · rw [holds] at parts
        refine .inr ⟨c, rfl, rfl, rfl, rfl, _, _, ?_, ?_, ?_, goes⟩
        · rfl
        · rfl
        · exact parts

/-- The answer of an entry middleware disposes the controller of a route that is given up for
another one. -/
lemma EntryReaction.books [Named κ] {route : Nat} {context : Context κ} {x : μ} {rest : List μ}
    {action : Action} (doing : n.activity = .entering flight route context (x :: rest))
    (bare : n.active = none) (goes : n.EntryReaction flight route context rest action p)
    (hop : Request) :
    ∃ gone, n.Books n.held (n.made (.answered .entry hop x action) ++ n.rendered p) gone p.1 ∧
      (gone = [] ∨ ∃ target reason c, context.controller = some c ∧ gone = [c] ∧
        action = .redirect target reason) := by
  have here : n.held = context.controller.toList := by
    rw [held_eq, doing]
    simp [bare]
  cases goes with
  | next quiet =>
    refine ⟨[], Books.quietly ⟨?_, ?_⟩ quiet, .inl rfl⟩
    · exact (List.append_nil _).symm
    · rw [here, held_eq]
      simp [made, bare]
  | entered quiet =>
    refine ⟨[], Books.quietly ⟨?_, ?_⟩ quiet, .inl rfl⟩
    · exact (List.append_nil _).symm
    · rw [here, held_eq]
      simp [made, settled]
  | refused shows quiet =>
    refine ⟨[], Books.quietly ⟨?_, ?_⟩ quiet, .inl rfl⟩
    · simp [disposed, disposedIn]
    · rw [here, held_eq]
      rcases holds : context.controller with _ | c
      · simp [made, here, bare, holds] at shows ⊢
        simp [shows]
      · simp [made, here, bare, holds] at shows ⊢
        exact shows
  | denied shows quiet =>
    obtain ⟨none, silent⟩ := Option.or_eq_none_iff.mp shows
    refine ⟨[], Books.quietly ⟨?_, ?_⟩ quiet, .inl rfl⟩
    · exact (List.append_nil _).symm
    · rw [here, held_eq]
      simp [made, here, settled, none, silent]
  | @followed _ target reason _ _ quiet goes =>
    obtain ⟨outbox, told, rfl⟩ := quiet
    obtain ⟨gone, books, nothing | ⟨page, c, some, -⟩⟩ := goes.books
    · subst nothing
      have none : shown { n with pendingScroll := none, outbox } = [] := by
        simp [bare]
      refine ⟨context.controller.toList, ⟨?_, ?_⟩, ?_⟩
      · rw [books.disposed, List.append_nil]
        exact (disposedIn_congr told).trans (by simp [disposed])
      · rw [here]
        have held := books.held
        rw [none] at held
        exact congrArg _ held
      · rcases holds : context.controller with _ | c
        · exact .inl rfl
        · exact .inr ⟨target, reason, c, rfl, rfl, rfl⟩
    · cases bare.symm.trans some

omit [History η] in
/-- A page that changes its address keeps its controller. -/
lemma Readdressing.books {url : String} {result : Navigator μ κ η × Outcome}
    (h : n.Readdressing url result) : n.Books n.held [] [] result.1 := by
  cases h with
  | nowhere shown => exact books_of_same rfl rfl rfl
  | elsewhere shown resolved other quiet =>
    refine Books.quietly ?_ quiet
    exact books_of_same rfl rfl rfl
  | here shown resolved same holds quiet =>
    refine Books.quietly ⟨?_, ?_⟩ quiet
    · exact (List.append_nil _).symm
    · rw [held_eq, held_eq]
      simp [shown, holds]

end Navigator

/-! ### Deeds -/

/-- What can happen in the life of a controller. Borrowing it is over at once: whoever does so has
no other business with the navigator in the meantime. -/
inductive Deed (κ : Type) where
  /-- An act. -/
  | act (a : Act κ)
  /-- The controller of the active page is borrowed and given back. -/
  | borrow

/-- Whether a deed brings a controller into a context only by attaching it, and takes none out. -/
def Deed.Plain : Deed κ → Prop
  | act (.touch (.edit f)) => ∀ c, (f c).controller = c.controller
  | act (.touch .takeController) => False
  | act (.touch (.returnController _)) => False
  | _ => True

namespace Moment

variable [Named μ] [Named κ] [History η]

/-- The moment after a deed. -/
def perform (m : Moment μ κ η) : Deed κ → Moment μ κ η
  | .act a => (m.step a).1
  | .borrow =>
    match m.navigator.takeController with
    | none => m
    | some (c, n) => { m with navigator := n.returnController c }

/-- The controllers that come into being. -/
def created (m : Moment μ κ η) : Deed κ → List κ
  | .act a => m.navigator.attached a ++ (m.step a).2.flatMap m.navigator.made
  | .borrow => []

/-- The moment after some deeds. -/
def performed (m : Moment μ κ η) (deeds : List (Deed κ)) : Moment μ κ η := deeds.foldl perform m

/-- The controllers that come into being, in order. -/
def ledger (m : Moment μ κ η) : List (Deed κ) → List κ
  | [] => []
  | d :: deeds => m.created d ++ (m.perform d).ledger deeds

/-- A controller that was borrowed is where it was before. -/
lemma perform_borrow (m : Moment μ κ η) : m.perform .borrow = m := by
  rcases m with ⟨n, stage⟩
  rcases shown : n.active with _ | page
  · simp [perform, Navigator.takeController, shown]
  · rcases holds : page.context.controller with _ | c
    · simp [perform, Navigator.takeController, shown, holds]
    · simp only [perform, Navigator.takeController, shown, holds, Navigator.returnController,
        Context.detach, Context.attach]
      rw [← holds, ← shown]

end Moment

/-! ### Touches -/

lemma Activity.holds_edit {f : Context κ → Context κ} (a : Activity μ κ)
    (keeps : ∀ c, (f c).controller = c.controller) :
    Context.holds (a.edit f).context? = Context.holds a.context? := by
  cases a <;> simp [Activity.edit, keeps]

/-- Attaching a controller to a context disposes the one that the context has held. -/
lemma Navigator.books_attach {n : Navigator μ κ η} {context : Context κ} (new : κ)
    (bare : n.active = none) (running : n.runningContext? = some context) :
    n.Books n.held [new] context.controller.toList (n.attach new) := by
  simp only [attach, running, discard_eq, editContext, Option.bind_some]
  refine ⟨?_, ?_⟩
  · simp [disposed]
  · rw [held_eq, held_eq]
    unfold runningContext? at running
    split at running
    case h_1 doing =>
      cases running
      simp [bare, doing, Activity.edit, Context.attach]
    case h_2 doing =>
      cases running
      simp [bare, doing, Activity.edit, Context.attach]
    case h_3 => cases running

/-- Without a chain there is no context to attach a controller to. -/
lemma Navigator.attach_of_none {n : Navigator μ κ η} (running : n.runningContext? = none)
    (new : κ) : n.attach new = n := by
  have still : n.activity.edit (fun c => (c.attach new).1) = n.activity := by
    unfold runningContext? at running
    split at running
    case h_1 => cases running
    case h_2 => cases running
    case h_3 exiting entering =>
      cases doing : n.activity with
      | exiting => exact absurd doing (exiting _ _ _ _)
      | entering => exact absurd doing (entering _ _ _ _)
      | _ => rfl
  simp only [attach, running, editContext, still, Option.bind_none, discard]

/-- No other touch changes the books. -/
lemma Touch.books {n : Navigator μ κ η} {t : Touch κ} (plain : Deed.Plain (.act (.touch t)))
    (bare : n.runningContext?.isSome → n.active = none) :
    ∃ gone, n.Books n.held (n.attached (.touch t)) gone (t.apply n) ∧ (gone = [] ∨
      ∃ new context c, t = .attach new ∧ n.runningContext? = some context ∧
        context.controller = some c ∧ gone = [c]) := by
  cases t with
  | edit f =>
    refine ⟨[], ⟨(List.append_nil _).symm, ?_⟩, .inl rfl⟩
    rw [Navigator.held_eq, Navigator.held_eq]
    simp only [apply, Navigator.editContext, Activity.holds_edit _ plain]
    simp [Navigator.attached]
  | attach new =>
    rcases running : n.runningContext? with _ | context
    · refine ⟨[], ?_, .inl rfl⟩
      simp only [apply, Navigator.attach_of_none running, Navigator.attached, running]
      exact Navigator.books_of_same rfl rfl rfl
    · refine ⟨context.controller.toList, ?_, ?_⟩
      · simp only [Navigator.attached, running]
        exact Navigator.books_attach new (bare (running ▸ rfl)) running
      · rcases holds : context.controller with _ | c
        · exact .inl rfl
        · exact .inr ⟨new, context, c, rfl, rfl, holds, rfl⟩
  | takeController | returnController => exact plain.elim
  | deferScroll =>
    refine ⟨[], ?_, .inl rfl⟩
    simp only [apply, Navigator.deferScroll]
    split
    · exact Navigator.books_of_same rfl rfl (by simp [Navigator.report])
    · exact Navigator.books_of_same rfl rfl rfl
  | contentRendered =>
    refine ⟨[], ?_, .inl rfl⟩
    simp only [apply, Navigator.contentRendered]
    split
    · exact Navigator.books_of_same rfl rfl rfl
    · obtain ⟨outbox, told, h⟩ :=
        n.quietly_scrollNow fun p => "Restoring scroll to " ++ p.describe ++ " after render"
      rw [h]
      exact Navigator.books_of_same rfl rfl told
  | view viewport => exact ⟨[], Navigator.books_of_same rfl rfl rfl, .inl rfl⟩

/-! ### Why controllers are disposed -/

namespace Moment

variable [Named μ] [Named κ] [History η]

/-- Why a deed has disposed the controllers `gone`. -/
inductive Discharged (m : Moment μ κ η) : Deed κ → Moment μ κ η → (gone : List κ) → Prop
  /-- No controller was disposed. -/
  | nothing {d m'} : Discharged m d m' []
  /-- Another one was attached in its place. -/
  | replaced {new m' context c} (running : m.navigator.runningContext? = some context)
      (holds : context.controller = some c) : Discharged m (.act (.touch (.attach new))) m' [c]
  /-- The entry chain it was attached in has led elsewhere. -/
  | redirected {flight route context x rest target reason m' c}
      (doing : m.navigator.activity = .entering flight route context (x :: rest))
      (holds : context.controller = some c) :
      Discharged m (.act (.answer (.redirect target reason))) m' [c]
  /-- The last one of an exit chain has let its page be left. The history was what it is when the
  answer comes. -/
  | left {r flight flight' page leaving x c p}
      (doing : m.navigator.activity = .exiting flight page leaving [x])
      (holds : page.context.controller = some c)
      (parts : m.navigator.Parts m.navigator.history c p) :
      Discharged m (.act (.answer .proceed)) (reach r flight' p).1 [c]
  /-- Nobody was to be asked whether its page may be left. In the history the page has got its
  state, and that was all. -/
  | unasked {a r flight page c p} (turn : m.upcoming? a = some r)
      (shown : m.navigator.active = some page) (holds : page.context.controller = some c)
      (chain : m.navigator.table.exitChain page.route = [])
      (parts : m.navigator.Parts (m.navigator.leftHistory page.context) c p) :
      Discharged m (.act a) (reach r flight p).1 [c]

namespace Discharged

variable {m m' : Moment μ κ η} {gone : List κ}

omit [Named μ] [Named κ]

/-- A change of the address in place disposes nothing. -/
lemma of_inPlace {push : Bool} {url : String}
    (h : Discharged m (.act (.inPlace push url)) m' gone) : gone = [] := by
  cases h with
  | nothing => rfl
  | unasked turn => cases turn

/-- An exit chain that keeps its page disposes nothing. -/
lemma of_refusal {action : Action} (h : Discharged m (.act (.answer action)) m' gone)
    (phase : m.navigator.phase = .exiting) (refuses : action ≠ .proceed) : gone = [] := by
  cases h with
  | nothing => rfl
  | redirected doing =>
    rw [Navigator.phase, doing] at phase
    cases phase
  | left => exact absurd rfl refuses
  | unasked turn => cases turn

end Discharged

/-! ### Steps -/

omit [Named μ] [Named κ] [History η] in
lemma books_reach {n : Navigator μ κ η} {before new gone : List κ}
    {p : Navigator.Progress μ κ η} (h : n.Books before new gone p.1) (r : Request)
    (flight : Flight) : n.Books before new gone (reach r flight p).1.navigator := by
  rcases p with ⟨n', _ | outcome⟩
  · exact h
  · exact h.quietly (n'.quietly_reportServed flight outcome)

omit [Named μ] in
/-- The turn of a request. -/
lemma books_begun {n n' : Navigator μ κ η} {queue : List Request} {r : Request} {flight : Flight}
    {p : Navigator.Progress μ κ η} (idle : n.activity = .idle)
    (quiet : Navigator.Quietly { n with queue } n') (goes : n'.TakeOff flight p) :
    ∃ gone, n.Books n.held ((begun r flight p).2.flatMap n.made) gone
        (begun r flight p).1.navigator ∧ (gone = [] ∨ ∃ page c, n.active = some page ∧
          page.context.controller = some c ∧ gone = [c] ∧ n.table.exitChain page.route = [] ∧
          n.Parts (n.leftHistory page.context) c p) := by
  have here : n.held = n.shown := by simp [Navigator.held_eq, idle]
  have made : (begun r flight p).2.flatMap n.made = n.rendered p := by
    simp only [begun, List.flatMap_cons, List.flatMap_append, n.made_landed, n.made_reach]
    rfl
  obtain ⟨outbox, told, rfl⟩ := quiet
  obtain ⟨gone, books, why⟩ := goes.books
  have books' : n.Books n.shown (n.rendered p) gone p.1 :=
    ⟨books.disposed.trans (congrArg (· ++ gone) (disposedIn_congr told)), books.held⟩
  refine ⟨gone, ?_, why.imp_right ?_⟩
  · rw [here, made]
    exact books_reach books' r flight
  · rintro ⟨page, c, shown, holds, rfl, chain, n₁, flight', history, phase, gone, goes⟩
    exact ⟨page, c, shown, holds, rfl, chain, n₁, flight', history, phase,
      gone.trans (congrArg (· ++ [c]) (disposedIn_congr told)), goes⟩

omit [Named μ] [Named κ] [History η] in
/-- At a sound moment no page is shown, or no chain runs. -/
lemma Sound.bare_or_idle {m : Moment μ κ η} (sound : m.Sound) :
    m.navigator.active = none ∨ m.navigator.activity = .idle := by
  rcases m with ⟨n, _ | r | ⟨r, outcome, owed⟩⟩
  · exact .inr sound.1
  · exact .inl sound.1
  · exact .inr sound

omit [Named μ] [Named κ] [History η] in
/-- So there is one context at most. -/
lemma Sound.length_contexts {m : Moment μ κ η} (sound : m.Sound) :
    m.navigator.contexts.length ≤ 1 := by
  rcases sound.bare_or_idle with bare | idle
  · simp [Navigator.contexts, bare]
  · simp [Navigator.contexts, idle]

omit [Named μ] in
/-- What every act does to the books. -/
lemma Move.books {n : Navigator μ κ η} {stage : Stage} {a : Act κ}
    {result : Moment μ κ η × List (Event μ)} (move : Move n stage a result)
    (sound : Sound ⟨n, stage⟩) (plain : Deed.Plain (.act a)) :
    ∃ gone, n.Books n.held (n.attached a ++ result.2.flatMap n.made) gone result.1.navigator ∧
      Discharged ⟨n, stage⟩ (.act a) result.1 gone := by
  cases move with
  | still other =>
    refine ⟨[], ?_, .nothing⟩
    rw [Navigator.attached_of_touch? other]
    exact Navigator.books_of_same rfl rfl rfl
  | @called call url kind p target goes =>
    obtain ⟨gone, books, rfl | ⟨page, c, shown, holds, rfl, chain, parts⟩⟩ :=
      books_begun (r := { url, kind }) sound.1 ⟨n.outbox, rfl, rfl⟩ goes
    · exact ⟨[], books, .nothing⟩
    · have turn : upcoming? ⟨n, .resting⟩ (.call call) = some { url, kind } := by
        simp [upcoming?, target]
      exact ⟨[c], books, .unasked turn shown holds chain parts⟩
  | @queued r a url kind n' other quiet =>
    refine ⟨[], ?_, .nothing⟩
    rw [Navigator.attached_of_touch? other]
    have same : n.Books n.held [] [] { n with queue := n.queue ++ [{ url, kind }] } :=
      Navigator.books_of_same rfl rfl rfl
    exact same.quietly quiet
  | @readdressed push url =>
    refine ⟨[], ?_, .nothing⟩
    exact (Navigator.readdressing sound.1 push url).books
  | @exitAnswered r flight page leaving x rest action p doing goes =>
    obtain ⟨gone, books, why⟩ := goes.books doing sound.1
    refine ⟨gone, ?_, ?_⟩
    · rw [List.flatMap_append, n.made_answerEvents, n.made_reach]
      exact books_reach books r flight
    · obtain rfl | ⟨c, holds, rfl, rfl, rfl, parts⟩ := why
      · exact .nothing
      · exact .left doing holds parts
  | @entryAnswered r flight route context x rest action p doing goes =>
    obtain ⟨gone, books, why⟩ := goes.books doing sound.1 flight.request
    refine ⟨gone, ?_, ?_⟩
    · rw [List.flatMap_append, n.made_answerEvents, n.made_reach]
      exact books_reach books r flight
    · obtain rfl | ⟨target, reason, c, holds, rfl, rfl⟩ := why
      · exact .nothing
      · exact .redirected doing holds
  | @refusalShown r flight route context reason n' doing quiet =>
    have here : n.Books n.held [] [] (n.settled route context) := by
      refine ⟨(List.append_nil _).symm, ?_⟩
      rw [Navigator.held_eq, Navigator.held_eq, doing]
      have bare : n.active = none := sound.1
      simp [Navigator.settled, bare]
    have same := here.quietly quiet
    exact ⟨[], books_reach (p := (n', some (.blocked reason none))) same r flight, .nothing⟩
  | returned queue => exact ⟨[], Navigator.books_of_same rfl rfl rfl, .nothing⟩
  | @dequeued r outcome owed r' rest n' p queue quiet goes =>
    obtain ⟨gone, books, rfl | ⟨page, c, shown, holds, rfl, chain, parts⟩⟩ :=
      books_begun (r := r') sound quiet goes
    · exact ⟨[], books, .nothing⟩
    · have turn : upcoming? (κ := κ) ⟨n, .served r outcome owed⟩ .next = some r' := by
        simp [upcoming?, queue]
      exact ⟨[c], books, .unasked turn shown holds chain parts⟩
  | @touched _ t =>
    have bare (running : n.runningContext?.isSome) : n.active = none := by
      rcases sound.bare_or_idle with bare | idle
      · exact bare
      · replace idle : n.activity = .idle := idle
        simp [Navigator.runningContext?, idle] at running
    obtain ⟨gone, books, why⟩ := Touch.books plain bare
    refine ⟨gone, by simpa using books, ?_⟩
    obtain rfl | ⟨new, context, c, rfl, running, holds, rfl⟩ := why
    · exact .nothing
    · exact .replaced running holds

/-- Without the turn of a request no exit chain begins. -/
lemma Move.phase_ne_exiting {n : Navigator μ κ η} {stage : Stage} {a : Act κ}
    {result : Moment μ κ η × List (Event μ)} (move : Move n stage a result)
    (sound : Sound ⟨n, stage⟩) (turn : upcoming? ⟨n, stage⟩ a = none) (calm : n.phase ≠ .exiting) :
    result.1.navigator.phase ≠ .exiting := by
  cases move with
  | still other => exact calm
  | called target => simp [upcoming?, target] at turn
  | queued other quiet =>
    obtain ⟨_, _, rfl⟩ := quiet
    exact calm
  | @readdressed push url =>
    have idle : (n.inPlace push url).1.activity = .idle :=
      (Navigator.readdressing sound.1 push url).activity_eq.trans sound.1
    rw [Navigator.phase, idle]
    rintro ⟨⟩
  | exitAnswered doing => exact absurd (by rw [Navigator.phase, doing]; rfl) calm
  | entryAnswered doing goes =>
    exact ((Move.entryAnswered doing goes).past sound ⟨by rintro ⟨⟩, calm⟩ (by rintro ⟨⟩)).2
  | refusalShown doing quiet =>
    exact ((Move.refusalShown doing quiet).past sound ⟨by rintro ⟨⟩, calm⟩ (by rintro ⟨⟩)).2
  | returned => exact calm
  | dequeued queue => simp [upcoming?, queue] at turn
  | touched => exact fun exiting => calm (by rw [← (Touch.touched n _).phase_eq, exiting])

/-- An exit chain that begins with the turn of a request is that of the page that is shown. -/
lemma leaves_of_upcoming {m : Moment μ κ η} {a : Act κ} {r : Request}
    (turn : m.upcoming? a = some r) (exiting : (m.step a).1.navigator.phase = .exiting) :
    ∃ page, m.navigator.active = some page ∧
      Leaves m.navigator page r (m.navigator.backdrop page) (m.waiting a) (m.step a).1 := by
  obtain ⟨n', flight, p, accepted, request, quiet, goes, -, began⟩ := step_of_upcoming turn
  rw [began] at exiting ⊢
  rcases shown : m.navigator.active with _ | page
  · have bare : n'.active = none := by
      obtain ⟨_, -, rfl⟩ := quiet
      exact shown
    exact absurd exiting (past_reach (goes.phase_ne bare) r flight).2
  · obtain ⟨leaves, -⟩ | past := leaves_or_past_begun quiet shown goes request
    · exact ⟨page, rfl, leaves⟩
    · exact absurd exiting past.2

/-! ### Runs -/

lemma sound_perform {m : Moment μ κ η} (sound : m.Sound) (d : Deed κ) : (m.perform d).Sound := by
  cases d with
  | act a => exact sound_step sound a
  | borrow => rwa [perform_borrow]

/-- What every deed does to the books. -/
lemma books_perform {m : Moment μ κ η} (sound : m.Sound) {d : Deed κ} (plain : d.Plain) :
    ∃ gone, m.navigator.Books m.navigator.held (m.created d) gone (m.perform d).navigator ∧
      Discharged m d (m.perform d) gone := by
  cases d with
  | act a => exact (move sound a).books sound plain
  | borrow =>
    refine ⟨[], ?_, .nothing⟩
    rw [perform_borrow]
    exact Navigator.books_of_same rfl rfl rfl

lemma sound_performed {m : Moment μ κ η} (sound : m.Sound) (deeds : List (Deed κ)) :
    (m.performed deeds).Sound := by
  induction deeds generalizing m with
  | nil => exact sound
  | cons d deeds ih => exact ih (sound_perform sound d)

/-- The books of a run balance. -/
lemma books_performed {m : Moment μ κ η} (sound : m.Sound) {deeds : List (Deed κ)}
    (plain : ∀ d ∈ deeds, d.Plain) :
    ∃ gone, m.navigator.Books m.navigator.held (m.ledger deeds) gone
      (m.performed deeds).navigator := by
  induction deeds generalizing m with
  | nil => exact ⟨[], Navigator.books_of_same rfl rfl rfl⟩
  | cons d deeds ih =>
    obtain ⟨gone, first, -⟩ := books_perform sound (plain d (List.mem_cons_self ..))
    obtain ⟨gone', rest⟩ := ih (sound_perform sound d) fun d h => plain d (.tail _ h)
    exact ⟨gone ++ gone', first.trans rest⟩

/-- The exit chain of a page runs after some deeds: one of them was the turn of its request, and
since then nothing but the backdrop of the chain has changed. -/
def Departs (m : Moment μ κ η) (deeds : List (Deed κ)) : Prop :=
  ∃ early a later page r b queue, deeds = early ++ .act a :: later ∧
    (m.performed early).navigator.active = some page ∧
    (m.performed early).upcoming? a = some r ∧
    Leaves (m.performed early).navigator page r b queue (m.performed deeds)

lemma performed_concat (m : Moment μ κ η) (deeds : List (Deed κ)) (d : Deed κ) :
    m.performed (deeds ++ [d]) = (m.performed deeds).perform d := List.foldl_append

/-- One more deed changes nothing about that, as long as the chain runs. -/
lemma Departs.concat {m : Moment μ κ η} {deeds : List (Deed κ)} {d : Deed κ} (sound : m.Sound)
    (departs : m.Departs deeds)
    (exiting : (m.performed (deeds ++ [d])).navigator.phase = .exiting) :
    m.Departs (deeds ++ [d]) := by
  obtain ⟨early, a, later, page, r, b, queue, split, shown, turn, leaves⟩ := departs
  have goesOn : ∃ b' queue', Leaves (m.performed early).navigator page r b' queue'
      (m.performed (deeds ++ [d])) := by
    rw [performed_concat] at exiting ⊢
    cases d with
    | borrow =>
      rw [perform_borrow]
      exact ⟨b, queue, leaves⟩
    | act a' =>
      obtain ⟨leaves', -⟩ | past := leaves.move (move (sound_performed sound deeds) a')
      · exact ⟨_, _, leaves'⟩
      · exact absurd exiting past.2
  obtain ⟨b', queue', leaves'⟩ := goesOn
  exact ⟨early, a, later ++ [d], page, r, b', queue', by simp [split], shown, turn, leaves'⟩

/-- Whenever an exit chain runs it has begun in this way. -/
lemma departs_performed {m : Moment μ κ η} (sound : m.Sound) (calm : m.navigator.phase ≠ .exiting)
    {deeds : List (Deed κ)} (exiting : (m.performed deeds).navigator.phase = .exiting) :
    m.Departs deeds := by
  induction deeds using List.reverseRecOn with
  | nil => exact absurd exiting calm
  | append_singleton deeds d ih =>
    by_cases before : (m.performed deeds).navigator.phase = .exiting
    · exact (ih before).concat sound exiting
    · -- Only the turn of a request begins an exit chain.
      rw [performed_concat] at exiting
      cases d with
      | borrow =>
        rw [perform_borrow] at exiting
        exact absurd exiting before
      | act a =>
        have sound' := sound_performed sound deeds
        rcases turn : (m.performed deeds).upcoming? a with _ | r
        · exact absurd exiting ((move sound' a).phase_ne_exiting sound' turn before)
        · obtain ⟨page, shown, leaves⟩ := leaves_of_upcoming turn exiting
          rw [← perform, ← performed_concat] at leaves
          exact ⟨deeds, a, [], page, r, _, _, rfl, shown, turn, leaves⟩

/-- So the history is what it was then, but for the state of the entry of the page. -/
lemma Departs.history_eq {m : Moment μ κ η} {deeds : List (Deed κ)} (departs : m.Departs deeds) :
    ∃ early a later page r, deeds = early ++ .act a :: later ∧
      (m.performed early).navigator.active = some page ∧
      (m.performed early).upcoming? a = some r ∧ (m.performed deeds).stage = .serving r ∧
      (m.performed deeds).navigator.history =
        (m.performed early).navigator.leftHistory page.context := by
  obtain ⟨early, a, later, page, r, b, queue, split, shown, turn, serving, flight, leaving,
    middlewares, -, quiet⟩ := departs
  obtain ⟨_, -, h⟩ := quiet
  exact ⟨early, a, later, page, r, split, shown, turn, serving, congrArg Navigator.history h⟩

end Moment

/-- Every controller is disposed at most once and at the right moment. Let controllers come into
contexts by being attached or from the handlers only, and let nobody take them out. Then at every
moment of a run the controllers that have come into being are those that were disposed, in the same
order, and at most one more, which the context of the page that is shown or of the running chain
holds. Whatever a deed disposes was replaced by another controller, belonged to an entry chain that
has led elsewhere, or belonged to a page whose exit chain has let it be left, and then nothing was
put into the history and no route was entered before: while an exit chain runs the history is what
it was before the turn of the request, but for the state of the page. A change of the address in
place disposes nothing, and neither does an exit chain that refuses. -/
theorem controllers_disposed_once [Named μ] [Named κ] [History η] {s : Setup μ κ η}
    {n : Navigator μ κ η} (built : s.build = .ok n) {deeds : List (Deed κ)}
    (plain : ∀ d ∈ deeds, d.Plain) :
    let m := (Moment.start n).performed deeds
    let ledger := (Moment.start n).ledger deeds
    ledger = m.navigator.disposed ++ m.navigator.held ∧
    m.navigator.contexts.length ≤ 1 ∧ m.navigator.held.length ≤ 1 ∧
    (ledger.Nodup →
      m.navigator.disposed.Nodup ∧ ∀ c ∈ m.navigator.held, c ∉ m.navigator.disposed) ∧
    ∀ before d later, deeds = before ++ d :: later →
      let m₀ := (Moment.start n).performed before
      ∃ gone, (m₀.perform d).navigator.disposed = m₀.navigator.disposed ++ gone ∧
        m₀.Discharged d (m₀.perform d) gone ∧
        (m₀.navigator.phase = .exiting → ∃ early a rest page r, before = early ++ .act a :: rest ∧
          ((Moment.start n).performed early).navigator.active = some page ∧
          ((Moment.start n).performed early).upcoming? a = some r ∧ m₀.stage = .serving r ∧
          m₀.navigator.history =
            ((Moment.start n).performed early).navigator.leftHistory page.context) ∧
        ((∃ push url, d = .act (.inPlace push url)) → gone = []) ∧
        (m₀.navigator.phase = .exiting →
          (∃ action, action ≠ .proceed ∧ d = .act (.answer action)) → gone = []) := by
  intro m ledger
  have start := Moment.sound_start built
  have sound : m.Sound := Moment.sound_performed start deeds
  have balance : ledger = m.navigator.disposed ++ m.navigator.held := by
    obtain ⟨gone, books⟩ := Moment.books_performed start plain
    obtain rfl := Setup.eq_of_build built
    rw [books.disposed]
    exact books.held
  have single := sound.length_contexts
  refine ⟨balance, single, Nat.le_trans (List.length_filterMap_le ..) single, fun different => ?_,
    fun before d later split => ?_⟩
  · rw [balance] at different
    obtain ⟨once, -, apart⟩ := List.nodup_append.mp different
    exact ⟨once, fun c held gone => apart c gone c held rfl⟩
  · intro m₀
    have here : d.Plain := plain d (split ▸ by simp)
    obtain ⟨gone, books, why⟩ := Moment.books_perform (Moment.sound_performed start before) here
    refine ⟨gone, books.disposed, why, fun exiting => ?_, ?_, ?_⟩
    · have calm : (Moment.start n).navigator.phase ≠ .exiting := by
        rw [Navigator.phase, start.1]
        rintro ⟨⟩
      exact (Moment.departs_performed start calm exiting).history_eq
    · rintro ⟨push, url, rfl⟩
      exact why.of_inPlace
    · rintro phase ⟨action, refuses, rfl⟩
      exact why.of_refusal phase refuses

/-- A route leads elsewhere, its successor exchanges its controller, and the third one may not be
entered: the controller for the error is the only one that is left. -/
theorem controllers_disposed_once_refused :
    let s : Setup String String MemoryHistory :=
      { routes := [{ (Route.catchAll : Route String) with entry := ["guard"] }], history := {},
        handlers := { error := some fun e => e.message } }
    let deeds : List (Deed String) :=
      [.act (.call (.start "/a")), .act (.touch (.attach "list")),
        .act (.answer (.redirect "/b" none)), .act (.touch (.attach "form")),
        .act (.touch (.attach "table")), .act (.answer .proceed), .act .next, .borrow,
        .act (.call (.push "/c")), .act (.answer (.deny "no")), .act .shown, .act .next]
    ∃ n, s.build = .ok n ∧ (∀ d ∈ deeds, d.Plain) ∧
      let m := (Moment.start n).performed deeds
      let ledger := (Moment.start n).ledger deeds
      ledger = ["list", "form", "table", "Navigation refused: no"] ∧
      m.navigator.held = ["Navigation refused: no"] ∧
      ledger = m.navigator.disposed ++ m.navigator.held ∧ m.navigator.disposed.Nodup := by
  intro s deeds
  have built : s.build = .ok _ := rfl
  have plain : ∀ d ∈ deeds, d.Plain := by simp [deeds, Deed.Plain]
  have books := controllers_disposed_once built plain
  exact ⟨_, built, plain, by decide, by decide, books.1, (books.2.2.2.1 (by decide)).1⟩

/-- A controller is lost when the call is given up whose chain it is with, and when a middleware
takes it out of its context: it was not disposed, and no context holds it. And when it is disposed
because its page is left, the history is no longer what it was: since the turn of the request began
the entry of the page has had a state. -/
theorem controllers_lost_or_late :
    let s : Setup String String MemoryHistory :=
      { routes := [{ (Route.catchAll : Route String) with entry := ["gate"], exit := ["ask"] }]
        history := {} }
    let deeds : List (Deed String) :=
      [.act (.call (.start "/a")), .act (.touch (.attach "list"))]
    let empty : Deed String := .act (.touch (.edit fun c => c.detach.1))
    let proceed : Deed String := .act (.answer .proceed)
    ∃ n, s.build = .ok n ∧
      let m := (Moment.start n).performed deeds
      let entered := m.performed [proceed, .act .next]
      let asked := entered.perform (.act (.call (.push "/b")))
      (Moment.start n).ledger deeds = ["list"] ∧ m.navigator.held = ["list"] ∧
      (Moment.start n).ledger deeds ≠ m.navigator.abandon.disposed ++ m.navigator.abandon.held ∧
      (Moment.start n).ledger (deeds ++ [empty]) ≠
        (m.perform empty).navigator.disposed ++ (m.perform empty).navigator.held ∧
      asked.navigator.history.entries ≠ entered.navigator.history.entries ∧
      asked.navigator.disposed = [] ∧ (asked.perform proceed).navigator.disposed = ["list"] := by
  intro s deeds empty proceed
  exact ⟨_, rfl, by decide, by decide, by decide, by decide, by decide, by decide, by decide⟩

end Wayfinder
