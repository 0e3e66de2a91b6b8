/-
Runs of a navigator, moment by moment.

A call of a navigator may serve several requests: its own one and those that have come to wait in
the meantime. To speak about a single request, a run is cut into smaller steps here. A `Moment` is a
navigator with the `Stage` of the call that runs it, an `Act` is anything that can happen at a
moment, and `Moment.step` puts the two together out of the functions of the navigator. Every step
also says what has happened, as a list of `Event`s; `journal` collects them over a run.

* `Moment.after`, `journal`: a run, as its last moment and as its events.
* `Moment.step`: what one act leads to.

What a call of the navigator does in one go is one act, followed by as many `Act.next` as it serves
requests that were waiting (`amounts_request`, `amounts_answer`, `amounts_resume`).

Between two requests of one call nothing else can happen, since nothing is waited for there. No act
gives a running call up. The outbox is never emptied here: it is written and never read, so at the
end of a run it holds all that was told since its beginning.
-/
import Wayfinder.Navigator.InPlace
import Wayfinder.Proofs.Pipeline

namespace Wayfinder

/-! ### Acts and events -/

/-- What may be done to a navigator at any moment that is no request and no answer. -/
inductive Touch (κ : Type) where
  /-- A middleware changes the context it runs on. -/
  | edit (f : Context κ → Context κ)
  /-- A middleware attaches a controller to the context it runs on. -/
  | attach (controller : κ)
  /-- The controller of the active page is borrowed. -/
  | takeController
  /-- A borrowed controller is given back. -/
  | returnController (controller : κ)
  /-- The page being entered wants to render before the navigator scrolls. -/
  | deferScroll
  /-- A page has rendered. -/
  | contentRendered
  /-- The surface that pages are shown on changes. -/
  | view (viewport : Viewport)

/-- What can happen at a moment. -/
inductive Act (κ : Type) where
  /-- The navigator is called. -/
  | call (c : Call)
  /-- The page that is shown is to change its address. -/
  | inPlace (push : Bool) (url : String)
  /-- The running middleware answers. -/
  | answer (action : Action)
  /-- A controller has shown why entry was refused. -/
  | shown
  /-- The running call goes on to the next request that waits, or returns. -/
  | next
  /-- Anything else. -/
  | touch (t : Touch κ)

/-- The touch that an act is. -/
@[simp] def Act.touch? {κ : Type} : Act κ → Option (Touch κ)
  | touch t => some t
  | _ => none

/-- The side of a navigation that a chain belongs to. -/
inductive Side where
  /-- A page is left. -/
  | exit
  /-- A route is entered. -/
  | entry
  deriving DecidableEq

/-- What has happened. -/
inductive Event (μ : Type) where
  /-- A request was accepted. -/
  | accepted (r : Request)
  /-- It is the turn of a request. -/
  | began (r : Request)
  /-- A middleware answered; `hop` is the request it ran for, after the redirects so far. -/
  | answered (side : Side) (hop : Request) (middleware : μ) (action : Action)
  /-- A URL was put into the history. -/
  | committed (url : String)
  /-- An exit chain has put a request in front of those that wait. -/
  | diverted (r : Request)
  /-- A request has ended. -/
  | ended (r : Request) (outcome : Outcome)
  /-- A call has returned. -/
  | returned (outcome : Outcome)
  /-- A page was asked to change its address, at once. -/
  | readdressed (outcome : Outcome)
  deriving DecidableEq

/-- What the events of a journal say, in order. -/
def gather {μ α : Type} (says? : Event μ → Option α) (journal : List (Event μ)) : List α :=
  journal.filterMap says?

section

variable {μ α : Type} (says? : Event μ → Option α)

@[simp] lemma gather_nil : gather says? [] = [] := rfl

@[simp] lemma gather_cons (e : Event μ) (journal : List (Event μ)) :
    gather says? (e :: journal) = (says? e).toList ++ gather says? journal := by
  rw [gather, List.filterMap_cons]
  cases says? e <;> rfl

@[simp] lemma gather_append (journal events : List (Event μ)) :
    gather says? (journal ++ events) = gather says? journal ++ gather says? events := by
  simp [gather]

end

/-- How far a call has come. -/
inductive Stage where
  /-- No call runs. -/
  | resting
  /-- A request is served, and something is waited for. -/
  | serving (request : Request)
  /-- A request has ended. `owed` is the outcome for the caller of the call. -/
  | served (request : Request) (outcome owed : Outcome)
  deriving DecidableEq

/-- The request that is being served. -/
@[simp] def Stage.request? : Stage → Option Request
  | serving r => some r
  | _ => none

/-- A navigator with the stage of the call that runs it. -/
structure Moment (μ κ η : Type) where
  /-- The navigator. -/
  navigator : Navigator μ κ η
  /-- The stage. -/
  stage : Stage

namespace Navigator

variable {μ κ η : Type}

/-- Whom the running middleware answers: the side and the request. -/
def asked? (n : Navigator μ κ η) : Option (Side × Request × μ) :=
  match n.activity with
  | .exiting flight _ _ (m :: _) => some (.exit, flight.request, m)
  | .entering flight _ _ (m :: _) => some (.entry, flight.request, m)
  | _ => none

/-- The URL that was put into the history on the way to some progress, if it was begun before the
target was matched. -/
def landed : Progress μ κ η → List (Event μ)
  | (n, none) =>
    match n.activity with
    | .entering flight .. => [.committed flight.request.url]
    | _ => []
  | (_, some (.success url)) | (_, some (.notFound url)) => [.committed url]
  | _ => []

/-- No more than one URL is put into the history on the way. -/
lemma landed_cases (p : Progress μ κ η) : landed p = [] ∨ ∃ url, landed p = [.committed url] := by
  unfold landed
  split
  · split
    · exact .inr ⟨_, rfl⟩
    · exact .inl rfl
  · exact .inr ⟨_, rfl⟩
  · exact .inr ⟨_, rfl⟩
  · exact .inl rfl

/-- So what such a URL does not say is not said on the way. -/
lemma gather_landed {α : Type} {says? : Event μ → Option α}
    (silent : ∀ url, says? (.committed url) = none) (p : Progress μ κ η) :
    gather says? (landed p) = [] := by
  obtain h | ⟨url, h⟩ := landed_cases p
  · rw [h]
    rfl
  · rw [h, gather_cons, silent]
    rfl

end Navigator

/-- What a touch does. -/
def Touch.apply {μ κ η : Type} (n : Navigator μ κ η) : Touch κ → Navigator μ κ η
  | edit f => n.editContext f
  | attach c => n.attach c
  | takeController => (n.takeController.map (·.2)).getD n
  | returnController c => n.returnController c
  | deferScroll => n.deferScroll
  | contentRendered => n.contentRendered
  | view viewport => { n with viewport }

/-- What has happened when a middleware has answered. -/
def answerEvents {μ κ η : Type} (side : Side) (hop : Request) (middleware : μ) (action : Action)
    (p : Navigator.Progress μ κ η) : List (Event μ) :=
  .answered side hop middleware action ::
    match side, action with
    | .exit, .redirect target _ => [.diverted (hop.redirected target .push)]
    | .exit, .proceed | .entry, .redirect _ _ => Navigator.landed p
    | _, _ => []

namespace Moment

variable {μ κ η : Type}

/-- The moment that the progress of a request leads to. -/
def reach (r : Request) (flight : Flight) :
    Navigator.Progress μ κ η → Moment μ κ η × List (Event μ)
  | (n, none) => (⟨n, .serving r⟩, [])
  | (n, some outcome) =>
    (⟨n.reportServed flight outcome, .served r outcome (flight.owed.getD outcome)⟩,
      [.ended r outcome])

variable [Named μ] [Named κ] [History η]

/-- The turn of a request. -/
def takeUp (n : Navigator μ κ η) (flight : Flight) : Moment μ κ η × List (Event μ) :=
  let p := n.takeOff flight
  let (m, ended) := reach flight.request flight p
  (m, .began flight.request :: (Navigator.landed p ++ ended))

/-- The navigator is called. A traversal without an entry to go to does nothing. -/
def call (m : Moment μ κ η) (c : Call) : Moment μ κ η × List (Event μ) :=
  match m.navigator.target? c with
  | none => (m, [])
  | some (kind, url) =>
    let r : Request := { url, kind }
    match m.stage with
    | .resting =>
      let (m, events) := takeUp m.navigator { request := r }
      (m, .accepted r :: events)
    | .serving _ => ({ m with navigator := (m.navigator.request kind url).1 }, [.accepted r])
    | .served .. => (m, [])

/-- The page that is shown is to change its address. -/
def inPlace (m : Moment μ κ η) (push : Bool) (url : String) : Moment μ κ η × List (Event μ) :=
  let (n, outcome) := m.navigator.inPlace push url
  match m.stage with
  | .resting => ({ m with navigator := n }, [.readdressed outcome])
  | .serving _ =>
    ({ m with navigator := n }, [.accepted { url, kind := if push then .push else .replace }])
  | .served .. => (m, [])

/-- The running middleware answers. -/
def answer (m : Moment μ κ η) (action : Action) : Moment μ κ η × List (Event μ) :=
  match m.stage, m.navigator.asked?, m.navigator.react action with
  | .serving r, some (side, hop, middleware), some (flight, p) =>
    let (m, ended) := reach r flight p
    (m, answerEvents side hop middleware action p ++ ended)
  | _, _, _ => (m, [])

/-- A controller has shown why entry was refused. -/
def shown (m : Moment μ κ η) : Moment μ κ η × List (Event μ) :=
  match m.stage, m.navigator.resumeRefused with
  | .serving r, some (flight, p) => reach r flight p
  | _, _ => (m, [])

/-- The running call goes on. -/
def next (m : Moment μ κ η) : Moment μ κ η × List (Event μ) :=
  match m.stage, m.navigator.queue with
  | .served _ _ owed, [] => ({ m with stage := .resting }, [.returned owed])
  | .served _ _ owed, r :: rest =>
    takeUp (m.navigator.dequeue r rest) { request := r, owed := some owed }
  | _, _ => (m, [])

/-- What an act leads to. -/
def step (m : Moment μ κ η) : Act κ → Moment μ κ η × List (Event μ)
  | .call c => m.call c
  | .inPlace push url => m.inPlace push url
  | .answer action => m.answer action
  | .shown => m.shown
  | .next => m.next
  | .touch t => ({ m with navigator := t.apply m.navigator }, [])

/-- The request whose turn an act begins. -/
def upcoming? (m : Moment μ κ η) : Act κ → Option Request
  | .call c =>
    match m.stage with
    | .resting => (m.navigator.target? c).map fun (kind, url) => { url, kind }
    | _ => none
  | .next =>
    match m.stage with
    | .served .. => m.navigator.queue.head?
    | _ => none
  | _ => none

/-- The requests that go on waiting when an act begins the turn of another one. -/
def waiting (m : Moment μ κ η) : Act κ → List Request
  | .next => m.navigator.queue.tail
  | _ => m.navigator.queue

/-- The moment after some acts. -/
def after (m : Moment μ κ η) (acts : List (Act κ)) : Moment μ κ η :=
  acts.foldl (fun m a => (m.step a).1) m

/-- The events of some acts. -/
def journal (m : Moment μ κ η) : List (Act κ) → List (Event μ)
  | [] => []
  | a :: acts => (m.step a).2 ++ journal (m.step a).1 acts

@[simp] lemma after_nil (m : Moment μ κ η) : m.after [] = m := rfl

@[simp] lemma after_cons (m : Moment μ κ η) (a : Act κ) (acts : List (Act κ)) :
    m.after (a :: acts) = (m.step a).1.after acts := rfl

@[simp] lemma journal_nil (m : Moment μ κ η) : m.journal ([] : List (Act κ)) = [] := rfl

@[simp] lemma journal_cons (m : Moment μ κ η) (a : Act κ) (acts : List (Act κ)) :
    m.journal (a :: acts) = (m.step a).2 ++ (m.step a).1.journal acts := rfl

lemma after_append (m : Moment μ κ η) (acts acts' : List (Act κ)) :
    m.after (acts ++ acts') = (m.after acts).after acts' :=
  List.foldl_append ..

lemma journal_append (m : Moment μ κ η) (acts acts' : List (Act κ)) :
    m.journal (acts ++ acts') = m.journal acts ++ (m.after acts).journal acts' := by
  induction acts generalizing m with
  | nil => rfl
  | cons a acts ih => simp [ih]

/-- A moment at which no call has been made yet. -/
def start (n : Navigator μ κ η) : Moment μ κ η := ⟨n, .resting⟩

end Moment

end Wayfinder
