/-
Boards.

A board is a subject whose listeners are described by data: a listener keeps a record of the events it
is told, and on the first one it carries out a script, whose steps may subscribe, emit and cancel in
their turn. Subscriptions are held under names; a new one replaces the one that was held before.

* `Board.run`: carry steps out.
* `BoardStep.total`: how many steps a script has with all scripts in it. A script is carried out once,
  so that many steps are all that can follow from it.
-/
import Wayfinder.Subject

namespace Wayfinder.Session

/-- A step on a board. -/
inductive BoardStep where
  /-- Subscribe a listener and hold the subscription under a name. -/
  | subscribe (id : String) (script : List BoardStep)
  /-- Emit an event. -/
  | emit (event : String)
  /-- End the subscription that is held under a name. -/
  | drop (id : String)
  /-- Hold a subscription no longer without ending it. -/
  | forget (id : String)
  /-- End the subject. -/
  | dropSubject
  /-- Read descriptions. -/
  | describe (id : String)
  /-- Nothing that is known. -/
  | unknown
  deriving Inhabited

mutual

/-- The number of steps in a step, itself included. -/
def BoardStep.total : BoardStep → Nat
  | .subscribe _ script => 1 + BoardStep.totalAll script
  | _ => 1

/-- The number of steps in a script. -/
def BoardStep.totalAll : List BoardStep → Nat
  | [] => 0
  | s :: rest => s.total + BoardStep.totalAll rest

end

/-- The result of a step on a board. -/
inductive BoardResult where
  /-- Nothing to tell. -/
  | nothing
  /-- A listener was added; the value says whether one was held under its name before. -/
  | replaced (value : Bool)
  /-- Whether a subscription was held. -/
  | truth (value : Bool)
  /-- The texts of the subject and of a subscription, while they are there. -/
  | descriptions (subject subscription : Option String)
  /-- The step is not known. -/
  | unknown
  deriving DecidableEq, Repr

/-- A subject with scripted listeners. -/
structure Board where
  /-- The subject, until it is dropped. The listeners are known by numbers. -/
  subject : Option (Subject Nat) := some {}
  /-- The names and the scripts of the listeners; a script that was carried out is empty. -/
  listeners : List (String × List BoardStep) := []
  /-- The subscriptions that are held. -/
  held : List (String × Subscription) := []
  /-- The events with the names of those who were told, in order. -/
  seen : List (String × String) := []

namespace Board

/-- Whether a subscription is held under a name. -/
def holds (b : Board) (id : String) : Bool := (b.held.lookup id).isSome

/-- End a subscription; without the subject it has ended already. -/
def cancel (b : Board) (s : Option Subscription) : Board :=
  match s with
  | some s => { b with subject := b.subject.map (·.cancel s) }
  | none => b

/-- Hold nothing under a name. -/
def release (b : Board) (id : String) : Board :=
  { b with held := b.held.filter (·.1 ≠ id) }

/-- Subscribe a listener. The subscription that was held under its name ends afterwards. -/
def subscribe (b : Board) (id : String) (script : List BoardStep) : Board × BoardResult :=
  match b.subject with
  | none => (b, .nothing)
  | some subject =>
    let (subject, subscription) := subject.subscribe b.listeners.length
    let old := b.held.lookup id
    let b := { b.release id with
      subject := some subject, listeners := b.listeners ++ [(id, script)] }
    (({ b with held := b.held ++ [(id, subscription)] }).cancel old, .replaced old.isSome)

/-- Tell a listener an event. On its first one it carries its script out. -/
def tell (runScript : List BoardStep → Board → Board) (event : String) (b : Board)
    (listener : Nat) : Board :=
  match b.listeners[listener]? with
  | none => b
  | some (id, script) =>
    runScript script
      { b with
        seen := b.seen ++ [(id, event)]
        listeners := b.listeners.set listener (id, []) }

/-- Carry a step out. -/
def perform (runScript : List BoardStep → Board → Board) (b : Board) :
    BoardStep → Board × BoardResult
  | .subscribe id script => b.subscribe id script
  | .emit event =>
    match b.subject with
    | none => (b, .nothing)
    | some subject => (subject.audience.foldl (tell runScript event) b, .nothing)
  | .drop id => ((b.release id).cancel (b.held.lookup id), .truth (b.holds id))
  | .forget id => (b.release id, .truth (b.holds id))
  | .dropSubject => ({ b with subject := none }, .nothing)
  | .describe id =>
    (b, .descriptions (b.subject.map (·.describe)) ((b.held.lookup id).map (·.describe)))
  | .unknown => (b, .unknown)

/-- Carry a script out within a step. -/
def runScript : (fuel : Nat) → List BoardStep → Board → Board
  | 0, _, b => b
  | _, [], b => b
  | fuel + 1, s :: rest, b => runScript fuel rest (b.perform (runScript fuel) s).1

/-- What can be seen of a board after a step. -/
structure Sight where
  /-- The result of the step. -/
  result : BoardResult
  /-- The events since the step before, with the names of those who were told. -/
  seen : List (String × String)
  /-- The number of listeners, until the subject is dropped. -/
  listeners : Option Nat
  deriving DecidableEq, Repr

/-- Carry steps out; `fuel` is at least the number of all steps. -/
def runWith (fuel : Nat) (b : Board) : List BoardStep → List Sight
  | [] => []
  | s :: rest =>
    let (b, result) := b.perform (runScript fuel) s
    { result, seen := b.seen, listeners := b.subject.map (·.size) } ::
      runWith fuel { b with seen := [] } rest

/-- Carry steps out on a board without listeners. -/
def run (steps : List BoardStep) : List Sight := runWith (BoardStep.totalAll steps) {} steps

end Board

end Wayfinder.Session
