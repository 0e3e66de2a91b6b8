/-
Tasks at work.

How navigations and loads run in a workspace. A navigation runs until one of its middlewares waits;
then its task waits too. Running takes fuel, one unit for each middleware and each turn of a task: an
application whose middlewares ask for navigations without end would run for ever.

* `advance`: run the navigation in progress.
* `poll`: one turn of a task.
* `runTasks`: turns until no task can go on.
* `callNow`: a call that is given up where it would have to wait.
-/
import Wayfinder.Workspace.Pages

namespace Wayfinder.Workspace

variable {A : Application} (r : Reactions A)

/-- The navigator of a workspace has taken a step; do what it wants done. -/
def stepped (w : Workspace A)
    (p : Navigator.Progress A.Middleware (Controller A.Feature) A.Past) :
    Workspace A × Option Outcome :=
  ({ w with navigator := p.1 }.flush r.toBehaviour, p.2)

/-- Run the navigation in progress until a middleware waits or its call is done. -/
def advance : (fuel : Nat) → Workspace A → Workspace A × Option Outcome
  | 0, w => (w, none)
  | fuel + 1, w =>
    let goOn : Workspace A × Option Outcome → Workspace A × Option Outcome
      | (w, some outcome) => (w, some outcome)
      | (w, none) => advance fuel w
    match w.navigator.activity, w.navigator.runningMiddleware? with
    | .refused .., _ => goOn (w.stepped r w.navigator.resume)
    | _, some m =>
      match r.run m w with
      | (w, none) => (w, none)
      | (w, some action) => goOn (w.stepped r (w.navigator.answer action))
    | _, none => (w, none)

/-- Go on with the navigation in progress, whose middleware has waited. -/
def resume (fuel : Nat) (w : Workspace A) : Workspace A × Option Outcome :=
  match w.navigator.runningMiddleware? with
  | none => (w, none)
  | some m =>
    match r.resume m w with
    | (w, none) => (w, none)
    | (w, some action) =>
      match w.stepped r (w.navigator.answer action) with
      | (w, some outcome) => (w, some outcome)
      | (w, none) => w.advance r fuel

/-- Ask the navigator for a navigation and run it. -/
def navigate (fuel : Nat) (w : Workspace A) (kind : Kind) (url : String) :
    Workspace A × Option Outcome :=
  match w.stepped r (w.navigator.request kind url) with
  | (w, some outcome) => (w, some outcome)
  | (w, none) => w.advance r fuel

/-- Do what a task does with the outcome of its navigation. -/
def conclude (w : Workspace A) (outcome : Outcome) : Sequel → Workspace A
  | .report number => { w with finished := w.finished ++ [(number, some outcome)] }
  | .ignore => w
  | .reload index page =>
    if outcome.isSuccess || outcome.isQueued then w
    else
      let shown := outcome.describe
      let w := w.report [.debug s!"Redirect to the last page did not go through: {shown}"]
      if w.listAlive index then w.load r.toBehaviour index page else w

/-- The task has run a navigation: it ends with the outcome, or it waits. -/
def settle (task : Nat) (sequel : Sequel) : Workspace A × Option Outcome → Workspace A
  | (w, none) => w
  | (w, some outcome) =>
    let w := w.conclude r outcome sequel
    { w with pool := w.pool.remove task }

/-- Run a navigation in a task. -/
def navigateIn (fuel task : Nat) (w : Workspace A) (kind : Kind) (url : String) (sequel : Sequel) :
    Workspace A :=
  let w := { w with pool := w.pool.set task (.navigate sequel) }
  settle r task sequel (w.navigate r fuel kind url)

/-- One turn of a task. -/
def poll (fuel : Nat) (w : Workspace A) (task : Nat) : Workspace A :=
  let ended (w : Workspace A) : Workspace A := { w with pool := w.pool.remove task }
  match w.pool.tasks.lookup task with
  | none => w
  | some (.call number call) =>
    match w.navigator.target? call with
    | some (kind, url) => w.navigateIn r fuel task kind url (.report number)
    | none => ended { w with finished := w.finished ++ [(number, none)] }
  | some (.push url) => w.navigateIn r fuel task .push url .ignore
  | some (.navigate sequel) => settle r task sequel (w.resume r fuel)
  | some (.load index sequence page fetch) =>
    match w.answers.lookup fetch with
    | none => w
    | some answer =>
      let w := { w with answers := w.answers.filter (·.1 ≠ fetch) }
      if w.listAlive index then
        match w.complete r.toBehaviour r.render index sequence page answer with
        | (w, none) => ended w
        | (w, some (url, last)) =>
          if w.navigatorAlive then
            w.navigateIn r fuel task .replace url (.reload index last)
          else ended w
      else ended w

/-- Give every task that can go on its turn, until none can. -/
def runTasks : (fuel : Nat) → Workspace A → Workspace A
  | 0, w => w
  | fuel + 1, w =>
    match w.pool.next? with
    | none => w
    | some (task, pool) =>
      let w := { w with pool, current := some task }
      runTasks fuel { w.poll r fuel task with current := none }

/-- Make a call outside of all tasks. Where it would have to wait it is given up. A traversal without
an entry to go to has no result. -/
def callNow (fuel : Nat) (w : Workspace A) (call : Call) : Workspace A × Option Outcome :=
  match w.navigator.target? call with
  | none => (w, none)
  | some (kind, url) =>
    match w.navigate r fuel kind url with
    | (w, some outcome) => (w, some outcome)
    | (w, none) => ({ w with navigator := w.navigator.abandon }, none)

/-- Give all tasks up. A navigation that one of them runs is abandoned. -/
def closePool (w : Workspace A) : Workspace A :=
  let runs := w.pool.tasks.any fun e => match e.2 with
    | .navigate _ => true
    | _ => false
  let navigator := if runs then w.navigator.abandon else w.navigator
  { w with navigator, pool := w.pool.close }

/-- Deliver the answer to a request, and let the task that waits for it go on. -/
def deliver (w : Workspace A) (fetch : Nat) (answer : Except FetchError PageResult) :
    Workspace A :=
  let waiting := w.pool.tasks.find? fun e => match e.2 with
    | .load _ _ _ f => f == fetch
    | _ => false
  match waiting with
  | none => w
  | some (task, _) =>
    { w with answers := w.answers ++ [(fetch, answer)], pool := w.pool.wake task }

/-! ### Chains without a navigator -/

/-- Run a chain on the context of the workspace. The result is the first answer that ends the chain;
there is none if a middleware waits. -/
def runChain (w : Workspace A) (stage : String) : List A.Middleware →
    Workspace A × Option Action
  | [] => (w, some .proceed)
  | m :: rest =>
    let name := Named.name m
    let url := (w.context?.map (·.url)).getD ""
    let w := w.report [.trace s!"Running {stage} middleware '{name}' for '{url}'"]
    match r.run m w with
    | (w, none) => (w, none)
    | (w, some .proceed) => w.runChain stage rest
    | (w, some action) =>
      let shown := action.describe
      (w.report [.trace s!"{stage} middleware '{name}' stopped the chain: {shown}"], some action)

end Wayfinder.Workspace
