/-
Who is told an event.

Steps on a board are a program on a subject, written out here: when a listener is told an event, the
operations of its script come next. So what holds of every program holds of boards. Scripts are carried
out with fuel; that of a run is enough for every script in it.

* `Session.Board.runWith_eq_run`: more fuel makes no difference to a run.
* `Session.Board.operations`: steps on a board, as a program.
* `emissions_reach_standing`: every emission reaches those who are subscribed when it starts.
-/
import Mathlib.Data.List.Forall2
import Mathlib.Data.List.Nodup
import Mathlib.Tactic.Lemma
import Wayfinder.Proofs.Broadcast
import Wayfinder.Session.Board

namespace Wayfinder

namespace Session

/-! ### What is left to do -/

lemma BoardStep.total_pos (s : BoardStep) : 0 < s.total := by
  cases s <;> simp only [total] <;> omega

lemma BoardStep.totalAll_append (script script' : List BoardStep) :
    totalAll (script ++ script') = totalAll script + totalAll script' := by
  induction script with
  | nil => rw [List.nil_append, totalAll, Nat.zero_add]
  | cons s rest ih => rw [List.cons_append, totalAll, totalAll, ih, Nat.add_assoc]

namespace Board

/-- The number of steps in the scripts that have not been carried out. -/
def pending (b : Board) : Nat := BoardStep.totalAll (b.listeners.flatMap (·.2))

/-- A listener that is told an event has no script any more. -/
lemma pending_told {b : Board} {i : Nat} {id : String} {script : List BoardStep}
    (here : b.listeners[i]? = some (id, script)) (seen : List (String × String)) :
    pending { b with seen, listeners := b.listeners.set i (id, []) } + BoardStep.totalAll script =
      b.pending := by
  obtain ⟨inside, there⟩ := List.getElem?_eq_some_iff.mp here
  have split : b.listeners.take i ++ (id, script) :: b.listeners.drop (i + 1) = b.listeners := by
    rw [← there, ← List.drop_eq_getElem_cons inside, List.take_append_drop]
  rw [pending, pending, List.set_eq_take_append_cons_drop, if_pos inside]
  conv_rhs => rw [← split]
  simp only [List.flatMap_append, List.flatMap_cons, BoardStep.totalAll_append, BoardStep.totalAll]
  omega

section

variable {run : List BoardStep → Board → Board}
  (spare : ∀ script b, (run script b).pending ≤ b.pending + BoardStep.totalAll script)
include spare

/-- Telling a listener leaves no more to do. -/
lemma pending_tell (event : String) (b : Board) (i : Nat) :
    (tell run event b i).pending ≤ b.pending := by
  unfold tell
  rcases here : b.listeners[i]? with _ | ⟨id, script⟩
  · exact Nat.le_refl _
  · rw [← pending_told here (b.seen ++ [(id, event)])]
    exact spare _ _

lemma pending_foldl_tell (event : String) (b : Board) (left : List Nat) :
    (left.foldl (tell run event) b).pending ≤ b.pending := by
  induction left generalizing b with
  | nil => exact Nat.le_refl _
  | cons i left ih => exact Nat.le_trans (ih _) (pending_tell spare event b i)

/-- Carrying a step out leaves one step less. -/
lemma pending_perform (b : Board) (s : BoardStep) :
    (b.perform run s).1.pending + 1 ≤ b.pending + s.total := by
  cases s with
  | subscribe id script =>
    simp only [perform, subscribe, BoardStep.total]
    rcases b.subject with _ | s
    · simp only
      omega
    · have more : BoardStep.totalAll ((b.listeners ++ [(id, script)]).flatMap (·.2)) =
          b.pending + BoardStep.totalAll script := by
        rw [List.flatMap_append, BoardStep.totalAll_append, List.flatMap_singleton, pending]
      rcases b.held.lookup id with _ | old <;>
        simp only [cancel, release, pending, more] <;> omega
  | emit event =>
    simp only [perform, BoardStep.total]
    rcases b.subject with _ | s
    · exact Nat.le_refl _
    · exact Nat.succ_le_succ (pending_foldl_tell spare event b s.audience)
  | drop id =>
    simp only [perform, BoardStep.total]
    rcases b.held.lookup id with _ | old <;> exact Nat.le_refl _
  | _ => exact Nat.le_refl _

end

/-- What a script leaves to do was in it or to be done before. -/
lemma pending_runScript (fuel : Nat) (script : List BoardStep) (b : Board) :
    (runScript fuel script b).pending ≤ b.pending + BoardStep.totalAll script := by
  induction fuel generalizing script b with
  | zero =>
    rw [runScript]
    exact Nat.le_add_right _ _
  | succ fuel ih =>
    rcases script with _ | ⟨s, rest⟩
    · exact Nat.le_add_right _ _
    · have step := pending_perform (fun script b => ih script b) b s
      have onward := ih rest (b.perform (runScript fuel) s).1
      rw [runScript, BoardStep.totalAll]
      omega

section

variable {run run' : List BoardStep → Board → Board} {fuel : Nat}
  (spare : ∀ script b, (run script b).pending ≤ b.pending + BoardStep.totalAll script)
  (same : ∀ script b, b.pending + BoardStep.totalAll script ≤ fuel → run script b = run' script b)
include spare same

/-- Scripts that are carried out alike are carried out alike by listeners. -/
lemma foldl_tell_congr (event : String) {b : Board} (enough : b.pending ≤ fuel) (left : List Nat) :
    left.foldl (tell run event) b = left.foldl (tell run' event) b := by
  induction left generalizing b with
  | nil => rfl
  | cons i left ih =>
    have first : tell run event b i = tell run' event b i := by
      unfold tell
      rcases here : b.listeners[i]? with _ | ⟨id, script⟩
      · rfl
      · exact same _ _ (by rwa [pending_told here])
    rw [List.foldl_cons, List.foldl_cons, ← first]
    exact ih (Nat.le_trans (pending_tell spare event b i) enough)

lemma perform_congr {b : Board} (enough : b.pending ≤ fuel) (s : BoardStep) :
    b.perform run s = b.perform run' s := by
  cases s with
  | emit event =>
    simp only [perform]
    rcases b.subject with _ | s
    · rfl
    · simp only [foldl_tell_congr spare same event enough]
  | _ => rfl

end

/-- With fuel for all that is to be done, more fuel makes no difference. -/
lemma runScript_add_one {fuel : Nat} {script : List BoardStep} {b : Board}
    (enough : b.pending + BoardStep.totalAll script ≤ fuel) :
    runScript fuel script b = runScript (fuel + 1) script b := by
  induction fuel generalizing script b with
  | zero =>
    rcases script with _ | ⟨s, rest⟩
    · rfl
    · have := s.total_pos
      rw [BoardStep.totalAll] at enough
      omega
  | succ fuel ih =>
    rcases script with _ | ⟨s, rest⟩
    · rfl
    · have one := s.total_pos
      have step := pending_perform (pending_runScript fuel) b s
      rw [BoardStep.totalAll] at enough
      rw [runScript, runScript,
        ← perform_congr (pending_runScript fuel) (fun _ _ => ih) (by omega : b.pending ≤ fuel) s]
      exact ih (by omega)

lemma runScript_of_le {fuel fuel' : Nat} {script : List BoardStep} {b : Board}
    (enough : b.pending + BoardStep.totalAll script ≤ fuel) (le : fuel ≤ fuel') :
    runScript fuel script b = runScript fuel' script b := by
  induction le with
  | refl => rfl
  | step le ih => exact ih.trans (runScript_add_one (Nat.le_trans enough le))

/-- The board after a step, of which what was seen is told. -/
def turn (fuel : Nat) (b : Board) (s : BoardStep) : Board :=
  { (b.perform (runScript fuel) s).1 with seen := [] }

lemma runWith_cons (fuel : Nat) (b : Board) (s : BoardStep) (rest : List BoardStep) :
    runWith fuel b (s :: rest) =
      { result := (b.perform (runScript fuel) s).2
        seen := (b.perform (runScript fuel) s).1.seen
        listeners := (b.perform (runScript fuel) s).1.subject.map (·.size) } ::
          runWith fuel (b.turn fuel s) rest := rfl

lemma runWith_of_le {fuel fuel' : Nat} (le : fuel ≤ fuel') {steps : List BoardStep} {b : Board}
    (enough : b.pending + BoardStep.totalAll steps ≤ fuel) :
    runWith fuel b steps = runWith fuel' b steps := by
  induction steps generalizing b with
  | nil => rfl
  | cons s rest ih =>
    have step := pending_perform (pending_runScript fuel) b s
    rw [BoardStep.totalAll] at enough
    have same : b.perform (runScript fuel) s = b.perform (runScript fuel') s :=
      perform_congr (pending_runScript fuel) (fun _ _ enough => runScript_of_le enough le)
        (by omega) s
    have onward : b.turn fuel s = b.turn fuel' s := by rw [turn, turn, same]
    rw [runWith_cons, runWith_cons, ← same, ← onward, ih]
    show (b.perform (runScript fuel) s).1.pending + BoardStep.totalAll rest ≤ fuel
    omega

/-- The fuel of a run is enough: more of it makes no difference. -/
lemma runWith_eq_run {fuel : Nat} {steps : List BoardStep} (enough : BoardStep.totalAll steps ≤ fuel) :
    runWith fuel {} steps = run steps :=
  (runWith_of_le enough (Nat.le_of_eq (Nat.zero_add _))).symm

/-! ### Steps as programs -/

open Broadcast (announced Operation Emission Note)

/-- The names of the listeners. -/
def names (b : Board) : List String := b.listeners.map (·.1)

/-- Telling listeners an event, as a program in which each of them carries its script out. -/
def tellOperations (runScript : List BoardStep → Board → Board)
    (scriptOperations : List BoardStep → Board → List (Operation String Nat)) (event : String) :
    Board → List Nat → List (Operation String Nat)
  | _, [] => [.tell]
  | b, listener :: left =>
    .tell :: (match b.listeners[listener]? with
        | none => []
        | some (id, script) =>
          scriptOperations script
            { b with
              seen := b.seen ++ [(id, event)]
              listeners := b.listeners.set listener (id, []) }) ++
      tellOperations runScript scriptOperations event (b.tell runScript event listener) left

/-- Ending a subscription, as a program. -/
def cancelOperations (subscription : Option Subscription) : List (Operation String Nat) :=
  subscription.toList.map fun s => .drop s.number

/-- A step, as a program. -/
def performOperations (runScript : List BoardStep → Board → Board)
    (scriptOperations : List BoardStep → Board → List (Operation String Nat)) (b : Board) :
    BoardStep → List (Operation String Nat)
  | .subscribe id _ =>
    match b.subject with
    | none => []
    | some _ => .subscribe b.listeners.length :: cancelOperations (b.held.lookup id)
  | .emit event =>
    match b.subject with
    | none => []
    | some s => .emit event :: tellOperations runScript scriptOperations event b s.audience
  | .drop id => cancelOperations (b.held.lookup id)
  | .forget id => (b.held.lookup id).toList.map fun s => .forget s.number
  | .dropSubject => [.close]
  | .describe _ | .unknown => []

/-- A script, as a program. -/
def scriptOperations : (fuel : Nat) → List BoardStep → Board → List (Operation String Nat)
  | 0, _, _ => []
  | _, [], _ => []
  | fuel + 1, s :: rest, b =>
    performOperations (runScript fuel) (scriptOperations fuel) b s ++
      scriptOperations fuel rest (b.perform (runScript fuel) s).1

/-- Steps, as the parts of a program. -/
def operationsWith (fuel : Nat) (b : Board) : List BoardStep → List (List (Operation String Nat))
  | [] => []
  | s :: rest =>
    performOperations (runScript fuel) (scriptOperations fuel) b s ::
      operationsWith fuel (b.turn fuel s) rest

/-- Steps on a board without listeners, as the parts of a program. -/
def operations (steps : List BoardStep) : List (List (Operation String Nat)) :=
  operationsWith (BoardStep.totalAll steps) {} steps

/-- The board after steps. -/
def final (steps : List BoardStep) : Board :=
  steps.foldl (turn (BoardStep.totalAll steps)) {}

/-- A board is a program on its way: it has the same subject, and what it holds under names is held. -/
structure Mirrors (b : Board) (w : Broadcast String Nat) : Prop where
  /-- The subject. -/
  subject : w.subject = b.subject
  /-- What is held under a name is held. -/
  held : ∀ e ∈ b.held, w.held[e.2.number]? = some (some e.2)
  /-- Nothing is held under two names. -/
  once : (b.held.map (·.2.number)).Nodup
  /-- The next subscription has the next place. -/
  next : ∀ s, w.subject = some s → s.next = w.held.length
  /-- All listeners are known. -/
  known : ∀ s, w.subject = some s → ∀ i ∈ s.audience, i < b.listeners.length

/-- What some listeners were told is seen under their names. -/
def Seen (names : List String) (told : List (String × Nat)) (seen : List (String × String)) : Prop :=
  List.Forall₂ (fun t n => names[t.2]? = some n.1 ∧ n.2 = t.1) told seen

lemma Seen.mono {names names' : List String} {told : List (String × Nat)}
    {seen : List (String × String)} (same : Seen names told seen) (more : names <+: names') :
    Seen names' told seen := by
  refine same.imp fun t n ⟨name, event⟩ => ⟨?_, event⟩
  obtain ⟨inside, here⟩ := List.getElem?_eq_some_iff.mp name
  exact here ▸ List.prefix_iff_getElem?.mp more _ inside

lemma Seen.append {names : List String} {told told' : List (String × Nat)}
    {seen seen' : List (String × String)} (first : Seen names told seen)
    (second : Seen names told' seen') : Seen names (told ++ told') (seen ++ seen') :=
  List.rel_append first second

/-- What has been seen on a board since is what some listeners were told. -/
def Retells (b b' : Board) (told : List (String × Nat)) : Prop :=
  b.names <+: b'.names ∧ ∃ new, b'.seen = b.seen ++ new ∧ Seen b'.names told new

/-- What was done on a board is what the program `w` does in some operations. `running` are the
emissions that are under way afterwards. -/
structure Follows (b b' : Board) (w : Broadcast String Nat) (operations : List (Operation String Nat))
    (running : List (Emission String Nat)) : Prop where
  /-- The board is the program on its way. -/
  mirrors : b'.Mirrors (w.after operations)
  /-- The emissions that are under way. -/
  running : (w.after operations).running = running
  /-- What has been seen is what was told. -/
  retells : b.Retells b' (announced (w.journal operations))

lemma Retells.refl (b : Board) : b.Retells b [] := ⟨List.prefix_rfl, [], by simp, .nil⟩

lemma Retells.trans {b₁ b₂ b₃ : Board} {told told' : List (String × Nat)}
    (first : b₁.Retells b₂ told) (second : b₂.Retells b₃ told') :
    b₁.Retells b₃ (told ++ told') := by
  obtain ⟨names, new, seen, same⟩ := first
  obtain ⟨names', new', seen', same'⟩ := second
  exact ⟨names.trans names', new ++ new', by simp [seen, seen'], (same.mono names').append same'⟩

lemma Follows.trans {b₁ b₂ b₃ : Board} {w : Broadcast String Nat}
    {running : List (Emission String Nat)} {operations operations' : List (Operation String Nat)}
    (first : b₁.Retells b₂ (announced (w.journal operations)))
    (second : b₂.Follows b₃ (w.after operations) operations' running) :
    b₁.Follows b₃ w (operations ++ operations') running where
  mirrors := by simpa only [Broadcast.after_append] using second.mirrors
  running := by simpa only [Broadcast.after_append] using second.running
  retells := by
    rw [Broadcast.journal_append, Broadcast.announced_append]
    exact first.trans second.retells

/-- What is done without operations. -/
lemma Follows.still {b b' : Board} {w : Broadcast String Nat} (mirrors : b'.Mirrors w)
    (listeners : b'.listeners = b.listeners) (seen : b'.seen = b.seen) :
    b.Follows b' w [] w.running :=
  ⟨mirrors, rfl, by simp [names, listeners], [], by simp [seen], .nil⟩

/-- An operation comes first. -/
lemma Follows.cons {b₁ b₂ b₃ : Board} {w w' : Broadcast String Nat} {o : Operation String Nat}
    {notes : List (Note String Nat)} {running : List (Emission String Nat)}
    {operations : List (Operation String Nat)} (stepped : w.step o = (w', notes))
    (first : b₁.Retells b₂ (announced notes)) (second : b₂.Follows b₃ w' operations running) :
    b₁.Follows b₃ w (o :: operations) running where
  mirrors := by simpa only [Broadcast.after_cons, stepped] using second.mirrors
  running := by simpa only [Broadcast.after_cons, stepped] using second.running
  retells := by
    rw [Broadcast.journal_cons, stepped, Broadcast.announced_append]
    exact first.trans second.retells

/-- To hold less under names makes no difference. -/
lemma Mirrors.release {b : Board} {w : Broadcast String Nat} (mirrors : b.Mirrors w) (id : String) :
    (b.release id).Mirrors w where
  subject := mirrors.subject
  held e mem := mirrors.held e (List.mem_filter.mp mem).1
  once := mirrors.once.sublist (List.filter_sublist.map _)
  next := mirrors.next
  known := mirrors.known

/-- What is under no name need not be held. -/
lemma Mirrors.vacate {b : Board} {w : Broadcast String Nat} (mirrors : b.Mirrors w) {k : Nat}
    (gone : ∀ e ∈ b.held, e.2.number ≠ k) : b.Mirrors { w with held := w.held.set k none } where
  subject := mirrors.subject
  held e mem := (List.getElem?_set_ne (gone e mem).symm).trans (mirrors.held e mem)
  once := mirrors.once
  next s subject := by simpa using mirrors.next s subject
  known := mirrors.known

/-- A subscription that is under no name any more can be ended. -/
lemma Mirrors.cancel {b : Board} {w : Broadcast String Nat} (mirrors : b.Mirrors w)
    {subscription : Subscription} (held : w.held[subscription.number]? = some (some subscription))
    (gone : ∀ e ∈ b.held, e.2.number ≠ subscription.number) :
    b.Follows (b.cancel (some subscription)) w [.drop subscription.number] w.running := by
  have vacated := mirrors.vacate gone
  have dropped : w.step (.drop subscription.number) =
      ({ w with
          subject := w.subject.map (·.cancel subscription)
          held := w.held.set subscription.number none }, [.dropped subscription.number]) := by
    simp only [Broadcast.step, Broadcast.drop, held]
  refine .cons dropped (.refl b) (.still ⟨?_, vacated.held, vacated.once, ?_, ?_⟩ rfl rfl)
  · exact congrArg (Option.map (·.cancel subscription)) mirrors.subject
  · rintro _ there
    obtain ⟨s, subject, rfl⟩ := Option.map_eq_some_iff.mp there
    exact vacated.next s subject
  · rintro _ there i mem
    obtain ⟨s, subject, rfl⟩ := Option.map_eq_some_iff.mp there
    exact vacated.known s subject i ((List.filter_sublist.map _).subset mem)

/-- What was held under a name is under no name any more once the name is free. -/
lemma Mirrors.released {b : Board} {w : Broadcast String Nat} (mirrors : b.Mirrors w) {id : String}
    {subscription : Subscription} (held : b.held.lookup id = some subscription) :
    w.held[subscription.number]? = some (some subscription) ∧
      ∀ e ∈ (b.release id).held, e.2.number ≠ subscription.number := by
  have mem : (id, subscription) ∈ b.held := by
    obtain ⟨before, behind, split, -⟩ := List.lookup_eq_some_iff.mp held
    simp [split]
  refine ⟨mirrors.held _ mem, fun e there same => ?_⟩
  obtain ⟨there, other⟩ := List.mem_filter.mp there
  have equal := List.inj_on_of_nodup_map mirrors.once there mem same
  rw [equal] at other
  simp at other

/-- The board with a listener more, whose subscription is held under a name that was made free. -/
def enrol (b : Board) (s : Subject Nat) (id : String) (script : List BoardStep) : Board :=
  { b.release id with
    subject := some (s.subscribe b.listeners.length).1
    listeners := b.listeners ++ [(id, script)]
    held := (b.release id).held ++ [(id, ⟨s.next⟩)] }

/-- A new listener comes with a new place. -/
lemma Mirrors.enrol {b : Board} {w : Broadcast String Nat} (mirrors : b.Mirrors w) {s : Subject Nat}
    (subject : w.subject = some s) (id : String) (script : List BoardStep) :
    (b.enrol s id script).Mirrors
      { w with
        subject := some (s.subscribe b.listeners.length).1
        held := w.held ++ [some ⟨s.next⟩] } := by
  have next := mirrors.next s subject
  have inside : ∀ e ∈ (b.release id).held, e.2.number < w.held.length := fun e mem =>
    (List.getElem?_eq_some_iff.mp ((mirrors.release id).held e mem)).1
  refine ⟨rfl, fun e mem => ?held, ?once, ?next, ?known⟩
  case held =>
    rcases List.mem_append.mp mem with mem | mem
    · exact (List.getElem?_append_left (inside e mem)).trans ((mirrors.release id).held e mem)
    · obtain rfl := List.mem_singleton.mp mem
      simp only [next]
      exact List.getElem?_concat_length
  case once =>
    simp only [Board.enrol, List.map_append, List.map_cons, List.map_nil]
    refine List.Nodup.append (mirrors.release id).once (List.nodup_singleton _) ?_
    intro k old new
    obtain ⟨e, mem, rfl⟩ := List.mem_map.mp old
    exact Nat.ne_of_lt (inside e mem) ((List.mem_singleton.mp new).trans next)
  case next =>
    rintro _ ⟨⟩
    simp [Subject.subscribe, next]
  case known =>
    rintro _ ⟨⟩ i mem
    simp only [Subject.audience, Subject.subscribe, List.map_append, List.map_cons, List.map_nil,
      List.mem_append, List.mem_singleton] at mem
    simp only [Board.enrol, List.length_append, List.length_singleton]
    rcases mem with mem | rfl
    · exact Nat.lt_succ_of_lt (mirrors.known s subject i mem)
    · exact Nat.lt_succ_self _

section

variable {run : List BoardStep → Board → Board}
  {program : List BoardStep → Board → List (Operation String Nat)}

/-- A new listener: its subscription takes the place of the one under its name. -/
lemma follows_subscribe {b : Board} {w : Broadcast String Nat} (mirrors : b.Mirrors w) (id : String)
    (script : List BoardStep) :
    b.Follows (b.subscribe id script).1 w (b.performOperations run program (.subscribe id script))
      w.running := by
  unfold Board.subscribe performOperations
  rcases subject : b.subject with _ | s
  · exact .still mirrors rfl rfl
  · have subject' : w.subject = some s := mirrors.subject.trans subject
    have enrolled := mirrors.enrol subject' id script
    have subscribed : w.step (.subscribe b.listeners.length) =
        ({ w with
            subject := some (s.subscribe b.listeners.length).1
            held := w.held ++ [some ⟨s.next⟩] }, [.subscribed b.listeners.length]) := by
      simp only [Broadcast.step, Broadcast.subscribe, subject']
      rfl
    have retells : b.Retells (b.enrol s id script) [] :=
      ⟨by simp [names, enrol], [], by simp [enrol, release], .nil⟩
    refine .cons subscribed retells ?_
    rcases held : b.held.lookup id with _ | old
    · exact .still enrolled rfl rfl
    · obtain ⟨there, gone⟩ := mirrors.released held
      have inside := (List.getElem?_eq_some_iff.mp there).1
      refine enrolled.cancel ((List.getElem?_append_left inside).trans there) fun e mem => ?_
      rcases List.mem_append.mp mem with mem | mem
      · exact gone e mem
      · obtain rfl := List.mem_singleton.mp mem
        exact (Nat.ne_of_lt (mirrors.next s subject' ▸ inside)).symm

variable (runs : ∀ script (b : Board) (w : Broadcast String Nat), b.Mirrors w →
    b.Follows (run script b) w (program script b) w.running)
include runs

/-- One listener after the other is told an event and carries its script out. -/
lemma follows_tell {number : Nat} {event : String} {left : List Nat}
    {outer : List (Emission String Nat)} {b : Board} {w : Broadcast String Nat}
    (mirrors : b.Mirrors w) (running : w.running = ⟨number, event, left⟩ :: outer)
    (known : ∀ i ∈ left, i < b.listeners.length) :
    b.Follows (left.foldl (tell run event) b) w (tellOperations run program event b left) outer := by
  induction left generalizing b w with
  | nil =>
    have told : w.step .tell = ({ w with running := outer }, [.ended number]) := by
      simp only [Broadcast.step, Broadcast.tell, running]
    exact .cons told (.refl b) (.still
      ⟨mirrors.subject, mirrors.held, mirrors.once, mirrors.next, mirrors.known⟩ rfl rfl)
  | cons i left ih =>
    obtain ⟨inside, known⟩ := List.forall_mem_cons.mp known
    rcases here : b.listeners[i]? with _ | ⟨id, script⟩
    · rw [List.getElem?_eq_getElem inside] at here
      cases here
    let b₁ : Board :=
      { b with seen := b.seen ++ [(id, event)], listeners := b.listeners.set i (id, []) }
    let w₁ : Broadcast String Nat := { w with running := ⟨number, event, left⟩ :: outer }
    have told : w.step .tell = (w₁, [.told number event i]) := by
      simp only [Broadcast.step, Broadcast.tell, running, w₁]
    have named : b.names[i]? = some id := by simp [names, here]
    have same : b₁.names = b.names := by
      obtain ⟨inside, rfl⟩ := List.getElem?_eq_some_iff.mp named
      exact List.map_set.trans (List.set_getElem_self inside)
    have mirrors₁ : b₁.Mirrors w₁ :=
      ⟨mirrors.subject, mirrors.held, mirrors.once, mirrors.next, by simpa [b₁] using mirrors.known⟩
    have retells : b.Retells b₁ [(event, i)] :=
      ⟨same ▸ List.prefix_rfl, [(id, event)], rfl, .cons ⟨same ▸ named, rfl⟩ .nil⟩
    obtain ⟨mirrors₂, running₂, retells₂⟩ := runs script b₁ w₁ mirrors₁
    have known₂ : ∀ j ∈ left, j < (run script b₁).listeners.length := fun j mem => by
      have grown := retells₂.1.length_le
      simp only [names, List.length_map, b₁, List.length_set] at grown
      exact Nat.lt_of_lt_of_le (known j mem) grown
    have step : tell run event b i = run script b₁ := by
      simp only [tell, here, b₁]
    rw [List.foldl_cons, tellOperations, step, here]
    exact .cons told retells (.trans retells₂ (ih mirrors₂ running₂ known₂))

/-- A step on a board is the program that it stands for. -/
lemma follows_perform {b : Board} {w : Broadcast String Nat} (mirrors : b.Mirrors w)
    (s : BoardStep) :
    b.Follows (b.perform run s).1 w (b.performOperations run program s) w.running := by
  cases s with
  | subscribe id script => exact follows_subscribe mirrors id script
  | emit event =>
    rcases subject : b.subject with _ | s
    · simp only [perform, performOperations, subject]
      exact .still mirrors rfl rfl
    · have subject' : w.subject = some s := mirrors.subject.trans subject
      have emitted : w.step (.emit event) =
          ({ w with
              running := ⟨w.emissions, event, s.audience⟩ :: w.running
              emissions := w.emissions + 1 }, [.emitted w.emissions event]) := by
        simp only [Broadcast.step, Broadcast.emit, subject']
      simp only [perform, performOperations, subject]
      exact .cons emitted (.refl b) (follows_tell runs
        ⟨mirrors.subject, mirrors.held, mirrors.once, mirrors.next, mirrors.known⟩ rfl
        (mirrors.known s subject'))
  | drop id =>
    rcases held : b.held.lookup id with _ | subscription
    · simp only [perform, performOperations, held]
      exact .still (mirrors.release id) rfl rfl
    · obtain ⟨there, gone⟩ := mirrors.released held
      simp only [perform, performOperations, held]
      have cancelled := (mirrors.release id).cancel there gone
      exact ⟨cancelled.mirrors, cancelled.running, cancelled.retells⟩
  | forget id =>
    rcases held : b.held.lookup id with _ | subscription
    · simp only [perform, performOperations, held]
      exact .still (mirrors.release id) rfl rfl
    · obtain ⟨there, gone⟩ := mirrors.released held
      have forgotten : w.step (.forget subscription.number) =
          ({ w with held := w.held.set subscription.number none },
            [.forgotten subscription.number]) := by
        simp only [Broadcast.step, Broadcast.forget, there]
      simp only [perform, performOperations, held]
      exact .cons forgotten (.refl b) (.still ((mirrors.release id).vacate gone) rfl rfl)
  | dropSubject =>
    refine .cons rfl (.refl b) (.still ⟨rfl, mirrors.held, mirrors.once, ?_, ?_⟩ rfl rfl) <;>
      rintro _ ⟨⟩
  | describe id => exact .still mirrors rfl rfl
  | unknown => exact .still mirrors rfl rfl

end

/-- A script is the program that it stands for. -/
lemma follows_runScript (fuel : Nat) : ∀ script (b : Board) (w : Broadcast String Nat),
    b.Mirrors w → b.Follows (runScript fuel script b) w (scriptOperations fuel script b) w.running := by
  induction fuel with
  | zero =>
    intro script b w mirrors
    rw [runScript, scriptOperations]
    exact .still mirrors rfl rfl
  | succ fuel ih =>
    rintro (_ | ⟨s, rest⟩) b w mirrors
    · exact .still mirrors rfl rfl
    · obtain ⟨mirrors', running, retells⟩ := follows_perform ih mirrors s
      rw [runScript, scriptOperations, ← running]
      exact Follows.trans retells (ih rest _ _ mirrors')

/-- What is seen of a board step by step is what can be seen of the program. -/
lemma sights_runWith (fuel : Nat) {b : Board} {w : Broadcast String Nat} (mirrors : b.Mirrors w)
    (blank : b.seen = []) (steps : List BoardStep) :
    b.names <+: (steps.foldl (turn fuel) b).names ∧
      (w.after (b.operationsWith fuel steps).flatten).running = w.running ∧
      List.Forall₂
        (fun sight told => Seen (steps.foldl (turn fuel) b).names told.1 sight.seen ∧
          sight.listeners = told.2)
        (runWith fuel b steps) (w.sights (b.operationsWith fuel steps)) := by
  induction steps generalizing b w with
  | nil => exact ⟨List.prefix_rfl, rfl, .nil⟩
  | cons s rest ih =>
    obtain ⟨mirrors', running, more, new, seen, told⟩ :=
      follows_perform (follows_runScript fuel) mirrors s
    have cleared : (b.turn fuel s).Mirrors (w.after (b.performOperations _ _ s)) :=
      ⟨mirrors'.subject, mirrors'.held, mirrors'.once, mirrors'.next, mirrors'.known⟩
    obtain ⟨more', running', agree⟩ := ih cleared rfl
    rw [blank, List.nil_append] at seen
    refine ⟨more.trans more', ?_, .cons ⟨?_, ?_⟩ agree⟩
    · rw [operationsWith, List.flatten_cons, Broadcast.after_append, running', running]
    · exact seen ▸ told.mono more'
    · exact congrArg (Option.map (·.size)) mirrors'.subject.symm

end Board

end Session

/-! ### Who is told -/

open Broadcast in
/-- Every emission reaches just those who are subscribed when it starts. Whatever a program on a subject
does, and the listeners do that are told an event:

* The listeners of the subject are those that were subscribed and whose subscription was not ended, in
  the order of subscription.
* Those who are told an event are those who stood when it was emitted, each once and in that order, all
  of them once the emission has ended. Until then those who are left will be told next.
* To end a subscription that is held removes its own listener and no other. Nothing happens if it was
  ended or forgotten before, and nothing to the listeners once the subject is gone. Emissions under way
  go on as before.

Steps on a board are such a program: what is seen of the board is what can be seen of the program. No
step of a script is left out for want of fuel. -/
theorem emissions_reach_standing :
    (∀ (ε α : Type) (operations : List (Operation ε α)),
      let start : Broadcast ε α := {}
      let b := start.after operations
      let journal := start.journal operations
      (∀ s, b.subject = some s →
        s.audience = standing journal ∧ s.size = (standing journal).length) ∧
      (∀ before event later, operations = before ++ .emit event :: later →
        (start.after before).subject.isSome →
        ∃ number left, ((start.after before).step (.emit event)).2 = [.emitted number event] ∧
          told number journal ++ left.map (event, ·) =
            (standing (start.journal before)).map (event, ·) ∧
          (.ended number ∈ journal → left = []) ∧
          (.ended number ∉ journal → ⟨number, event, left⟩ ∈ b.running)) ∧
      ∀ k, (b.drop k).1.running = b.running ∧
        (b.subject = none → (b.drop k).1.subject = none) ∧
        (k ∈ released journal ∨ (subscribed journal).length ≤ k → b.drop k = (b, [])) ∧
        (k ∉ released journal → k < (subscribed journal).length → ∀ s, b.subject = some s →
          ∃ front listener back, (subscribed journal)[k]? = some listener ∧
            s.audience = front ++ listener :: back ∧
            (b.drop k).1.subject.map (·.audience) = some (front ++ back))) ∧
    ∀ steps : List Session.BoardStep,
      let parts := Session.Board.operations steps
      (∀ fuel, Session.BoardStep.totalAll steps ≤ fuel →
        Session.Board.runWith fuel {} steps = Session.Board.run steps) ∧
      (Broadcast.after {} parts.flatten).running = [] ∧
      List.Forall₂
        (fun sight told =>
          Session.Board.Seen (Session.Board.final steps).names told.1 sight.seen ∧
            sight.listeners = told.2)
        (Session.Board.run steps) (Broadcast.sights {} parts) := by
  refine ⟨fun ε α operations => ?_, fun steps => ?_⟩
  · intro start b journal
    have keeps : Keeps journal b := keeps_start.after operations
    refine ⟨fun s subject => ?_, fun before event later split alive => ?_, fun k => ?_⟩
    · have same := keeps.audience_eq subject
      exact ⟨same, by rw [← same, Subject.audience, Subject.size, List.length_map]⟩
    · obtain ⟨s, subject⟩ := Option.isSome_iff_exists.mp alive
      obtain ⟨left, told, finished, goesOn⟩ :=
        exists_left (keeps_start.after before) (orderly_start.after before) subject event later
      have whole : journal = [] ++ start.journal before ++
          (start.after before).journal (.emit event :: later) := by
        rw [List.nil_append, ← journal_append, ← split]
      have reached : b = (start.after before).after (.emit event :: later) := by
        rw [← after_append, ← split]
      rw [← whole] at told finished goesOn
      rw [← reached] at goesOn
      exact ⟨_, left, by simp only [start, Broadcast.step, Broadcast.emit, subject], told, finished, goesOn⟩
    · obtain ⟨running, subject⟩ := b.drop_frame k
      exact ⟨running, subject, drop_of_gone keeps,
        fun here inside s subject => audience_drop keeps subject inside here⟩
  · have mirrors : Session.Board.Mirrors {} {} :=
      ⟨rfl, by simp, List.nodup_nil, by rintro _ ⟨⟩; rfl, by rintro _ ⟨⟩ _ ⟨⟩⟩
    exact ⟨fun fuel enough => Session.Board.runWith_eq_run enough,
      (Session.Board.sights_runWith (Session.BoardStep.totalAll steps) mirrors rfl steps).2⟩

open Broadcast in
/-- While `"a"` is told, the subscription of `"b"` ends, `"d"` is subscribed and another event is emitted.
`"b"` is told the first event nevertheless and `"d"` is not; with the second one it is the other way
round. -/
theorem emissions_reach_standing_nested :
    let before : List (Operation String String) :=
      [.subscribe "a", .subscribe "b", .subscribe "c", .forget 2]
    let between : List (Operation String String) := [.tell, .drop 1, .subscribe "d"]
    let behind : List (Operation String String) := [.tell, .tell, .tell, .tell, .tell, .tell, .tell]
    let journal := journal {} (before ++ .emit "x" :: (between ++ .emit "y" :: behind))
    told 0 journal = [("x", "a"), ("x", "b"), ("x", "c")] ∧
      told 1 journal = [("y", "a"), ("y", "c"), ("y", "d")] ∧
      standing journal = ["a", "c", "d"] := by
  intro before between behind journal
  obtain ⟨there, emissions, -⟩ := emissions_reach_standing.1 String String
    (before ++ .emit "x" :: (between ++ .emit "y" :: behind))
  refine ⟨?_, ?_, (there _ rfl).1.symm⟩
  · obtain ⟨number, left, first, told, finished, -⟩ := emissions before "x" _ rfl rfl
    obtain rfl : 0 = number := by injection (List.cons.inj first).1
    rw [finished (by decide), List.map_nil, List.append_nil] at told
    exact told
  · obtain ⟨number, left, second, told, finished, -⟩ :=
      emissions (before ++ .emit "x" :: between) "y" behind (by simp) rfl
    obtain rfl : 1 = number := by injection (List.cons.inj second).1
    rw [finished (by decide), List.map_nil, List.append_nil] at told
    exact told

end Wayfinder
