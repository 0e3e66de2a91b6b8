/-
Programs on a subject.

A program on a subject subscribes listeners, emits events, and ends or forgets subscriptions. Listeners
do the same while they are told an event, and those that are told then do so in their turn. A
`Broadcast` is such a program on its way: the subject, the subscriptions that are held, and the
emissions under way, of which the innermost one goes on first. What the listeners do is left open, so
a run is any list of operations. The journal of a run says what has happened, and from it alone can be
read who is subscribed (`standing`).

* `Broadcast.Keeps`: the subject and the subscriptions that are held are those of the journal.
* `Broadcast.Along`: how far an emission has come.
* `Broadcast.exists_left`: an emission reaches those who stand when it starts.
* `Broadcast.audience_drop`: ending a subscription removes its own listener.
-/
import Mathlib.Data.List.Nodup
import Mathlib.Tactic.Lemma
import Wayfinder.Subject

namespace Wayfinder

variable {ε α : Type}

/-! ### Programs on a subject -/

namespace Broadcast

/-- An emission under way. -/
structure Emission (ε α : Type) where
  /-- How many emissions were started before. -/
  number : Nat
  /-- The event. -/
  event : ε
  /-- Those who have not been told. -/
  left : List α

/-- What a program may do next. Subscriptions are known by how many there were before. -/
inductive Operation (ε α : Type) where
  /-- Subscribe a listener. -/
  | subscribe (listener : α)
  /-- End a subscription. -/
  | drop (subscription : Nat)
  /-- Hold a subscription no longer without ending it. -/
  | forget (subscription : Nat)
  /-- Emit an event. -/
  | emit (event : ε)
  /-- The innermost emission goes on: the next listener is told, or there is none and it ends. -/
  | tell
  /-- End the subject. -/
  | close

/-- What has happened. -/
inductive Note (ε α : Type) where
  /-- A listener was subscribed. -/
  | subscribed (listener : α)
  /-- A subscription was ended. -/
  | dropped (subscription : Nat)
  /-- A subscription was forgotten. -/
  | forgotten (subscription : Nat)
  /-- An emission was started. -/
  | emitted (number : Nat) (event : ε)
  /-- A listener was told an event. -/
  | told (number : Nat) (event : ε) (listener : α)
  /-- An emission has ended. -/
  | ended (number : Nat)
  deriving DecidableEq

end Broadcast

/-- A program on a subject on its way. -/
structure Broadcast (ε α : Type) where
  /-- The subject, until it is gone. -/
  subject : Option (Subject α) := some {}
  /-- The subscriptions, in order; those that are not held any more have left a gap. -/
  held : List (Option Subscription) := []
  /-- The emissions under way, the innermost one first. -/
  running : List (Broadcast.Emission ε α) := []
  /-- The number of emissions so far. -/
  emissions : Nat := 0

namespace Broadcast

/-- Subscribe a listener, if there is a subject. -/
def subscribe (b : Broadcast ε α) (listener : α) : Broadcast ε α × List (Note ε α) :=
  match b.subject with
  | none => (b, [])
  | some s =>
    let (s, subscription) := s.subscribe listener
    ({ b with subject := some s, held := b.held ++ [some subscription] }, [.subscribed listener])

/-- End a subscription, if it is held. -/
def drop (b : Broadcast ε α) (k : Nat) : Broadcast ε α × List (Note ε α) :=
  match b.held[k]? with
  | some (some subscription) =>
    ({ b with subject := b.subject.map (·.cancel subscription), held := b.held.set k none },
      [.dropped k])
  | _ => (b, [])

/-- Forget a subscription, if it is held. -/
def forget (b : Broadcast ε α) (k : Nat) : Broadcast ε α × List (Note ε α) :=
  match b.held[k]? with
  | some (some _) => ({ b with held := b.held.set k none }, [.forgotten k])
  | _ => (b, [])

/-- Start an emission, if there is a subject. -/
def emit (b : Broadcast ε α) (event : ε) : Broadcast ε α × List (Note ε α) :=
  match b.subject with
  | none => (b, [])
  | some s =>
    ({ b with
        running := ⟨b.emissions, event, s.audience⟩ :: b.running
        emissions := b.emissions + 1 },
      [.emitted b.emissions event])

/-- The innermost emission goes on. -/
def tell (b : Broadcast ε α) : Broadcast ε α × List (Note ε α) :=
  match b.running with
  | [] => (b, [])
  | ⟨number, _, []⟩ :: outer => ({ b with running := outer }, [.ended number])
  | ⟨number, event, listener :: left⟩ :: outer =>
    ({ b with running := ⟨number, event, left⟩ :: outer }, [.told number event listener])

/-- What an operation does. -/
def step (b : Broadcast ε α) : Operation ε α → Broadcast ε α × List (Note ε α)
  | .subscribe listener => b.subscribe listener
  | .drop k => b.drop k
  | .forget k => b.forget k
  | .emit event => b.emit event
  | .tell => b.tell
  | .close => ({ b with subject := none }, [])

/-- A program after some operations. -/
def after (b : Broadcast ε α) (operations : List (Operation ε α)) : Broadcast ε α :=
  operations.foldl (fun b o => (b.step o).1) b

/-- What has happened in some operations. -/
def journal (b : Broadcast ε α) : List (Operation ε α) → List (Note ε α)
  | [] => []
  | o :: operations => (b.step o).2 ++ journal (b.step o).1 operations

@[simp] lemma after_nil (b : Broadcast ε α) : b.after [] = b := rfl

@[simp] lemma after_cons (b : Broadcast ε α) (o : Operation ε α) (operations) :
    b.after (o :: operations) = (b.step o).1.after operations := rfl

@[simp] lemma journal_nil (b : Broadcast ε α) : b.journal [] = [] := rfl

@[simp] lemma journal_cons (b : Broadcast ε α) (o : Operation ε α) (operations) :
    b.journal (o :: operations) = (b.step o).2 ++ (b.step o).1.journal operations := rfl

lemma after_append (b : Broadcast ε α) (operations operations') :
    b.after (operations ++ operations') = (b.after operations).after operations' :=
  List.foldl_append ..

lemma journal_append (b : Broadcast ε α) (operations operations') :
    b.journal (operations ++ operations') =
      b.journal operations ++ (b.after operations).journal operations' := by
  induction operations generalizing b with
  | nil => rfl
  | cons o operations ih => simp [ih]

/-! ### What a journal says -/

/-- The listener that was subscribed. -/
def Note.subscribed? : Note ε α → Option α
  | subscribed listener => some listener
  | _ => none

/-- The subscription that was ended. -/
def Note.dropped? : Note ε α → Option Nat
  | dropped k => some k
  | _ => none

/-- The subscription that is held no longer. -/
def Note.released? : Note ε α → Option Nat
  | dropped k | forgotten k => some k
  | _ => none

/-- What was told in the emission with a number. -/
def Note.told? (number : Nat) : Note ε α → Option (ε × α)
  | told n event listener => if n = number then some (event, listener) else none
  | _ => none

/-- Who was told what, in any emission. -/
def Note.announced? : Note ε α → Option (ε × α)
  | told _ event listener => some (event, listener)
  | _ => none

/-- The listeners that were subscribed, in order. -/
def subscribed (journal : List (Note ε α)) : List α := journal.filterMap Note.subscribed?

/-- The subscriptions that were ended. -/
def dropped (journal : List (Note ε α)) : List Nat := journal.filterMap Note.dropped?

/-- The subscriptions that are held no longer. -/
def released (journal : List (Note ε α)) : List Nat := journal.filterMap Note.released?

/-- Who was told what in the emission with a number, in order. -/
def told (number : Nat) (journal : List (Note ε α)) : List (ε × α) :=
  journal.filterMap (Note.told? number)

/-- Who was told what, in all emissions and in order. -/
def announced (journal : List (Note ε α)) : List (ε × α) := journal.filterMap Note.announced?

/-- What can be seen of a program after each of its parts: who was told what in it, and how many
listeners there are. -/
def sights (b : Broadcast ε α) :
    List (List (Operation ε α)) → List (List (ε × α) × Option Nat)
  | [] => []
  | part :: parts =>
    (announced (b.journal part), (b.after part).subject.map (·.size)) :: (b.after part).sights parts

/-- Who is subscribed: those that were subscribed and whose subscription was not ended, in order. -/
def standing (journal : List (Note ε α)) : List α :=
  ((subscribed journal).zipIdx.filter fun e => e.2 ∉ dropped journal).map (·.1)

@[simp] lemma subscribed_append (journal notes : List (Note ε α)) :
    subscribed (journal ++ notes) = subscribed journal ++ subscribed notes := by
  simp [subscribed]

@[simp] lemma dropped_append (journal notes : List (Note ε α)) :
    dropped (journal ++ notes) = dropped journal ++ dropped notes := by
  simp [dropped]

@[simp] lemma released_append (journal notes : List (Note ε α)) :
    released (journal ++ notes) = released journal ++ released notes := by
  simp [released]

@[simp] lemma told_append (number : Nat) (journal notes : List (Note ε α)) :
    told number (journal ++ notes) = told number journal ++ told number notes := by
  simp [told]

@[simp] lemma announced_append (journal notes : List (Note ε α)) :
    announced (journal ++ notes) = announced journal ++ announced notes := by
  simp [announced]

@[simp] lemma subscribed_singleton (note : Note ε α) :
    subscribed [note] = note.subscribed?.toList := by
  cases note <;> rfl

@[simp] lemma dropped_singleton (note : Note ε α) : dropped [note] = note.dropped?.toList := by
  cases note <;> rfl

@[simp] lemma released_singleton (note : Note ε α) :
    released [note] = note.released?.toList := by
  cases note <;> rfl

@[simp] lemma told_singleton (number : Nat) (note : Note ε α) :
    told number [note] = (note.told? number).toList := by
  rw [told, List.filterMap_cons]
  cases note.told? number <;> rfl

/-! ### Subscriptions -/

/-- The subscribed listeners with the numbers of their subscriptions. -/
def registered (journal : List (Note ε α)) : List (Nat × α) :=
  ((subscribed journal).zipIdx.filter fun e => e.2 ∉ dropped journal).map Prod.swap

/-- The subscriptions in order, with gaps for those that are held no longer. -/
def places (journal : List (Note ε α)) : List (Option Subscription) :=
  (List.range (subscribed journal).length).map fun k =>
    if k ∈ released journal then none else some ⟨k⟩

lemma map_registered (journal : List (Note ε α)) :
    (registered journal).map (·.2) = standing journal := by
  simp [registered, standing, Function.comp_def]

/-- No two listeners have the same number. -/
lemma nodup_registered (journal : List (Note ε α)) : ((registered journal).map (·.1)).Nodup := by
  have numbers : ((subscribed journal).zipIdx.map (·.2)).Nodup := by
    rw [List.zipIdx_map_snd]
    exact List.nodup_range'
  have same : (registered journal).map (·.1) =
      ((subscribed journal).zipIdx.filter fun e => e.2 ∉ dropped journal).map (·.2) := by
    simp [registered, Function.comp_def]
  rw [same]
  exact numbers.sublist (List.filter_sublist.map _)

lemma getElem?_places (journal : List (Note ε α)) (k : Nat) :
    (places journal)[k]? =
      if k < (subscribed journal).length then
        some (if k ∈ released journal then none else some ⟨k⟩)
      else none := by
  rw [places, List.getElem?_map]
  split
  · rename_i inside
    rw [List.getElem?_range inside, Option.map_some]
  · rename_i outside
    rw [List.getElem?_eq_none (by simpa using outside), Option.map_none]

/-- A subscription is held in its own place, until it is ended or forgotten. -/
lemma places_eq_some {journal : List (Note ε α)} {k : Nat} {subscription : Subscription} :
    (places journal)[k]? = some (some subscription) ↔
      k < (subscribed journal).length ∧ k ∉ released journal ∧ subscription = ⟨k⟩ := by
  rw [getElem?_places]
  by_cases inside : k < (subscribed journal).length <;>
    by_cases gone : k ∈ released journal <;> simp [inside, gone, eq_comm]

/-- The subject and the subscriptions that are held are those of the journal. -/
structure Keeps (journal : List (Note ε α)) (b : Broadcast ε α) : Prop where
  /-- The subscriptions that are held. -/
  held : b.held = places journal
  /-- Only what was subscribed can be held no longer. -/
  known : ∀ k ∈ released journal, k < (subscribed journal).length
  /-- The next number is that of the next subscription. -/
  next : ∀ s, b.subject = some s → s.next = (subscribed journal).length
  /-- The listeners are those that stand. -/
  listeners : ∀ s, b.subject = some s → s.listeners = registered journal

/-- What is neither subscribed nor ended makes no difference. -/
lemma Keeps.congr {journal notes : List (Note ε α)} {b b' : Broadcast ε α} (keeps : Keeps journal b)
    (none : subscribed notes = []) (none' : released notes = []) (none'' : dropped notes = [])
    (subject : b'.subject = b.subject) (held : b'.held = b.held) : Keeps (journal ++ notes) b' where
  held := by simp [held, keeps.held, places, none, none']
  known := by simpa [none, none'] using keeps.known
  next s there := by simpa [none] using keeps.next s (subject ▸ there)
  listeners s there := by simpa [registered, none, none''] using keeps.listeners s (subject ▸ there)

/-- A subscription that was ended is held no longer. -/
lemma released_of_dropped {journal : List (Note ε α)} {k : Nat} (mem : k ∈ dropped journal) :
    k ∈ released journal := by
  obtain ⟨note, mem, ends⟩ := List.mem_filterMap.mp mem
  refine List.mem_filterMap.mpr ⟨note, mem, ?_⟩
  cases note with
  | dropped j => exact ends
  | _ => cases ends

/-- A new listener comes last. -/
lemma registered_subscribed {journal : List (Note ε α)}
    (new : (subscribed journal).length ∉ released journal) (listener : α) :
    registered (journal ++ [.subscribed listener]) =
      registered journal ++ [((subscribed journal).length, listener)] := by
  have new' : (subscribed journal).length ∉ dropped journal := fun mem =>
    new (released_of_dropped mem)
  simp [registered, List.zipIdx_append, Note.subscribed?, Note.dropped?, new']

/-- Its subscription is held. -/
lemma places_subscribed {journal : List (Note ε α)}
    (new : (subscribed journal).length ∉ released journal) (listener : α) :
    places (journal ++ [.subscribed listener]) =
      places journal ++ [some ⟨(subscribed journal).length⟩] := by
  simp [places, List.range_succ, Note.subscribed?, Note.released?, new]

/-- Ending a subscription removes its listener. -/
lemma registered_dropped (journal : List (Note ε α)) (k : Nat) :
    registered (journal ++ [.dropped k]) = (registered journal).filter (·.1 ≠ k) := by
  simp only [registered, subscribed_append, dropped_append, subscribed_singleton, dropped_singleton,
    Note.subscribed?, Note.dropped?, Option.toList, List.append_nil, List.filter_map,
    List.filter_filter]
  congr 1
  refine List.filter_congr fun e _ => ?_
  simp [Bool.and_comm, eq_comm]

/-- A subscription that is ended or forgotten leaves a gap. -/
lemma places_released (journal : List (Note ε α)) {note : Note ε α} {k : Nat}
    (ends : note.released? = some k) (other : note.subscribed? = none) :
    places (journal ++ [note]) = (places journal).set k none := by
  refine List.ext_getElem? fun j => ?_
  have length : (places journal).length = (subscribed journal).length := by simp [places]
  rw [List.getElem?_set, getElem?_places, getElem?_places, length]
  simp only [subscribed_append, released_append, subscribed_singleton, released_singleton, ends,
    other, Option.toList, List.append_nil, List.mem_append, List.mem_singleton]
  by_cases same : k = j
  · subst same
    simp
  · simp [same, eq_comm]

/-- Every operation keeps the subscriptions. -/
lemma Keeps.step {journal : List (Note ε α)} {b : Broadcast ε α} (keeps : Keeps journal b)
    (o : Operation ε α) : Keeps (journal ++ (b.step o).2) (b.step o).1 := by
  have new : (subscribed journal).length ∉ released journal := fun mem =>
    Nat.lt_irrefl _ (keeps.known _ mem)
  cases o with
  | subscribe listener =>
    rcases subject : b.subject with _ | s
    · simpa [Broadcast.step, Broadcast.subscribe, subject] using keeps
    · have next := keeps.next s subject
      have listeners := keeps.listeners s subject
      simp only [Broadcast.step, Broadcast.subscribe, subject, Subject.subscribe]
      refine ⟨?held, ?known, ?next, ?listeners⟩
      case held => rw [places_subscribed new, keeps.held, next]
      case known =>
        intro k mem
        have here := keeps.known k (by simpa [Note.released?] using mem)
        simpa [Note.subscribed?] using Nat.lt_succ_of_lt here
      case next =>
        rintro _ ⟨⟩
        simp [next, Note.subscribed?]
      case listeners =>
        rintro _ ⟨⟩
        rw [registered_subscribed new, listeners, next]
  | drop k =>
    rcases here : b.held[k]? with _ | _ | subscription
    · simpa [Broadcast.step, Broadcast.drop, here] using keeps
    · simpa [Broadcast.step, Broadcast.drop, here] using keeps
    · obtain ⟨inside, -, rfl⟩ := places_eq_some.mp (keeps.held ▸ here)
      simp only [Broadcast.step, Broadcast.drop, here]
      refine ⟨by rw [places_released journal rfl rfl, keeps.held], ?known, ?next, ?listeners⟩
      case known =>
        simpa [Note.released?, Note.subscribed?, or_imp, forall_and, inside] using keeps.known
      case next =>
        rintro _ ended
        obtain ⟨s, subject, rfl⟩ := Option.map_eq_some_iff.mp ended
        simpa [Subject.cancel, Note.subscribed?] using keeps.next s subject
      case listeners =>
        rintro _ ended
        obtain ⟨s, subject, rfl⟩ := Option.map_eq_some_iff.mp ended
        rw [registered_dropped, ← keeps.listeners s subject, Subject.cancel]
  | forget k =>
    rcases here : b.held[k]? with _ | _ | subscription
    · simpa [Broadcast.step, Broadcast.forget, here] using keeps
    · simpa [Broadcast.step, Broadcast.forget, here] using keeps
    · obtain ⟨inside, -, rfl⟩ := places_eq_some.mp (keeps.held ▸ here)
      simp only [Broadcast.step, Broadcast.forget, here]
      refine ⟨by rw [places_released journal rfl rfl, keeps.held], ?known, ?next, ?listeners⟩
      case known =>
        simpa [Note.released?, Note.subscribed?, or_imp, forall_and, inside] using keeps.known
      case next => simpa [Note.subscribed?] using keeps.next
      case listeners => simpa [registered, Note.subscribed?, Note.dropped?] using keeps.listeners
  | emit event =>
    rcases subject : b.subject with _ | s
    · simpa [Broadcast.step, Broadcast.emit, subject] using keeps
    · simp only [Broadcast.step, Broadcast.emit, subject]
      exact keeps.congr rfl rfl rfl subject.symm rfl
  | tell =>
    rcases running : b.running with _ | ⟨⟨number, event, _ | ⟨listener, left⟩⟩, outer⟩
    · simpa [Broadcast.step, Broadcast.tell, running] using keeps
    · simp only [Broadcast.step, Broadcast.tell, running]
      exact keeps.congr rfl rfl rfl rfl rfl
    · simp only [Broadcast.step, Broadcast.tell, running]
      exact keeps.congr rfl rfl rfl rfl rfl
  | close =>
    simp only [Broadcast.step, List.append_nil]
    exact ⟨keeps.held, keeps.known, nofun, nofun⟩

/-! ### Emissions -/

/-- The emissions under way have different numbers, and what will be emitted has not begun. -/
structure Orderly (journal : List (Note ε α)) (b : Broadcast ε α) : Prop where
  /-- Each emission is under way once. -/
  once : (b.running.map (·.number)).Nodup
  /-- It has begun. -/
  begun : ∀ f ∈ b.running, f.number < b.emissions
  /-- Nobody was told an event that has not been emitted. -/
  fresh : ∀ number, b.emissions ≤ number → told number journal = [] ∧ .ended number ∉ journal

/-- How far an emission to some listeners has come. -/
inductive Along (number : Nat) (event : ε) (listeners : List α) (journal : List (Note ε α))
    (b : Broadcast ε α) : Prop
  /-- It is under way. -/
  | running {left} (split : told number journal ++ left.map (event, ·) = listeners.map (event, ·))
      (frame : ⟨number, event, left⟩ ∈ b.running) (goesOn : .ended number ∉ journal)
  /-- It has ended. -/
  | ended (all : told number journal = listeners.map (event, ·)) (finished : .ended number ∈ journal)
      (gone : ∀ f ∈ b.running, f.number ≠ number)

/-- A note that is about no emission. -/
def Note.Apart (note : Note ε α) : Prop :=
  ∀ number, note.told? number = none ∧ note ≠ .ended number

/-- What an operation other than the innermost emission going on does to emissions: there may be a new
one. -/
lemma step_of_ne_tell (b : Broadcast ε α) {o : Operation ε α} (other : o ≠ .tell) :
    (∀ note ∈ (b.step o).2, note.Apart) ∧
      ((b.step o).1.running = b.running ∧ (b.step o).1.emissions = b.emissions ∨
        ∃ event listeners, (b.step o).1.running = ⟨b.emissions, event, listeners⟩ :: b.running ∧
          (b.step o).1.emissions = b.emissions + 1) := by
  cases o with
  | subscribe listener =>
    rcases subject : b.subject with _ | s
    · simp [Broadcast.step, Broadcast.subscribe, subject]
    · simp [Broadcast.step, Broadcast.subscribe, subject, Note.Apart, Note.told?]
  | drop k =>
    rcases here : b.held[k]? with _ | _ | subscription <;>
      simp [Broadcast.step, Broadcast.drop, here, Note.Apart, Note.told?]
  | forget k =>
    rcases here : b.held[k]? with _ | _ | subscription <;>
      simp [Broadcast.step, Broadcast.forget, here, Note.Apart, Note.told?]
  | emit event =>
    rcases subject : b.subject with _ | s
    · simp [Broadcast.step, Broadcast.emit, subject]
    · simp [Broadcast.step, Broadcast.emit, subject, Note.Apart, Note.told?]
  | tell => exact absurd rfl other
  | close => simp [Broadcast.step]

/-- Notes apart from emissions say nothing about them. -/
lemma told_of_apart {notes : List (Note ε α)} (apart : ∀ note ∈ notes, note.Apart) (number : Nat) :
    told number notes = [] ∧ .ended number ∉ notes := by
  constructor
  · exact List.filterMap_eq_nil_iff.mpr fun note mem => (apart note mem number).1
  · exact fun mem => (apart _ mem number).2 rfl

/-- The innermost emission going on leaves the emissions in order. -/
lemma Orderly.tell {journal : List (Note ε α)} {b : Broadcast ε α} (orderly : Orderly journal b) :
    Orderly (journal ++ b.tell.2) b.tell.1 := by
  obtain ⟨once, begun, fresh⟩ := orderly
  unfold Broadcast.tell
  rcases running : b.running with _ | ⟨⟨number, event, _ | ⟨listener, left⟩⟩, outer⟩
  · simpa [running] using Orderly.mk once begun fresh
  · rw [running, List.map_cons, List.nodup_cons] at once
    rw [running, List.forall_mem_cons] at begun
    refine ⟨once.2, begun.2, fun n le => ?_⟩
    have other : number ≠ n := Nat.ne_of_lt (Nat.lt_of_lt_of_le begun.1 le)
    simp [fresh n le, Note.told?, other.symm]
  · rw [running] at once
    rw [running, List.forall_mem_cons] at begun
    refine ⟨once, List.forall_mem_cons.mpr begun, fun n le => ?_⟩
    have other : number ≠ n := Nat.ne_of_lt (Nat.lt_of_lt_of_le begun.1 le)
    simp [fresh n le, Note.told?, other]

/-- Every operation leaves the emissions in order. -/
lemma Orderly.step {journal : List (Note ε α)} {b : Broadcast ε α} (orderly : Orderly journal b)
    (o : Operation ε α) : Orderly (journal ++ (b.step o).2) (b.step o).1 := by
  by_cases telling : o = .tell
  · subst telling
    exact orderly.tell
  · obtain ⟨apart, change⟩ := b.step_of_ne_tell telling
    have fresh {number : Nat} (le : b.emissions ≤ number) :
        told number (journal ++ (b.step o).2) = [] ∧ .ended number ∉ journal ++ (b.step o).2 := by
      obtain ⟨none, goesOn⟩ := orderly.fresh number le
      obtain ⟨none', goesOn'⟩ := told_of_apart apart number
      simp [none, none', goesOn, goesOn']
    rcases change with ⟨running, emissions⟩ | ⟨event, listeners, running, emissions⟩
    · refine ⟨running ▸ orderly.once, ?_, fun number le => fresh (emissions ▸ le)⟩
      rw [running, emissions]
      exact orderly.begun
    · refine ⟨?_, ?_, fun number le => fresh (by omega)⟩
      · rw [running, List.map_cons, List.nodup_cons]
        refine ⟨fun mem => ?_, orderly.once⟩
        obtain ⟨f, mem, same⟩ := List.mem_map.mp mem
        exact Nat.ne_of_lt (orderly.begun f mem) same
      · rw [running, emissions]
        intro f mem
        rcases List.mem_cons.mp mem with rfl | mem
        · exact Nat.lt_succ_self _
        · exact Nat.lt_succ_of_lt (orderly.begun f mem)

section

variable {number : Nat} {event : ε} {listeners : List α} {journal : List (Note ε α)}
  {b : Broadcast ε α}

/-- The innermost emission going on brings an emission nearer to its end, or is another one. -/
lemma Along.tell (along : Along number event listeners journal b) (orderly : Orderly journal b) :
    Along number event listeners (journal ++ b.tell.2) b.tell.1 := by
  have once := orderly.once
  unfold Broadcast.tell
  rcases running : b.running with _ | ⟨⟨n, e, left⟩, outer⟩
  · simpa using along
  · rw [running, List.map_cons, List.nodup_cons] at once
    -- Another emission has another number.
    have apart {left' : List α} (mem : ⟨number, event, left'⟩ ∈ outer) : n ≠ number := fun same =>
      once.1 (List.mem_map.mpr ⟨_, mem, same.symm⟩)
    cases along with
    | ended all finished gone =>
      rw [running, List.forall_mem_cons] at gone
      obtain ⟨other, gone⟩ := gone
      rcases left with _ | ⟨listener, left⟩
      · exact .ended (by simp [all, Note.told?]) (by simp [finished]) gone
      · exact .ended (by simpa [Note.told?, other] using all) (by simp [finished])
          (List.forall_mem_cons.mpr ⟨other, gone⟩)
    | @running left' split frame goesOn =>
      rw [running] at frame
      rcases left with _ | ⟨listener, left⟩
      · rcases List.mem_cons.mp frame with same | mem
        · cases same
          refine .ended (by simpa [Note.told?] using split) (by simp) fun f mem same => ?_
          exact once.1 (List.mem_map.mpr ⟨f, mem, same⟩)
        · exact .running (by simpa [Note.told?] using split) mem
            (by simpa [goesOn] using (apart mem).symm)
      · rcases List.mem_cons.mp frame with same | mem
        · cases same
          exact .running (by simpa [Note.told?] using split) (List.mem_cons_self ..) (by simp [goesOn])
        · exact .running (by simpa [Note.told?, apart mem] using split) (.tail _ mem)
            (by simp [goesOn])

/-- Every operation leaves an emission where it is or brings it nearer to its end. -/
lemma Along.step (along : Along number event listeners journal b) (orderly : Orderly journal b)
    (begun : number < b.emissions) (o : Operation ε α) :
    Along number event listeners (journal ++ (b.step o).2) (b.step o).1 := by
  by_cases telling : o = .tell
  · subst telling
    exact along.tell orderly
  · obtain ⟨apart, change⟩ := b.step_of_ne_tell telling
    obtain ⟨none, goesOn'⟩ := told_of_apart apart number
    cases along with
    | running split frame goesOn =>
      refine .running (by simpa [none] using split) ?_ (by simp [goesOn, goesOn'])
      rcases change with ⟨running, -⟩ | ⟨_, _, running, -⟩
      · exact running ▸ frame
      · exact running ▸ .tail _ frame
    | ended all finished gone =>
      refine .ended (by simpa [none] using all) (by simp [finished]) ?_
      rcases change with ⟨running, -⟩ | ⟨_, _, running, -⟩
      · exact running ▸ gone
      · rw [running]
        exact List.forall_mem_cons.mpr ⟨(Nat.ne_of_lt begun).symm, gone⟩

end

/-! ### Runs -/

/-- No operation makes emissions undone. -/
lemma emissions_step (b : Broadcast ε α) (o : Operation ε α) :
    b.emissions ≤ (b.step o).1.emissions := by
  by_cases telling : o = .tell
  · subst telling
    show _ ≤ b.tell.1.emissions
    unfold Broadcast.tell
    split <;> exact Nat.le_refl _
  · obtain ⟨-, ⟨-, same⟩ | ⟨_, _, -, more⟩⟩ := b.step_of_ne_tell telling
    · exact Nat.le_of_eq same.symm
    · omega

variable {journal : List (Note ε α)} {b : Broadcast ε α}

lemma Keeps.after (keeps : Keeps journal b) (operations : List (Operation ε α)) :
    Keeps (journal ++ b.journal operations) (b.after operations) := by
  induction operations generalizing b journal with
  | nil => simpa using keeps
  | cons o operations ih => simpa using ih (keeps.step o)

lemma Orderly.after (orderly : Orderly journal b) (operations : List (Operation ε α)) :
    Orderly (journal ++ b.journal operations) (b.after operations) := by
  induction operations generalizing b journal with
  | nil => simpa using orderly
  | cons o operations ih => simpa using ih (orderly.step o)

lemma Along.after {number : Nat} {event : ε} {listeners : List α}
    (along : Along number event listeners journal b) (orderly : Orderly journal b)
    (begun : number < b.emissions) (operations : List (Operation ε α)) :
    Along number event listeners (journal ++ b.journal operations) (b.after operations) := by
  induction operations generalizing b journal with
  | nil => simpa using along
  | cons o operations ih =>
    simpa using ih (along.step orderly begun o) (orderly.step o)
      (Nat.lt_of_lt_of_le begun (b.emissions_step o))

lemma keeps_start : Keeps [] ({} : Broadcast ε α) :=
  ⟨rfl, nofun, by rintro _ ⟨⟩; rfl, by rintro _ ⟨⟩; rfl⟩

lemma orderly_start : Orderly [] ({} : Broadcast ε α) :=
  ⟨List.nodup_nil, nofun, fun _ _ => ⟨rfl, nofun⟩⟩

/-- Those who stand are the listeners of the subject. -/
lemma Keeps.audience_eq (keeps : Keeps journal b) {s : Subject α} (subject : b.subject = some s) :
    s.audience = standing journal := by
  rw [Subject.audience, keeps.listeners s subject, map_registered]

/-- An emission goes to those who stand when it starts. -/
lemma along_emit (keeps : Keeps journal b) (orderly : Orderly journal b) {s : Subject α}
    (subject : b.subject = some s) (event : ε) :
    Along b.emissions event (standing journal) (journal ++ (b.emit event).2) (b.emit event).1 := by
  obtain ⟨none, goesOn⟩ := orderly.fresh b.emissions (Nat.le_refl _)
  simp only [Broadcast.emit, subject]
  rw [← keeps.audience_eq subject]
  exact .running (by simp [none, Note.told?]) (List.mem_cons_self ..) (by simp [goesOn])

/-- Whatever is done after an emission has started, those who stood when it did and have not been told
are left. -/
lemma exists_left (keeps : Keeps journal b) (orderly : Orderly journal b) {s : Subject α}
    (subject : b.subject = some s) (event : ε) (later : List (Operation ε α)) :
    ∃ left, told b.emissions (journal ++ b.journal (.emit event :: later)) ++ left.map (event, ·) =
        (standing journal).map (event, ·) ∧
      (.ended b.emissions ∈ journal ++ b.journal (.emit event :: later) → left = []) ∧
      (.ended b.emissions ∉ journal ++ b.journal (.emit event :: later) →
        ⟨b.emissions, event, left⟩ ∈ (b.after (.emit event :: later)).running) := by
  have begun : b.emissions < (b.emit event).1.emissions := by
    simp only [Broadcast.emit, subject, Nat.lt_succ_self]
  have along := (along_emit keeps orderly subject event).after (orderly.step (.emit event)) begun later
  rw [List.append_assoc] at along
  cases along with
  | running split frame goesOn => exact ⟨_, split, fun finished => absurd finished goesOn, fun _ => frame⟩
  | ended all finished gone =>
    exact ⟨[], (List.append_nil _).trans all, fun _ => rfl, fun goesOn => absurd finished goesOn⟩

/-- Ending a subscription does nothing to the emissions under way, nor to a subject that is gone. -/
lemma drop_frame (b : Broadcast ε α) (k : Nat) :
    (b.drop k).1.running = b.running ∧ (b.subject = none → (b.drop k).1.subject = none) := by
  unfold Broadcast.drop
  split
  · exact ⟨rfl, fun gone => by rw [gone, Option.map_none]⟩
  · exact ⟨rfl, id⟩

/-- Nothing happens if a subscription is ended that is not held. -/
lemma drop_of_gone (keeps : Keeps journal b) {k : Nat}
    (gone : k ∈ released journal ∨ (subscribed journal).length ≤ k) : b.drop k = (b, []) := by
  unfold Broadcast.drop
  split
  · rename_i subscription held
    obtain ⟨inside, here, -⟩ := places_eq_some.mp (keeps.held ▸ held)
    exact (gone.elim here (Nat.not_le_of_lt inside)).elim
  · rfl

/-- Where numbers are different, removing one of them removes one entry. -/
lemma filter_ne_of_nodup {front back : List (Nat × α)} {k : Nat} {listener : α}
    (once : ((front ++ (k, listener) :: back).map (·.1)).Nodup) :
    (front ++ (k, listener) :: back).filter (·.1 ≠ k) = front ++ back := by
  rw [List.map_append, List.map_cons, List.nodup_middle, List.nodup_cons, ← List.map_append] at once
  have others : ∀ e ∈ front ++ back, e.1 ≠ k := fun e mem same =>
    once.1 (List.mem_map.mpr ⟨e, mem, same⟩)
  rw [List.filter_append, List.filter_cons_of_neg (by simp), ← List.filter_append,
    List.filter_eq_self]
  simpa using others

/-- A subscription that is held ends for its own listener only. -/
lemma audience_drop (keeps : Keeps journal b) {s : Subject α} (subject : b.subject = some s) {k : Nat}
    (inside : k < (subscribed journal).length) (here : k ∉ released journal) :
    ∃ front listener back, (subscribed journal)[k]? = some listener ∧
      s.audience = front ++ listener :: back ∧
      (b.drop k).1.subject.map (·.audience) = some (front ++ back) := by
  have held : b.held[k]? = some (some ⟨k⟩) :=
    keeps.held ▸ places_eq_some.mpr ⟨inside, here, rfl⟩
  have there : (subscribed journal)[k]? = some (subscribed journal)[k] :=
    List.getElem?_eq_getElem inside
  have listed : (k, (subscribed journal)[k]) ∈ registered journal := by
    refine List.mem_map.mpr ⟨((subscribed journal)[k], k), List.mem_filter.mpr ⟨?_, ?_⟩, rfl⟩
    · exact List.mk_mem_zipIdx_iff_getElem?.mpr there
    · simpa using mt released_of_dropped here
  obtain ⟨front, back, split⟩ := List.append_of_mem listed
  have rest := filter_ne_of_nodup (split ▸ nodup_registered journal)
  refine ⟨front.map (·.2), _, back.map (·.2), there, ?_, ?_⟩
  · simp [Subject.audience, keeps.listeners s subject, split]
  · simp only [Broadcast.drop, held, subject, Option.map_some, Subject.audience, Subject.cancel,
      keeps.listeners s subject, split, rest, List.map_append]

end Broadcast

end Wayfinder
