/-
Subjects and listeners.

Listeners subscribe to a subject and are told every event that is emitted while their subscription
lasts, in the order of subscription. An event goes to the listeners that are subscribed when its
emission starts; what they subscribe and cancel meanwhile counts for the next event.
-/
import Wayfinder.Text.Layout

namespace Wayfinder

/-- A point where events are emitted, with its listeners of type `α`. -/
structure Subject (α : Type) where
  /-- The number of the next subscription. -/
  next : Nat := 0
  /-- The listeners with the numbers of their subscriptions, in order of subscription. -/
  listeners : List (Nat × α) := []

/-- The right to have a listener removed; it lapses when the subscription is forgotten. -/
structure Subscription where
  /-- The number of the subscription. -/
  number : Nat
  deriving DecidableEq, Repr

namespace Subject

variable {α : Type}

/-- Add a listener. -/
def subscribe (s : Subject α) (listener : α) : Subject α × Subscription :=
  ({ next := s.next + 1, listeners := s.listeners ++ [(s.next, listener)] }, ⟨s.next⟩)

/-- End a subscription. -/
def cancel (s : Subject α) (subscription : Subscription) : Subject α :=
  { s with listeners := s.listeners.filter (·.1 ≠ subscription.number) }

/-- Who is told an event that is emitted now. -/
def audience (s : Subject α) : List α := s.listeners.map (·.2)

/-- The number of listeners. -/
def size (s : Subject α) : Nat := s.listeners.length

/-- The text of a subject. -/
def describe (s : Subject α) : String :=
  Text.record "Subject" [("listeners", toString s.size)]

end Subject

/-- The text of a subscription that is held. -/
def Subscription.describe (_ : Subscription) : String :=
  Text.record "Subscription" [("active", Text.boolean true)]

end Wayfinder
