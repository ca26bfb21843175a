import FoodOrdering.Events.Announcement
import FoodOrdering.Events.Broker

/-!
# Delivery in the background

Listeners that were given a subscription take every record that is there for it, one listener
after the other, before anything else happens.
-/

namespace FoodOrdering

structure Background where
  broker : Broker
  /-- The listeners with the subscriptions that they were given. -/
  listeners : List (Nat × Listener)

namespace Background

def start (broker : Broker) : Background :=
  { broker, listeners := [] }

/-- The subscription was given to a listener. -/
def holds (background : Background) (id : Nat) : Bool :=
  background.listeners.any fun entry => entry.1 == id

/-- Give a subscription to a fresh listener. -/
def listen (background : Background) (id : Nat) : Background :=
  { background with listeners := background.listeners ++ [(id, .fresh)] }

/-- Let listeners receive until nothing is left, and put them behind those that already did. -/
def settleAll (broker : Broker) (settled : List (Nat × Listener)) :
    List (Nat × Listener) → List EventCounter × Background
  | [] => ([], { broker, listeners := settled })
  | (id, listener) :: rest =>
      let (counters, listener, broker) := broker.drain id listener
      let (more, background) := settleAll broker (settled ++ [(id, listener)]) rest
      (counters ++ more, background)

/-- Let all listeners receive until nothing is left. -/
def settle (background : Background) : List EventCounter × Background :=
  settleAll background.broker [] background.listeners

end Background

end FoodOrdering
