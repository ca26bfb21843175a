import FoodOrdering.Events.Announcement
import FoodOrdering.Order.Event
import Std.Data.HashSet

/-!
# The notification listener

Every event of a placed order makes one notification.  An event with the order and the status of
one of the last ten thousand notified events is dropped, so that a repeated delivery makes no
second notification; a payload that is no event is dropped and changes nothing.
-/

namespace FoodOrdering

/-!
## A window of recent keys

The most recent keys, each of them once, up to a limit.  A set answers whether a key is there, and
a queue in two halves says which key is the oldest.
-/

structure Window (α : Type) [BEq α] [Hashable α] where
  seen : Std.HashSet α
  /-- The older keys, the oldest first. -/
  front : List α
  /-- The newer keys, the newest first. -/
  back : List α
  size : Nat

namespace Window

variable {α : Type} [BEq α] [Hashable α]

def empty : Window α :=
  { seen := ∅, front := [], back := [], size := 0 }

/-- The keys from the oldest to the newest. -/
def toList (window : Window α) : List α :=
  window.front ++ window.back.reverse

def contains (window : Window α) (key : α) : Bool :=
  window.seen.contains key

/-- Forget the oldest key. -/
def dropOldest (window : Window α) : Window α :=
  match window.front with
  | oldest :: front =>
      { window with seen := window.seen.erase oldest, front, size := window.size - 1 }
  | [] =>
      match window.back.reverse with
      | oldest :: front =>
          { seen := window.seen.erase oldest, front, back := [], size := window.size - 1 }
      | [] => window

/-- Add a key that is not there, and forget the oldest one if they are too many then. -/
def push (limit : Nat) (window : Window α) (key : α) : Window α :=
  let longer : Window α :=
    { seen := window.seen.insert key
      front := window.front
      back := key :: window.back
      size := window.size + 1 }
  if limit < longer.size then longer.dropOldest else longer

end Window

/-! ## Listening -/

structure Notification where
  subject : String
  body : String
  deriving DecidableEq, Repr

def Notification.ofEvent (event : OrderPlaced) : Notification :=
  { subject := "New Order Placed!"
    body :=
      "New order received. Order ID: " ++ Text.ofInt64 event.orderId ++ ", Customer ID: " ++
        Text.ofInt64 event.customerId ++ ", Restaurant ID: " ++
        Text.ofInt64 event.restaurantId ++ ", Status: " ++ event.status.name ++
        ". Thank you for using ByteBites!" }

/-- What makes two deliveries the same. -/
abbrev DeliveryKey : Type := Int64 × Order.Status

def OrderPlaced.key (event : OrderPlaced) : DeliveryKey :=
  (event.orderId, event.status)

/-- The keys of the events that were notified last. -/
abbrev Listener : Type := Window DeliveryKey

namespace Listener

/-- How many notified events are remembered. -/
def memory : Nat := 10000

def fresh : Listener := Window.empty

/-- What the handling of one payload gives. -/
structure Handled where
  notification : Option Notification
  counters : List EventCounter
  listener : Listener

def handleEvent (listener : Listener) (event : OrderPlaced) : Handled :=
  if listener.contains event.key then
    { notification := none, counters := [.consumed, .duplicateDropped], listener }
  else
    { notification := some (Notification.ofEvent event), counters := [.consumed]
      listener := listener.push memory event.key }

def handle (listener : Listener) (payload : List UInt8) : Handled :=
  match OrderPlaced.ofPayload payload with
  | .error _ => { notification := none, counters := [.malformed], listener }
  | .ok event => listener.handleEvent event

end Listener

end FoodOrdering
