import FoodOrdering.Metrics
import FoodOrdering.Order.Event

/-!
# Announcements of placed orders

After an order was stored its event is handed to a publisher once.  The publisher may accept it,
refuse it or never answer; the order stays stored in every case.
-/

namespace FoodOrdering

/-! ## What is counted of events -/

inductive EventCounter where
  | published (topic : String)
  /-- An order was stored, and its event never reached the broker. -/
  | publishFailed (topic kind : String)
  | consumed
  | duplicateDropped
  | malformed
  deriving DecidableEq, Repr

def EventCounter.measurement : EventCounter → Measurement
  | .published topic => .one "bb_events.published" [("topic", topic)]
  | .publishFailed topic kind =>
      .one "bb_events.publish_failed" [("topic", topic), ("kind", kind)]
  | .consumed => .one "bb_events.consumed" []
  | .duplicateDropped => .one "bb_events.duplicates_dropped" []
  | .malformed => .one "bb_events.malformed" []

/-! ## Announcing -/

/-- Why a record does not reach a topic. -/
inductive PublishError where
  | serialization (message : String)
  | unavailable (message : String)
  deriving DecidableEq, Repr

namespace PublishError

def kind : PublishError → String
  | .serialization _ => "serialization"
  | .unavailable _ => "unavailable"

def message : PublishError → String
  | .serialization message => "Failed to serialize event: " ++ message
  | .unavailable message => "Broker unavailable: " ++ message

end PublishError

/-- A record on its way to a topic. -/
structure Announcement where
  topic : String
  payload : List UInt8
  deriving DecidableEq, Repr

namespace Announcement

/-- The one record that tells of an order. -/
def ofOrder (topic : String) (order : Order) : Announcement :=
  { topic, payload := (OrderPlaced.ofOrder order).payload }

/-- What is counted when the publisher has answered with a number of receivers or an error. -/
def counter (topic : String) : Except PublishError Nat → EventCounter
  | .ok _ => .published topic
  | .error error => .publishFailed topic error.kind

end Announcement

/-- How a publisher answers; none is no answer at all. -/
abbrev Publisher : Type := Announcement → Option (Except PublishError Nat)

end FoodOrdering
