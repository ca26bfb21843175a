import FoodOrdering.Events.Listener

/-!
# The broker

Records are handed to everyone who is subscribed to their topic when they are published.  A topic
keeps a ring of its last records; a subscriber that falls further behind loses the oldest ones, is
told once how many, and goes on with the oldest that is kept.  A record for a topic without
subscribers is dropped.
-/

namespace FoodOrdering

structure Topic where
  name : String
  /-- How many records were accepted so far. -/
  published : Nat
  /-- The last records, the newest first. -/
  kept : List (List UInt8)

structure Subscriber where
  id : Nat
  topic : String
  /-- The number of the next record to receive. -/
  position : Nat
  deriving DecidableEq, Repr

structure Broker where
  /-- How many records each ring holds. -/
  ringSize : Nat
  topics : List Topic
  subscribers : List Subscriber
  nextId : Nat
  closed : Bool

/-- What a subscriber finds. -/
inductive Delivery where
  | record (topic : String) (payload : List UInt8)
  /-- So many records were lost since the last one. -/
  | lagged (lost : Nat)
  | empty
  | closed
  deriving DecidableEq, Repr

namespace Broker

/-- The least power of two that is not less; `steps` bounds the search. -/
def powerOfTwoFrom (candidate wanted : Nat) : Nat → Nat
  | 0 => candidate
  | steps + 1 =>
      if wanted ≤ candidate then candidate else powerOfTwoFrom (2 * candidate) wanted steps

/-- A broker whose rings hold at least `capacity` records and at least one. -/
def create (capacity : Nat) : Broker :=
  { ringSize := powerOfTwoFrom 1 capacity capacity, topics := [], subscribers := []
    nextId := 0, closed := false }

def topic? (broker : Broker) (name : String) : Option Topic :=
  broker.topics.find? fun topic => topic.name == name

def subscriber? (broker : Broker) (id : Nat) : Option Subscriber :=
  broker.subscribers.find? fun subscriber => subscriber.id == id

/-- How many subscribers a topic has. -/
def subscriberCount (broker : Broker) (name : String) : Nat :=
  (broker.subscribers.filter fun subscriber => subscriber.topic == name).length

/-- Subscribe to what is published from now on. -/
def subscribe (broker : Broker) (name : String) : Nat × Broker :=
  let position := ((broker.topic? name).map Topic.published).getD 0
  let topics :=
    if (broker.topic? name).isSome then broker.topics
    else broker.topics ++ [{ name, published := 0, kept := [] }]
  (broker.nextId,
    { broker with
      topics
      subscribers := broker.subscribers ++ [{ id := broker.nextId, topic := name, position }]
      nextId := broker.nextId + 1 })

/-- Take one more record into the ring. -/
def Topic.accept (ringSize : Nat) (topic : Topic) (payload : List UInt8) : Topic :=
  { topic with
    published := topic.published + 1
    kept := (payload :: topic.kept).take ringSize }

/-- Hand a record to the subscribers of a topic; the answer is their number. -/
def publish (broker : Broker) (name : String) (payload : List UInt8) : Nat × Broker :=
  let count := broker.subscriberCount name
  if count = 0 then (0, broker)
  else
    (count,
      { broker with
        topics := broker.topics.map fun topic =>
          if topic.name == name then Topic.accept broker.ringSize topic payload else topic })

/-- What a subscriber at this position finds, and its position afterwards. -/
def Topic.deliver (ringSize : Nat) (topic : Topic) (closed : Bool) (position : Nat) :
    Delivery × Nat :=
  let behind := topic.published - position
  if behind = 0 then (if closed then .closed else .empty, position)
  else if ringSize < behind then (.lagged (behind - ringSize), topic.published - ringSize)
  else
    match topic.kept[behind - 1]? with
    | some payload => (.record topic.name payload, position + 1)
    | none => (.empty, position)

/-- The next delivery to a subscriber, or none if there is no such subscriber. -/
def receive (broker : Broker) (id : Nat) : Option Delivery × Broker :=
  match broker.subscriber? id with
  | none => (none, broker)
  | some subscriber =>
      match broker.topic? subscriber.topic with
      | none => (some .empty, broker)
      | some topic =>
          let (delivery, position) :=
            Topic.deliver broker.ringSize topic broker.closed subscriber.position
          (some delivery,
            { broker with
              subscribers := broker.subscribers.map fun other =>
                if other.id == id then { other with position } else other })

/-- End a subscription; the answer says whether there was one. -/
def unsubscribe (broker : Broker) (id : Nat) : Bool × Broker :=
  ((broker.subscriber? id).isSome,
    { broker with
      subscribers := broker.subscribers.filter fun subscriber => subscriber.id != id })

/-- No more records come; what is kept can still be received. -/
def close (broker : Broker) : Broker :=
  { broker with closed := true }

/-- How many records of its topic a subscriber has not received. -/
def pending (broker : Broker) (id : Nat) : Nat :=
  match broker.subscriber? id with
  | none => 0
  | some subscriber =>
      ((broker.topic? subscriber.topic).map Topic.published).getD 0 - subscriber.position

/-- Let a listener receive until nothing is left, at most so many times. -/
def drainSteps (broker : Broker) (id : Nat) (listener : Listener) :
    Nat → List EventCounter × Listener × Broker
  | 0 => ([], listener, broker)
  | steps + 1 =>
      match broker.receive id with
      | (some (.record _ payload), broker) =>
          let handled := listener.handle payload
          let (counters, last) := broker.drainSteps id handled.listener steps
          (handled.counters ++ counters, last)
      | (some (.lagged _), broker) => broker.drainSteps id listener steps
      | (_, broker) => ([], listener, broker)

/-- Let a listener receive until nothing is left. -/
def drain (broker : Broker) (id : Nat) (listener : Listener) :
    List EventCounter × Listener × Broker :=
  broker.drainSteps id listener (broker.pending id + 1)

end Broker

end FoodOrdering
