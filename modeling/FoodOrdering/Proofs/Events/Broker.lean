import FoodOrdering.Events.Broker

/-!
# What a subscriber finds

A topic keeps the last of the records that were published to it, and a subscriber has a place among
them all.  Whoever has not fallen further behind than the ring reaches finds the record at their
place next, and nobody else takes them from it.
-/

namespace FoodOrdering

/-- These records were accepted by the topic, from first to last, and its ring holds the last of
them. -/
structure Topic.Holds (topic : Topic) (ringSize : Nat) (records : List (List UInt8)) : Prop where
  published : topic.published = records.length
  kept : topic.kept = records.reverse.take ringSize

namespace Broker

variable {topic : Topic} {ringSize position : Nat} {records : List (List UInt8)}
  {name : String} {id : Nat} {broker : Broker}

theorem holds_accept (h : topic.Holds ringSize records) (payload : List UInt8) :
    (Topic.accept ringSize topic payload).Holds ringSize (records ++ [payload]) := by
  constructor
  · rw [List.length_append, List.length_singleton, ← h.published]
    rfl
  · rw [List.reverse_append, List.reverse_singleton]
    show (payload :: topic.kept).take ringSize = (payload :: records.reverse).take ringSize
    rw [h.kept]
    cases ringSize with
    | zero => rfl
    | succ size =>
        rw [List.take_succ_cons, List.take_succ_cons, List.take_take,
          Nat.min_eq_left (Nat.le_succ size)]

/-- A subscriber who has not fallen behind the ring finds the record at their place. -/
theorem deliver_eq_record (h : topic.Holds ringSize records) (closed : Bool)
    (hposition : position < records.length) (hring : records.length - position ≤ ringSize) :
    Topic.deliver ringSize topic closed position =
      (.record topic.name records[position], position + 1) := by
  have hbehind : topic.published - position = records.length - position := by rw [h.published]
  have hkept : topic.kept[records.length - position - 1]? = some records[position] := by
    rw [h.kept, List.getElem?_take_of_lt (by omega), List.getElem?_reverse (by omega)]
    have hindex : records.length - 1 - (records.length - position - 1) = position := by omega
    rw [hindex, List.getElem?_eq_getElem hposition]
  unfold Topic.deliver
  dsimp only
  rw [hbehind, if_neg (by omega), if_neg (by omega), hkept]

theorem deliver_of_received (h : topic.Holds ringSize records) (closed : Bool) :
    Topic.deliver ringSize topic closed records.length =
      (if closed then .closed else .empty, records.length) := by
  unfold Topic.deliver
  dsimp only
  rw [h.published, Nat.sub_self, if_pos rfl]

theorem deliver_of_lagging (h : topic.Holds ringSize records) (closed : Bool)
    (hring : ringSize < records.length - position) :
    Topic.deliver ringSize topic closed position =
      (.lagged (records.length - position - ringSize), records.length - ringSize) := by
  unfold Topic.deliver
  dsimp only
  rw [h.published, if_neg (by omega), if_pos hring]

/-- A subscriber to a topic, with the records that the topic has accepted, has received all records
in front of a position. -/
structure Follows (broker : Broker) (id : Nat) (name : String) (records : List (List UInt8))
    (position : Nat) : Prop where
  subscriber : broker.subscriber? id = some { id, topic := name, position }
  topic : ∃ topic, broker.topic? name = some topic ∧ topic.name = name ∧
    topic.Holds broker.ringSize records
  position_le : position ≤ records.length

theorem follows_create (capacity : Nat) (name : String) :
    ((create capacity).subscribe name).2.Follows ((create capacity).subscribe name).1 name [] 0 :=
  ⟨by simp [create, subscribe, subscriber?, topic?],
    ⟨{ name, published := 0, kept := [] }, by simp [create, subscribe, topic?], rfl, rfl, by simp⟩,
    Nat.le_refl 0⟩

theorem Follows.pending_eq (h : broker.Follows id name records position) :
    broker.pending id = records.length - position := by
  obtain ⟨topic, htopic, _, hholds⟩ := h.topic
  rw [pending, h.subscriber]
  dsimp only
  rw [htopic, ← hholds.published]
  rfl

theorem Follows.subscriberCount_ne_zero (h : broker.Follows id name records position) :
    broker.subscriberCount name ≠ 0 := by
  have hmem := List.mem_of_find?_eq_some h.subscriber
  unfold subscriberCount
  rw [Ne, List.length_eq_zero_iff]
  intro hnone
  exact List.filter_eq_nil_iff.1 hnone _ hmem (beq_self_eq_true name)

/-- The broker after a record was taken into the ring of a topic. -/
def accepted (broker : Broker) (name : String) (payload : List UInt8) : Broker :=
  { broker with
    topics := broker.topics.map fun topic =>
      if topic.name == name then Topic.accept broker.ringSize topic payload else topic }

theorem publish_of_count_ne_zero (h : broker.subscriberCount name ≠ 0) {payload : List UInt8} :
    broker.publish name payload = (broker.subscriberCount name, broker.accepted name payload) :=
  if_neg h

theorem topic?_accepted (broker : Broker) (name : String) (payload : List UInt8)
    (other : String) :
    (broker.accepted name payload).topic? other =
      (broker.topic? other).map fun topic =>
        if topic.name == name then Topic.accept broker.ringSize topic payload else topic := by
  have hnames : ((fun topic : Topic => topic.name == other) ∘ fun topic =>
      if topic.name == name then Topic.accept broker.ringSize topic payload else topic) =
      fun topic => topic.name == other := by
    funext topic
    rw [Function.comp_apply]
    split
    · rfl
    · rfl
  rw [topic?, accepted, List.find?_map, hnames]
  rfl

/-- One more record of the topic. -/
theorem Follows.publish (h : broker.Follows id name records position) (payload : List UInt8) :
    (broker.publish name payload).2.Follows id name (records ++ [payload]) position := by
  obtain ⟨topic, htopic, hname, hholds⟩ := h.topic
  rw [publish_of_count_ne_zero h.subscriberCount_ne_zero]
  refine ⟨h.subscriber, ⟨Topic.accept broker.ringSize topic payload, ?_, hname, ?_⟩, ?_⟩
  · rw [topic?_accepted, htopic, Option.map_some, if_pos (beq_iff_eq.2 hname)]
  · exact holds_accept hholds payload
  · have := h.position_le
    rw [List.length_append]
    omega

/-- The broker after a subscriber has moved on. -/
def moved (broker : Broker) (id position : Nat) : Broker :=
  { broker with
    subscribers := broker.subscribers.map fun other =>
      if other.id == id then { other with position } else other }

theorem subscriber?_moved (broker : Broker) (other position id : Nat) :
    (broker.moved other position).subscriber? id =
      (broker.subscriber? id).map fun subscriber =>
        if subscriber.id == other then { subscriber with position } else subscriber := by
  have hids : ((fun subscriber : Subscriber => subscriber.id == id) ∘ fun subscriber =>
      if subscriber.id == other then { subscriber with position } else subscriber) =
      fun subscriber => subscriber.id == id := by
    funext subscriber
    rw [Function.comp_apply]
    split
    · rfl
    · rfl
  rw [subscriber?, moved, List.find?_map, hids]
  rfl

theorem Follows.moved (h : broker.Follows id name records position) {next : Nat}
    (hnext : next ≤ records.length) : (broker.moved id next).Follows id name records next := by
  refine ⟨?_, h.topic, hnext⟩
  rw [subscriber?_moved, h.subscriber, Option.map_some, if_pos (beq_self_eq_true id)]

theorem Follows.receive_eq (h : broker.Follows id name records position) :
    ∃ topic, topic.name = name ∧ topic.Holds broker.ringSize records ∧
      broker.receive id =
        (some (Topic.deliver broker.ringSize topic broker.closed position).1,
          broker.moved id (Topic.deliver broker.ringSize topic broker.closed position).2) := by
  obtain ⟨topic, htopic, hname, hholds⟩ := h.topic
  refine ⟨topic, hname, hholds, ?_⟩
  unfold receive
  rw [h.subscriber]
  dsimp only
  rw [htopic]
  rfl

/-- What is received is nothing where nothing is left, the next record, or the number of those that
were lost; a full ring is left then. -/
theorem Follows.receive_exactly (h : broker.Follows id name records position) :
    (position = records.length ∧
        (broker.receive id).1 = some (if broker.closed then .closed else .empty) ∧
        (broker.receive id).2.Follows id name records position) ∨
      (∃ hlt : position < records.length,
        (broker.receive id).1 = some (.record name records[position]) ∧
        (broker.receive id).2.Follows id name records (position + 1)) ∨
      ∃ lost, 0 < lost ∧ position + lost + broker.ringSize = records.length ∧
        (broker.receive id).1 = some (.lagged lost) ∧
        (broker.receive id).2.Follows id name records (position + lost) := by
  obtain ⟨topic, hname, hholds, hreceive⟩ := h.receive_eq
  have hle := h.position_le
  rw [hreceive]
  by_cases hlast : position = records.length
  · left
    subst hlast
    rw [deliver_of_received hholds]
    exact ⟨rfl, rfl, h.moved hle⟩
  · right
    have hlt : position < records.length := by omega
    by_cases hring : records.length - position ≤ broker.ringSize
    · left
      rw [deliver_eq_record hholds broker.closed hlt hring, hname]
      exact ⟨hlt, rfl, h.moved hlt⟩
    · right
      rw [deliver_of_lagging hholds broker.closed (Nat.lt_of_not_le hring)]
      refine ⟨records.length - position - broker.ringSize, by omega, by omega, rfl, ?_⟩
      have hplace : position + (records.length - position - broker.ringSize) =
        records.length - broker.ringSize := by omega
      rw [hplace]
      exact h.moved (Nat.sub_le _ _)

theorem Follows.receive (h : broker.Follows id name records position) :
    ∃ delivery, (broker.receive id).1 = some delivery ∧
      ((position = records.length ∧ (delivery = .empty ∨ delivery = .closed) ∧
          (broker.receive id).2.Follows id name records position) ∨
        (∃ hlt : position < records.length, delivery = .record name records[position] ∧
          (broker.receive id).2.Follows id name records (position + 1)) ∨
        ∃ lost, 0 < lost ∧ delivery = .lagged lost ∧
          (broker.receive id).2.Follows id name records (position + lost)) := by
  rcases h.receive_exactly with ⟨hlast, hdelivery, hnext⟩ | ⟨hlt, hdelivery, hnext⟩ |
    ⟨lost, hlost, -, hdelivery, hnext⟩
  · refine ⟨_, hdelivery, Or.inl ⟨hlast, ?_, hnext⟩⟩
    split
    · exact Or.inr rfl
    · exact Or.inl rfl
  · exact ⟨_, hdelivery, Or.inr (Or.inl ⟨hlt, rfl, hnext⟩)⟩
  · exact ⟨_, hdelivery, Or.inr (Or.inr ⟨lost, hlost, rfl, hnext⟩)⟩

/-! ## The ring -/

/-- Every step adds one at least. -/
theorem le_powerOfTwoFrom {candidate wanted steps : Nat} (hpos : 0 < candidate)
    (h : wanted ≤ candidate + steps) : wanted ≤ powerOfTwoFrom candidate wanted steps := by
  induction steps generalizing candidate with
  | zero => exact h
  | succ steps ih =>
      unfold powerOfTwoFrom
      split
      next hle => exact hle
      next => exact ih (Nat.mul_pos Nat.two_pos hpos) (by omega)

theorem candidate_le_powerOfTwoFrom (candidate wanted steps : Nat) :
    candidate ≤ powerOfTwoFrom candidate wanted steps := by
  induction steps generalizing candidate with
  | zero => exact Nat.le_refl _
  | succ steps ih =>
      unfold powerOfTwoFrom
      split
      next => exact Nat.le_refl _
      next => exact Nat.le_trans (Nat.le_mul_of_pos_left _ Nat.two_pos) (ih (2 * candidate))

/-- The ring has room for as many records as were asked for, and for one at least. -/
theorem le_ringSize_create (capacity : Nat) : max capacity 1 ≤ (create capacity).ringSize := by
  exact Nat.max_le.2 ⟨le_powerOfTwoFrom Nat.one_pos (Nat.le_add_left _ _),
    candidate_le_powerOfTwoFrom 1 capacity capacity⟩

/-! ## Other subscribers and other topics -/

theorem Follows.moved_of_ne (h : broker.Follows id name records position) {other : Nat}
    (hne : id ≠ other) (next : Nat) :
    (broker.moved other next).Follows id name records position := by
  refine ⟨?_, h.topic, h.position_le⟩
  rw [subscriber?_moved, h.subscriber, Option.map_some, if_neg (by simpa using hne)]

/-- A reception takes one subscriber further at most. -/
theorem receive_cases (broker : Broker) (id : Nat) :
    (broker.receive id).2 = broker ∨ ∃ next, (broker.receive id).2 = broker.moved id next := by
  unfold receive
  split
  · exact Or.inl rfl
  · split
    · exact Or.inl rfl
    · exact Or.inr ⟨_, rfl⟩

theorem Follows.receive_of_ne (h : broker.Follows id name records position) {other : Nat}
    (hne : id ≠ other) : (broker.receive other).2.Follows id name records position := by
  rcases broker.receive_cases other with hsame | ⟨next, hmoved⟩
  · rw [hsame]
    exact h
  · rw [hmoved]
    exact h.moved_of_ne hne next

theorem Follows.publish_of_ne (h : broker.Follows id name records position) {other : String}
    (hne : name ≠ other) (payload : List UInt8) :
    (broker.publish other payload).2.Follows id name records position := by
  obtain ⟨topic, htopic, hname, hholds⟩ := h.topic
  by_cases hnone : broker.subscriberCount other = 0
  · rw [Broker.publish, if_pos hnone]
    exact h
  · rw [publish_of_count_ne_zero hnone]
    refine ⟨h.subscriber, ⟨topic, ?_, hname, hholds⟩, h.position_le⟩
    rw [topic?_accepted, htopic, Option.map_some, if_neg (by simpa [hname] using hne)]

theorem subscriber?_unsubscribe_of_ne {other : Nat} (hne : id ≠ other) :
    (broker.unsubscribe other).2.subscriber? id = broker.subscriber? id := by
  unfold unsubscribe subscriber?
  rw [List.find?_filter]
  congr 1
  funext subscriber
  by_cases hid : subscriber.id = id
  · simp [hid, hne]
  · simp [hid]

theorem subscriber?_unsubscribe_self (broker : Broker) (id : Nat) :
    (broker.unsubscribe id).2.subscriber? id = none := by
  refine List.find?_eq_none.2 fun subscriber hmem hid => ?_
  obtain ⟨_, hne⟩ := List.mem_filter.1 hmem
  exact bne_iff_ne.1 hne (beq_iff_eq.1 hid)

theorem Follows.unsubscribe_of_ne (h : broker.Follows id name records position) {other : Nat}
    (hne : id ≠ other) : (broker.unsubscribe other).2.Follows id name records position :=
  ⟨(subscriber?_unsubscribe_of_ne hne).trans h.subscriber, h.topic, h.position_le⟩

/-! ## Subscribing -/

/-- Every topic holds some records. -/
def HasRings (broker : Broker) : Prop :=
  ∀ topic ∈ broker.topics, ∃ records, topic.Holds broker.ringSize records

theorem hasRings_publish (h : broker.HasRings) (name : String) (payload : List UInt8) :
    (broker.publish name payload).2.HasRings := by
  by_cases hnone : broker.subscriberCount name = 0
  · rw [publish, if_pos hnone]
    exact h
  · rw [publish_of_count_ne_zero hnone]
    intro topic htopic
    obtain ⟨before, hbefore, rfl⟩ := List.mem_map.1 htopic
    obtain ⟨records, hholds⟩ := h before hbefore
    split
    · exact ⟨_, holds_accept hholds payload⟩
    · exact ⟨records, hholds⟩

theorem topics_subscribe (broker : Broker) (name : String) :
    ((broker.topic? name).isSome ∧ (broker.subscribe name).2.topics = broker.topics) ∨
      (broker.topic? name = none ∧ (broker.subscribe name).2.topics =
        broker.topics ++ [{ name, published := 0, kept := [] }]) := by
  unfold subscribe
  cases htopic : broker.topic? name with
  | none => exact Or.inr ⟨rfl, rfl⟩
  | some topic => exact Or.inl ⟨rfl, rfl⟩

theorem holds_new (name : String) (ringSize : Nat) :
    Topic.Holds { name, published := 0, kept := [] } ringSize [] :=
  ⟨rfl, List.take_nil.symm⟩

theorem hasRings_subscribe (h : broker.HasRings) (name : String) :
    (broker.subscribe name).2.HasRings := by
  intro topic htopic
  rcases broker.topics_subscribe name with ⟨-, hsame⟩ | ⟨-, hnew⟩
  · rw [hsame] at htopic
    exact h topic htopic
  · rw [hnew] at htopic
    rcases List.mem_append.1 htopic with hold | hlast
    · exact h topic hold
    · cases List.mem_singleton.1 hlast
      exact ⟨[], holds_new name _⟩

theorem Follows.subscribe (h : broker.Follows id name records position) (other : String) :
    (broker.subscribe other).2.Follows id name records position := by
  obtain ⟨topic, htopic, hname, hholds⟩ := h.topic
  refine ⟨?_, ⟨topic, ?_, hname, hholds⟩, h.position_le⟩
  · show (broker.subscribers ++ [_]).find? _ = _
    rw [List.find?_append, show broker.subscribers.find? _ = _ from h.subscriber]
    rfl
  · rcases broker.topics_subscribe other with ⟨-, hsame⟩ | ⟨-, hnew⟩
    · rw [topic?, hsame]
      exact htopic
    · rw [topic?, hnew, List.find?_append, show broker.topics.find? _ = _ from htopic]
      rfl

/-- Whoever subscribes has nothing to receive of what was published before. -/
theorem exists_follows_subscribe (h : broker.HasRings)
    (hfresh : broker.subscriber? broker.nextId = none) (name : String) :
    ∃ older, (broker.subscribe name).2.Follows broker.nextId name older older.length := by
  have hsubscriber : (broker.subscribe name).2.subscriber? broker.nextId =
      some { id := broker.nextId, topic := name
             position := ((broker.topic? name).map Topic.published).getD 0 } := by
    show (broker.subscribers ++ [_]).find? _ = _
    rw [List.find?_append, show broker.subscribers.find? _ = _ from hfresh, Option.none_or]
    exact List.find?_cons_of_pos (beq_self_eq_true broker.nextId)
  rcases broker.topics_subscribe name with ⟨hsome, hsame⟩ | ⟨hnone, hnew⟩
  · obtain ⟨topic, htopic⟩ := Option.isSome_iff_exists.1 hsome
    obtain ⟨older, hholds⟩ := h topic (List.mem_of_find?_eq_some htopic)
    refine ⟨older, ?_, ⟨topic, ?_, ?_, hholds⟩, Nat.le_refl _⟩
    · rw [hsubscriber, htopic, ← hholds.published]
      rfl
    · rw [topic?, hsame]
      exact htopic
    · exact eq_of_beq (List.find?_some (p := fun topic : Topic => topic.name == name) htopic)
  · refine ⟨[], ?_, ⟨_, ?_, rfl, holds_new name _⟩, Nat.le_refl _⟩
    · rw [hsubscriber, hnone]
      rfl
    · rw [topic?, hnew, List.find?_append, show broker.topics.find? _ = none from hnone,
        Option.none_or]
      exact List.find?_cons_of_pos (beq_self_eq_true name)

end Broker

end FoodOrdering
