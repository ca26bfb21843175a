import FoodOrdering.Proofs.Events.Broker
import FoodOrdering.Proofs.Lists
import Mathlib.Algebra.GroupWithZero.Nat
import Mathlib.Data.List.Induction

/-!
# Histories of a broker

The history of a broker tells what was done to it and what came of that: which records were sent
to a topic, and which of them a subscriber received or has lost.  Where everything that a subscriber
found fits what was sent before, it received the records in the order in which they were sent, and
all of them as long as it kept up with the ring.
-/

namespace FoodOrdering

namespace Broker

/-! ## Histories -/

/-- What can be done to a broker. -/
inductive Step where
  | subscribe (topic : String)
  | publish (topic : String) (payload : List UInt8)
  | receive (id : Nat)
  | drop (id : Nat)

/-- What was done, and what came of it. -/
inductive Event where
  | subscribed (topic : String) (id : Nat)
  | published (topic : String) (payload : List UInt8) (count : Nat)
  | received (id : Nat) (delivery : Option Delivery)
  | dropped (id : Nat) (wasThere : Bool)

def Step.run (broker : Broker) : Step → Event × Broker
  | .subscribe topic =>
      let (id, later) := broker.subscribe topic
      (.subscribed topic id, later)
  | .publish topic payload =>
      let (count, later) := broker.publish topic payload
      (.published topic payload count, later)
  | .receive id =>
      let (delivery, later) := broker.receive id
      (.received id delivery, later)
  | .drop id =>
      let (wasThere, later) := broker.unsubscribe id
      (.dropped id wasThere, later)

/-- A broker with its history. -/
structure Trace where
  history : List Event
  broker : Broker

def Trace.step (trace : Trace) (step : Step) : Trace :=
  { history := trace.history ++ [(step.run trace.broker).1]
    broker := (step.run trace.broker).2 }

/-- What comes of some steps with a new broker. -/
def trace (capacity : Nat) (steps : List Step) : Trace :=
  steps.foldl Trace.step { history := [], broker := create capacity }

namespace Event

/-- The id that a new subscriber was given. -/
def newId? : Event → Option Nat
  | .subscribed _ id => some id
  | _ => none

/-- The record that was published to a topic. -/
def sentTo? (name : String) : Event → Option (List UInt8)
  | .published topic payload _ => if topic = name then some payload else none
  | _ => none

/-- What a subscriber found. -/
def deliveryTo? (id : Nat) : Event → Option Delivery
  | .received other delivery => if other = id then delivery else none
  | _ => none

/-- The subscribers of a topic after an event. -/
def subscribers (name : String) (before : List Nat) : Event → List Nat
  | .subscribed topic id => if topic = name then before ++ [id] else before
  | .dropped id _ => before.filter fun other => other != id
  | .published _ _ _ | .received _ _ => before

end Event

/-- The ids that were given to subscribers. -/
def ids (history : List Event) : List Nat :=
  history.filterMap Event.newId?

/-- The records that were published to a topic. -/
def sent (name : String) (history : List Event) : List (List UInt8) :=
  history.filterMap (Event.sentTo? name)

/-- What a subscriber found, time after time. -/
def deliveries (id : Nat) (history : List Event) : List Delivery :=
  history.filterMap (Event.deliveryTo? id)

/-- The subscribers of a topic who are there after a history. -/
def live (name : String) (history : List Event) : List Nat :=
  history.foldl (Event.subscribers name) []

end Broker

namespace Delivery

def payload? : Delivery → Option (List UInt8)
  | .record _ payload => some payload
  | .lagged _ | .empty | .closed => none

/-- How many records a delivery leads past, one that is received or those that are lost. -/
def past : Delivery → Nat
  | .record _ _ => 1
  | .lagged lost => lost
  | .empty | .closed => 0

/-- What a subscriber may find who is past so many of the records that were sent: the next one;
the number of those that were lost, with as many left as the capacity says; or nothing, where
nothing is left. -/
def Fits (capacity : Nat) (name : String) (sent : List (List UInt8)) (place : Nat) :
    Delivery → Prop
  | .record topic payload => topic = name ∧ sent[place]? = some payload
  | .lagged lost => 0 < lost ∧ place + lost + max capacity 1 ≤ sent.length
  | .empty => place = sent.length
  | .closed => False

end Delivery

namespace Broker

/-- The records that a subscriber received. -/
def received (id : Nat) (history : List Event) : List (List UInt8) :=
  (deliveries id history).filterMap Delivery.payload?

/-- How many records a subscriber is past. -/
def place (id : Nat) (history : List Event) : Nat :=
  ((deliveries id history).map Delivery.past).sum

/-- How many records of a topic a subscriber has neither received nor lost. -/
def behind (name : String) (id : Nat) (history : List Event) : Nat :=
  (sent name history).length - place id history

/-! ## One more event -/

section Concat

variable (history : List Event) (event : Event) (name : String) (id : Nat)

theorem ids_concat : ids (history ++ [event]) = ids history ++ event.newId?.toList :=
  filterMap_concat _ history event

theorem sent_concat :
    sent name (history ++ [event]) = sent name history ++ (event.sentTo? name).toList :=
  filterMap_concat _ history event

theorem deliveries_concat :
    deliveries id (history ++ [event]) =
      deliveries id history ++ (event.deliveryTo? id).toList :=
  filterMap_concat _ history event

theorem live_concat :
    live name (history ++ [event]) = event.subscribers name (live name history) :=
  List.foldl_append

variable {event id}

theorem received_concat_of_none (h : event.deliveryTo? id = none) :
    received id (history ++ [event]) = received id history := by
  rw [received, deliveries_concat, h, Option.toList_none, List.append_nil]
  rfl

theorem place_concat_of_none (h : event.deliveryTo? id = none) :
    place id (history ++ [event]) = place id history := by
  rw [place, deliveries_concat, h, Option.toList_none, List.append_nil]
  rfl

variable {delivery : Delivery}

theorem received_concat_of_some (h : event.deliveryTo? id = some delivery) :
    received id (history ++ [event]) = received id history ++ delivery.payload?.toList := by
  rw [received, deliveries_concat, h]
  exact filterMap_concat _ _ delivery

theorem place_concat_of_some (h : event.deliveryTo? id = some delivery) :
    place id (history ++ [event]) = place id history + delivery.past := by
  rw [place, deliveries_concat, h, Option.toList_some, List.map_append, List.sum_append]
  simp [place]

end Concat

theorem deliveryTo?_eq_some {event : Event} {id : Nat} {delivery : Delivery}
    (h : event.deliveryTo? id = some delivery) : event = .received id (some delivery) := by
  cases event with
  | received other found =>
      by_cases hid : other = id
      · subst hid
        have hfound : found = some delivery := (if_pos rfl).symm.trans h
        rw [hfound]
      · cases (if_neg hid).symm.trans h
  | subscribed topic other => cases h
  | published topic payload count => cases h
  | dropped other wasThere => cases h

/-! ## What follows from what is found -/

/-- Whatever a subscriber finds fits what was sent before. -/
def AllFit (capacity : Nat) (name : String) (id : Nat) (since : List Event) : Prop :=
  ∀ earlier delivery later, since = earlier ++ .received id (some delivery) :: later →
    delivery.Fits capacity name (sent name earlier) (place id earlier)

section AllFit

variable {capacity : Nat} {name : String} {id : Nat} {since : List Event} {event : Event}

theorem AllFit.of_concat (h : AllFit capacity name id (since ++ [event])) :
    AllFit capacity name id since := by
  rintro earlier delivery later rfl
  exact h earlier delivery (later ++ [event]) (by simp)

theorem AllFit.concat (h : AllFit capacity name id since)
    (hlast : ∀ delivery, event = .received id (some delivery) →
      delivery.Fits capacity name (sent name since) (place id since)) :
    AllFit capacity name id (since ++ [event]) := by
  intro earlier delivery later heq
  rcases concat_eq_append_cons heq with ⟨-, rfl, rfl⟩ | ⟨others, -, hsince⟩
  · exact hlast delivery rfl
  · exact h earlier delivery others hsince

/-- Nobody is past records that were not sent, and what was received stands in order among those
that the subscriber is past. -/
theorem AllFit.place_le (h : AllFit capacity name id since) :
    place id since ≤ (sent name since).length ∧
      (received id since).Sublist ((sent name since).take (place id since)) := by
  induction since using List.reverseRecOn with
  | nil => exact ⟨Nat.le_refl 0, List.Sublist.refl _⟩
  | append_singleton since event ih =>
      obtain ⟨hle, hsublist⟩ := ih h.of_concat
      cases hfound : event.deliveryTo? id with
      | none =>
          rw [place_concat_of_none since hfound, received_concat_of_none since hfound, sent_concat,
            List.take_append_of_le_length hle, List.length_append]
          exact ⟨Nat.le_add_right_of_le hle, hsublist⟩
      | some delivery =>
          cases deliveryTo?_eq_some hfound
          have hfits := h since delivery [] rfl
          have hsent : sent name (since ++ [.received id (some delivery)]) = sent name since := by
            rw [sent_concat]
            exact List.append_nil _
          rw [place_concat_of_some since hfound, received_concat_of_some since hfound, hsent]
          cases delivery with
          | record topic payload =>
              obtain ⟨hlt, hpayload⟩ := List.getElem?_eq_some_iff.1 hfits.2
              refine ⟨hlt, ?_⟩
              show (received id since ++ [payload]).Sublist
                ((sent name since).take (place id since + 1))
              rw [List.take_succ_eq_append_getElem hlt, hpayload]
              exact hsublist.append_right [payload]
          | lagged lost =>
              refine ⟨Nat.le_trans (Nat.le_add_right _ _) hfits.2, ?_⟩
              rw [show (Delivery.lagged lost).payload?.toList = [] from rfl, List.append_nil]
              exact hsublist.trans (List.take_sublist_take_left (Nat.le_add_right _ _))
          | empty =>
              rw [show Delivery.empty.payload?.toList = [] from rfl, List.append_nil]
              exact ⟨hle, hsublist⟩
          | closed => exact hfits.elim

/-- Whoever has never been further behind than the capacity has received all that they are past,
and was never told of anything lost. -/
theorem AllFit.received_eq (h : AllFit capacity name id since)
    (hkeeps : ∀ earlier later, since = earlier ++ later → behind name id earlier ≤ max capacity 1) :
    received id since = (sent name since).take (place id since) ∧
      ∀ lost, .lagged lost ∉ deliveries id since := by
  induction since using List.reverseRecOn with
  | nil => exact ⟨rfl, fun _ => List.not_mem_nil⟩
  | append_singleton since event ih =>
      obtain ⟨heq, hnone⟩ := ih h.of_concat fun earlier later hsplit =>
        hkeeps earlier (later ++ [event]) (by rw [hsplit, List.append_assoc])
      have hle := h.of_concat.place_le.1
      rw [deliveries_concat]
      cases hfound : event.deliveryTo? id with
      | none =>
          rw [place_concat_of_none since hfound, received_concat_of_none since hfound, sent_concat,
            List.take_append_of_le_length hle, Option.toList_none, List.append_nil]
          exact ⟨heq, hnone⟩
      | some delivery =>
          cases deliveryTo?_eq_some hfound
          have hfits := h since delivery [] rfl
          have hsent : sent name (since ++ [.received id (some delivery)]) = sent name since := by
            rw [sent_concat]
            exact List.append_nil _
          have hbehind := hkeeps since _ rfl
          rw [place_concat_of_some since hfound, received_concat_of_some since hfound, hsent]
          cases delivery with
          | record topic payload =>
              obtain ⟨hlt, hpayload⟩ := List.getElem?_eq_some_iff.1 hfits.2
              constructor
              · show received id since ++ [payload] = (sent name since).take (place id since + 1)
                rw [List.take_succ_eq_append_getElem hlt, hpayload, heq]
              · intro lost hlost
                rcases List.mem_append.1 hlost with hold | hlast
                · exact hnone lost hold
                · cases List.mem_singleton.1 hlast
          | lagged lost =>
              obtain ⟨hlost, hroom⟩ := hfits
              unfold behind at hbehind
              omega
          | empty =>
              constructor
              · exact (List.append_nil _).trans heq
              · intro lost hlost
                rcases List.mem_append.1 hlost with hold | hlast
                · exact hnone lost hold
                · cases List.mem_singleton.1 hlast
          | closed => exact hfits.elim

end AllFit

end Broker

end FoodOrdering
