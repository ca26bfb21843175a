import FoodOrdering.Proofs.Events.History

/-!
# What subscribers receive

Main statement: whatever is done in which order, publishing counts the subscribers that are there,
and what a subscriber receives is what was published to its topic since it subscribed, in that
order; what it has lost is what it has been waiting for longest, it is told how much that is, and it
has lost nothing as long as it keeps up with the ring.
-/

namespace FoodOrdering

namespace Broker

/-! ## One subscriber -/

/-- A subscriber who is there follows what was sent since it subscribed, and all that it found so
far fits; one who is not there was dropped. -/
structure Serves (broker : Broker) (capacity : Nat) (name : String) (id : Nat)
    (since : List Event) : Prop where
  fits : AllFit capacity name id since
  answered : ∀ earlier later, since = earlier ++ .received id none :: later →
    .dropped id true ∈ earlier
  state : (.dropped id true ∈ since ∧ broker.subscriber? id = none) ∨
    ∃ older, broker.Follows id name (older ++ sent name since) (older.length + place id since)

variable {broker : Broker} {capacity : Nat} {name : String} {id : Nat} {since : List Event}

/-- One more event in which the subscriber finds nothing. -/
theorem Serves.concat (h : broker.Serves capacity name id since) {event : Event} {later : Broker}
    (hother : ∀ delivery, event ≠ .received id delivery)
    (habsent : broker.subscriber? id = none → later.subscriber? id = none)
    (hthere : ∀ records position, broker.Follows id name records position →
      (event = .dropped id true ∧ later.subscriber? id = none) ∨
        later.Follows id name (records ++ (event.sentTo? name).toList) position) :
    later.Serves capacity name id (since ++ [event]) := by
  have hfound : event.deliveryTo? id = none := by
    cases hdelivery : event.deliveryTo? id with
    | none => rfl
    | some delivery => exact absurd (deliveryTo?_eq_some hdelivery) (hother (some delivery))
  refine ⟨h.fits.concat fun delivery heq => absurd heq (hother (some delivery)), ?_, ?_⟩
  · intro earlier later heq
    rcases concat_eq_append_cons heq with ⟨-, -, hlast⟩ | ⟨others, -, hsince⟩
    · exact absurd hlast (hother none)
    · exact h.answered earlier others hsince
  · rcases h.state with ⟨hdropped, hnone⟩ | ⟨older, hfollows⟩
    · exact Or.inl ⟨List.mem_append_left _ hdropped, habsent hnone⟩
    · rcases hthere _ _ hfollows with ⟨rfl, hnone⟩ | hnext
      · exact Or.inl ⟨List.mem_append_right _ (List.mem_singleton_self _), hnone⟩
      · refine Or.inr ⟨older, ?_⟩
        rw [sent_concat, place_concat_of_none since hfound, ← List.append_assoc]
        exact hnext

theorem receive_of_none (h : broker.subscriber? id = none) :
    broker.receive id = (none, broker) := by
  unfold Broker.receive
  rw [h]

theorem Serves.receive (h : broker.Serves capacity name id since)
    (hring : max capacity 1 ≤ broker.ringSize) (hopen : broker.closed = false) :
    (broker.receive id).2.Serves capacity name id
      (since ++ [.received id (broker.receive id).1]) := by
  rcases h.state with ⟨hdropped, hnone⟩ | ⟨older, hfollows⟩
  · rw [receive_of_none hnone]
    refine ⟨h.fits.concat nofun, ?_, Or.inl ⟨List.mem_append_left _ hdropped, hnone⟩⟩
    intro earlier later heq
    rcases concat_eq_append_cons heq with ⟨-, rfl, -⟩ | ⟨others, -, hsince⟩
    · exact hdropped
    · exact h.answered earlier others hsince
  · -- What the subscriber finds among all records of the topic lies behind the older ones.
    have hnext : ∀ {delivery : Delivery}, (broker.receive id).1 = some delivery →
        delivery.Fits capacity name (sent name since) (place id since) →
        (broker.receive id).2.Follows id name (older ++ sent name since)
          (older.length + place id since + delivery.past) →
        (broker.receive id).2.Serves capacity name id
          (since ++ [.received id (broker.receive id).1]) := by
      intro delivery hdelivery hfits hlater
      rw [hdelivery]
      have hfound : (Event.received id (some delivery)).deliveryTo? id = some delivery :=
        if_pos rfl
      refine ⟨h.fits.concat fun found heq => ?_, ?_, Or.inr ⟨older, ?_⟩⟩
      · cases heq
        exact hfits
      · intro earlier later heq
        rcases concat_eq_append_cons heq with ⟨-, -, hlast⟩ | ⟨others, -, hsince⟩
        · cases hlast
        · exact h.answered earlier others hsince
      · rw [sent_concat, place_concat_of_some since hfound, ← Nat.add_assoc]
        exact (List.append_nil (sent name since)).symm ▸ hlater
    rcases hfollows.receive_exactly with ⟨hlast, hdelivery, hlater⟩ |
      ⟨hlt, hdelivery, hlater⟩ | ⟨lost, hlost, hroom, hdelivery, hlater⟩
    · rw [hopen] at hdelivery
      rw [List.length_append] at hlast
      exact hnext hdelivery (Nat.add_left_cancel hlast) hlater
    · refine hnext hdelivery ⟨rfl, ?_⟩ hlater
      rw [List.getElem_append_right (Nat.le_add_right _ _)]
      rw [List.length_append] at hlt
      simp only [Nat.add_sub_cancel_left]
      exact List.getElem?_eq_getElem (Nat.lt_of_add_lt_add_left hlt)
    · refine hnext hdelivery ⟨hlost, ?_⟩ hlater
      rw [List.length_append] at hroom
      omega

theorem Serves.subscribe (h : broker.Serves capacity name id since) (hid : id < broker.nextId)
    (topic : String) :
    (broker.subscribe topic).2.Serves capacity name id
      (since ++ [.subscribed topic broker.nextId]) := by
  refine h.concat (fun _ heq => by cases heq) (fun hnone => ?_)
    fun records position hfollows => Or.inr ?_
  · show (broker.subscribers ++ [_]).find? _ = none
    rw [List.find?_append, show broker.subscribers.find? _ = none from hnone, Option.none_or]
    exact List.find?_cons_of_neg (by simpa using Nat.ne_of_gt hid)
  · exact (List.append_nil records).symm ▸ hfollows.subscribe topic

theorem subscriber?_publish (broker : Broker) (name : String) (payload : List UInt8) (id : Nat) :
    (broker.publish name payload).2.subscriber? id = broker.subscriber? id := by
  by_cases hnone : broker.subscriberCount name = 0
  · rw [publish, if_pos hnone]
  · rw [publish_of_count_ne_zero hnone]
    rfl

theorem Serves.publish (h : broker.Serves capacity name id since) (topic : String)
    (payload : List UInt8) :
    (broker.publish topic payload).2.Serves capacity name id
      (since ++ [.published topic payload (broker.publish topic payload).1]) := by
  refine h.concat (fun _ heq => by cases heq)
    (fun hnone => (broker.subscriber?_publish topic payload id).trans hnone)
    fun records position hfollows => Or.inr ?_
  by_cases hname : topic = name
  · subst hname
    have hsent : (Event.published topic payload (broker.publish topic payload).1).sentTo?
        topic = some payload := if_pos rfl
    exact hsent ▸ hfollows.publish payload
  · have hsent : (Event.published topic payload (broker.publish topic payload).1).sentTo?
        name = none := if_neg hname
    rw [hsent, Option.toList_none, List.append_nil]
    exact hfollows.publish_of_ne (Ne.symm hname) payload

theorem Serves.receive_of_ne (h : broker.Serves capacity name id since) {other : Nat}
    (hne : id ≠ other) :
    (broker.receive other).2.Serves capacity name id
      (since ++ [.received other (broker.receive other).1]) := by
  refine h.concat (fun delivery heq => ?_) (fun hnone => ?_)
    fun records position hfollows => Or.inr ?_
  · cases heq
    exact hne rfl
  · rcases broker.receive_cases other with hsame | ⟨next, hmoved⟩
    · rw [hsame]
      exact hnone
    · rw [hmoved, subscriber?_moved, hnone]
      rfl
  · exact (List.append_nil records).symm ▸ hfollows.receive_of_ne hne

theorem Serves.drop (h : broker.Serves capacity name id since) (other : Nat) :
    (broker.unsubscribe other).2.Serves capacity name id
      (since ++ [.dropped other (broker.unsubscribe other).1]) := by
  by_cases hother : id = other
  · subst hother
    refine h.concat (fun _ heq => by cases heq)
      (fun _ => broker.subscriber?_unsubscribe_self id)
      fun records position hfollows => Or.inl ⟨?_, broker.subscriber?_unsubscribe_self id⟩
    show Event.dropped id (broker.subscriber? id).isSome = _
    rw [hfollows.subscriber]
    rfl
  · refine h.concat (fun _ heq => by cases heq)
      (fun hnone => (subscriber?_unsubscribe_of_ne hother).trans hnone)
      fun records position hfollows => Or.inr ?_
    exact (List.append_nil records).symm ▸ hfollows.unsubscribe_of_ne hother

theorem Serves.step (h : broker.Serves capacity name id since)
    (hring : max capacity 1 ≤ broker.ringSize) (hopen : broker.closed = false)
    (hid : id < broker.nextId) (step : Step) :
    (step.run broker).2.Serves capacity name id (since ++ [(step.run broker).1]) := by
  cases step with
  | subscribe topic => exact h.subscribe hid topic
  | publish topic payload => exact h.publish topic payload
  | receive other =>
      by_cases hother : id = other
      · subst hother
        exact h.receive hring hopen
      · exact h.receive_of_ne hother
  | drop other => exact h.drop other

/-! ## All of them -/

/-- The subscribers with their topics. -/
def members (broker : Broker) : List (Nat × String) :=
  broker.subscribers.map fun subscriber => (subscriber.id, subscriber.topic)

/-- The subscribers of a topic. -/
def membersOf (broker : Broker) (name : String) : List Nat :=
  (broker.members.filter fun member => member.2 == name).map Prod.fst

theorem length_membersOf (broker : Broker) (name : String) :
    (broker.membersOf name).length = broker.subscriberCount name := by
  rw [membersOf, members, List.filter_map, List.length_map, List.length_map]
  rfl

/-- Nobody subscribes or leaves. -/
structure Keeps (broker later : Broker) : Prop where
  ringSize : later.ringSize = broker.ringSize
  closed : later.closed = broker.closed
  nextId : later.nextId = broker.nextId
  members : later.members = broker.members

theorem Keeps.refl (broker : Broker) : broker.Keeps broker :=
  ⟨rfl, rfl, rfl, rfl⟩

theorem keeps_moved (broker : Broker) (id position : Nat) :
    broker.Keeps (broker.moved id position) := by
  refine ⟨rfl, rfl, rfl, ?_⟩
  unfold members moved
  rw [List.map_map]
  refine List.map_congr_left fun subscriber _ => ?_
  rw [Function.comp_apply]
  split
  · rfl
  · rfl

theorem keeps_receive (broker : Broker) (id : Nat) : broker.Keeps (broker.receive id).2 := by
  rcases broker.receive_cases id with hsame | ⟨next, hmoved⟩
  · rw [hsame]
    exact Keeps.refl broker
  · rw [hmoved]
    exact broker.keeps_moved id next

theorem publish_fst (broker : Broker) (name : String) (payload : List UInt8) :
    (broker.publish name payload).1 = broker.subscriberCount name := by
  by_cases hnone : broker.subscriberCount name = 0
  · rw [publish, if_pos hnone, hnone]
  · rw [publish_of_count_ne_zero hnone]

theorem keeps_publish (broker : Broker) (name : String) (payload : List UInt8) :
    broker.Keeps (broker.publish name payload).2 := by
  by_cases hnone : broker.subscriberCount name = 0
  · rw [publish, if_pos hnone]
    exact Keeps.refl broker
  · rw [publish_of_count_ne_zero hnone]
    exact ⟨rfl, rfl, rfl, rfl⟩

theorem members_subscribe (broker : Broker) (name : String) :
    (broker.subscribe name).2.members = broker.members ++ [(broker.nextId, name)] :=
  List.map_append

theorem members_unsubscribe (broker : Broker) (id : Nat) :
    (broker.unsubscribe id).2.members = broker.members.filter fun member => member.1 != id := by
  unfold members
  rw [List.filter_map]
  rfl

/-- What is true of a broker and of what was done to it since it was new. -/
structure Accounts (capacity : Nat) (trace : Trace) : Prop where
  ring : max capacity 1 ≤ trace.broker.ringSize
  opened : trace.broker.closed = false
  rings : trace.broker.HasRings
  ids : ids trace.history = List.range trace.broker.nextId
  known : ∀ member ∈ trace.broker.members, member.1 < trace.broker.nextId
  live : ∀ name, trace.broker.membersOf name = live name trace.history
  counts : ∀ before name payload count after,
    trace.history = before ++ .published name payload count :: after →
      count = (Broker.live name before).length
  serves : ∀ before name id since, trace.history = before ++ .subscribed name id :: since →
    trace.broker.Serves capacity name id since

theorem accounts_create (capacity : Nat) :
    Accounts capacity { history := [], broker := create capacity } where
  ring := le_ringSize_create capacity
  opened := rfl
  rings := nofun
  ids := rfl
  known := nofun
  live _ := rfl
  counts before _ _ _ _ h := by cases before <;> cases h
  serves before _ _ _ h := by cases before <;> cases h

section Run

variable {broker : Broker} (step : Step)

theorem run_hasRings (h : broker.HasRings) : (step.run broker).2.HasRings := by
  cases step with
  | subscribe topic => exact hasRings_subscribe h topic
  | publish topic payload => exact hasRings_publish h topic payload
  | receive id =>
      show (broker.receive id).2.HasRings
      rcases broker.receive_cases id with hsame | ⟨next, hmoved⟩
      · rw [hsame]
        exact h
      · rw [hmoved]
        exact h
  | drop id => exact h

theorem run_ringSize : (step.run broker).2.ringSize = broker.ringSize := by
  cases step with
  | subscribe topic => rfl
  | publish topic payload => exact (broker.keeps_publish topic payload).ringSize
  | receive id => exact (broker.keeps_receive id).ringSize
  | drop id => rfl

theorem run_closed : (step.run broker).2.closed = broker.closed := by
  cases step with
  | subscribe topic => rfl
  | publish topic payload => exact (broker.keeps_publish topic payload).closed
  | receive id => exact (broker.keeps_receive id).closed
  | drop id => rfl

/-- Ids are given in turn. -/
theorem range_nextId_run :
    List.range (step.run broker).2.nextId =
      List.range broker.nextId ++ (step.run broker).1.newId?.toList := by
  cases step with
  | subscribe topic => exact List.range_succ
  | publish topic payload =>
      show List.range (broker.publish topic payload).2.nextId = List.range broker.nextId ++ []
      rw [(broker.keeps_publish topic payload).nextId, List.append_nil]
  | receive id =>
      show List.range (broker.receive id).2.nextId = List.range broker.nextId ++ []
      rw [(broker.keeps_receive id).nextId, List.append_nil]
  | drop id => exact (List.append_nil _).symm

theorem run_known (h : ∀ member ∈ broker.members, member.1 < broker.nextId) :
    ∀ member ∈ (step.run broker).2.members, member.1 < (step.run broker).2.nextId := by
  cases step with
  | subscribe topic =>
      intro member hmem
      rcases List.mem_append.1 (broker.members_subscribe topic ▸ hmem) with hold | hlast
      · exact Nat.lt_succ_of_lt (h member hold)
      · cases List.mem_singleton.1 hlast
        exact Nat.lt_succ_self _
  | publish topic payload =>
      have hkeeps := broker.keeps_publish topic payload
      exact fun member hmem => hkeeps.nextId.symm ▸ h member (hkeeps.members ▸ hmem)
  | receive id =>
      have hkeeps := broker.keeps_receive id
      exact fun member hmem => hkeeps.nextId.symm ▸ h member (hkeeps.members ▸ hmem)
  | drop id =>
      intro member hmem
      exact h member (List.mem_filter.1 (broker.members_unsubscribe id ▸ hmem)).1

theorem run_membersOf (name : String) :
    (step.run broker).2.membersOf name =
      (step.run broker).1.subscribers name (broker.membersOf name) := by
  cases step with
  | subscribe topic =>
      show ((broker.subscribe topic).2.members.filter _).map _ = if topic = name then _ else _
      rw [members_subscribe, List.filter_append, List.map_append]
      by_cases hname : topic = name
      · rw [if_pos hname, List.filter_cons_of_pos (by simpa using hname)]
        rfl
      · rw [if_neg hname, List.filter_cons_of_neg (by simpa using hname)]
        exact List.append_nil _
  | publish topic payload =>
      show ((broker.publish topic payload).2.members.filter _).map _ = _
      rw [(broker.keeps_publish topic payload).members]
      rfl
  | receive id =>
      show ((broker.receive id).2.members.filter _).map _ = _
      rw [(broker.keeps_receive id).members]
      rfl
  | drop id =>
      show ((broker.unsubscribe id).2.members.filter _).map _ =
        (broker.membersOf name).filter fun other => other != id
      rw [members_unsubscribe, membersOf, List.filter_map, List.filter_filter, List.filter_filter]
      simp only [Function.comp_def, Bool.and_comm]

end Run

theorem Accounts.lt_nextId {trace : Trace} (h : Accounts capacity trace)
    {before : List Event} (hhistory : trace.history = before ++ .subscribed name id :: since) :
    id < trace.broker.nextId := by
  rw [← List.mem_range, ← h.ids, hhistory]
  exact List.mem_filterMap.2 ⟨.subscribed name id, by simp, rfl⟩

/-- Nothing has happened to a new subscriber yet. -/
theorem serves_subscribe (hrings : broker.HasRings)
    (hknown : ∀ member ∈ broker.members, member.1 < broker.nextId) (name : String) :
    (broker.subscribe name).2.Serves capacity name broker.nextId [] := by
  have hfresh : broker.subscriber? broker.nextId = none := by
    refine List.find?_eq_none.2 fun subscriber hmem hid => ?_
    exact Nat.ne_of_lt (hknown _ (List.mem_map_of_mem hmem)) (eq_of_beq hid)
  obtain ⟨older, hfollows⟩ := exists_follows_subscribe hrings hfresh name
  refine ⟨?_, ?_, Or.inr ⟨older, ?_⟩⟩
  · intro earlier delivery later hnil
    cases earlier <;> cases hnil
  · intro earlier later hnil
    cases earlier <;> cases hnil
  · exact (List.append_nil older).symm ▸ hfollows

theorem Accounts.step {trace : Trace} (h : Accounts capacity trace) (step : Step) :
    Accounts capacity (trace.step step) where
  ring := (run_ringSize step).symm ▸ h.ring
  opened := (run_closed step).trans h.opened
  rings := run_hasRings step h.rings
  ids := by
    show Broker.ids (trace.history ++ [_]) = List.range (step.run trace.broker).2.nextId
    rw [ids_concat, h.ids, range_nextId_run]
  known := run_known step h.known
  live name := by
    show (step.run trace.broker).2.membersOf name = Broker.live name (trace.history ++ [_])
    rw [live_concat, run_membersOf, h.live]
  counts before name payload count after hhistory := by
    rcases concat_eq_append_cons hhistory with ⟨-, hbefore, hlast⟩ | ⟨others, -, hold⟩
    · rw [← hbefore, ← h.live, length_membersOf]
      cases step with
      | publish topic _ =>
          cases hlast
          exact publish_fst _ _ _
      | subscribe topic => cases hlast
      | receive id => cases hlast
      | drop id => cases hlast
    · exact h.counts before name payload count others hold
  serves before name id since hhistory := by
    rcases concat_eq_append_cons hhistory with ⟨hsince, -, hlast⟩ | ⟨others, hsince, hold⟩
    · subst hsince
      cases step with
      | subscribe topic =>
          cases hlast
          exact serves_subscribe h.rings h.known name
      | publish topic payload => cases hlast
      | receive id => cases hlast
      | drop id => cases hlast
    · subst hsince
      exact (h.serves before name id others hold).step h.ring h.opened (h.lt_nextId hold) step

theorem accounts_trace (capacity : Nat) (steps : List Step) :
    Accounts capacity (trace capacity steps) := by
  induction steps using List.reverseRecOn with
  | nil => exact accounts_create capacity
  | append_singleton steps step ih =>
      rw [trace, List.foldl_append]
      exact ih.step step

/-- What a subscriber of a topic finds from the moment it subscribes. -/
structure Account (capacity : Nat) (name : String) (id : Nat) (since : List Event) : Prop where
  /-- It finds the next record, or how many of the oldest that it has not received are lost, or
  nothing where nothing is left. -/
  fits : AllFit capacity name id since
  /-- It finds something until it is dropped. -/
  answered : ∀ earlier later, since = earlier ++ .received id none :: later →
    .dropped id true ∈ earlier
  inOrder : (received id since).Sublist (sent name since)
  /-- Nothing is lost as long as it keeps up. -/
  lossless : (∀ earlier later, since = earlier ++ later →
      behind name id earlier ≤ max capacity 1) →
    received id since <+: sent name since ∧
      ∀ earlier delivery later, since = earlier ++ .received id (some delivery) :: later →
        (delivery = .empty ∧ received id earlier = sent name earlier) ∨
          ∃ payload, delivery = .record name payload ∧
            received id earlier ++ [payload] <+: sent name earlier

theorem Serves.account (h : broker.Serves capacity name id since) :
    Account capacity name id since where
  fits := h.fits
  answered := h.answered
  inOrder := h.fits.place_le.2.trans (List.take_sublist _ _)
  lossless hkeeps := by
    refine ⟨(h.fits.received_eq hkeeps).1 ▸ List.take_prefix _ _, ?_⟩
    rintro earlier delivery later rfl
    have hearlier : AllFit capacity name id earlier := fun first found others heq =>
      h.fits first found (others ++ .received id (some delivery) :: later) (by simp [heq])
    have hreceived := (hearlier.received_eq fun first others heq =>
      hkeeps first (others ++ .received id (some delivery) :: later) (by simp [heq])).1
    have hfits := h.fits earlier delivery later rfl
    have hbehind := hkeeps earlier _ rfl
    cases delivery with
    | record topic payload =>
        obtain ⟨rfl, hpayload⟩ := hfits
        obtain ⟨hlt, hget⟩ := List.getElem?_eq_some_iff.1 hpayload
        refine Or.inr ⟨payload, rfl, ?_⟩
        rw [hreceived, ← hget, ← List.take_succ_eq_append_getElem hlt]
        exact List.take_prefix _ _
    | lagged lost =>
        obtain ⟨hlost, hroom⟩ := hfits
        unfold behind at hbehind
        omega
    | empty =>
        refine Or.inl ⟨rfl, ?_⟩
        rw [hreceived, show place id earlier = _ from hfits, List.take_length]
    | closed => exact hfits.elim

/-- Whatever is done to a broker: no two subscribers have the same id, publishing counts the
subscribers of the topic who are there, and every subscriber finds what was published to its topic
since it subscribed. -/
theorem delivery_is_ordered_isolated_and_lossless (capacity : Nat) (steps : List Step) :
    (ids (trace capacity steps).history).Nodup ∧
      (∀ before name payload count after,
        (trace capacity steps).history = before ++ .published name payload count :: after →
          count = (live name before).length) ∧
      ∀ before name id since,
        (trace capacity steps).history = before ++ .subscribed name id :: since →
          Account capacity name id since := by
  have haccounts := accounts_trace capacity steps
  refine ⟨?_, haccounts.counts, fun before name id since hhistory => ?_⟩
  · rw [haccounts.ids]
    exact List.nodup_range
  · exact (haccounts.serves before name id since hhistory).account

example :
    deliveries 0 (trace 2 [.subscribe "a", .publish "a" [1], .publish "b" [2], .publish "a" [3],
      .publish "a" [4], .receive 0, .receive 0, .receive 0, .receive 0]).history =
      [.lagged 1, .record "a" [3], .record "a" [4], .empty] := by
  decide

end Broker

end FoodOrdering
