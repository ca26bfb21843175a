import FoodOrdering.Events.Listener
import FoodOrdering.Proofs.Events.Window

/-!
# A listener that is handed one payload after the other

A listener remembers the events that it notified last.  Main statement: over every run of payloads,
a call notifies exactly an event that is none of those, and the counters account for every call.
-/

namespace FoodOrdering.Listener

/-! ## Runs -/

/-- A payload that is handed to a listener. -/
structure Call where
  listener : Listener
  payload : List UInt8

def Call.handled (call : Call) : Handled :=
  call.listener.handle call.payload

/-- The calls by which a listener is handed payloads, each of them to the listener that the one
before it left. -/
def calls (listener : Listener) : List (List UInt8) → List Call
  | [] => []
  | payload :: rest =>
      let call : Call := { listener, payload }
      call :: calls call.handled.listener rest

/-- The listener after it was handed some payloads. -/
def after (listener : Listener) (payloads : List (List UInt8)) : Listener :=
  payloads.foldl (fun current payload => (current.handle payload).listener) listener

/-- The key of the event that a call notified. -/
def Call.notifiedKey? (call : Call) : Option DeliveryKey :=
  if call.handled.notification.isSome then
    (OrderPlaced.ofPayload call.payload).toOption.map OrderPlaced.key
  else none

/-- The keys of the events that some calls notified, in the order of the calls. -/
def notifiedKeys (calls : List Call) : List DeliveryKey :=
  calls.filterMap Call.notifiedKey?

/-- How often some calls counted this. -/
def counted (calls : List Call) (counter : EventCounter) : Nat :=
  (calls.flatMap fun call => call.handled.counters).count counter

/-- How many notifications some calls made. -/
def notifications (calls : List Call) : Nat :=
  calls.countP fun call => call.handled.notification.isSome

/-! ## One call -/

variable {listener : Listener} {payload : List UInt8}

theorem contains_fresh (key : DeliveryKey) : fresh.contains key = false :=
  Std.HashSet.contains_empty

theorem handle_of_ok {event : OrderPlaced} (h : OrderPlaced.ofPayload payload = .ok event) :
    listener.handle payload = listener.handleEvent event := by
  rw [handle, h]

theorem handleEvent_of_new {event : OrderPlaced} (h : listener.contains event.key = false) :
    listener.handleEvent event =
      ⟨some (.ofEvent event), [.consumed], listener.push memory event.key⟩ := by
  rw [handleEvent, h]
  rfl

/-- All that a call can do: it drops a payload that is no event, it drops an event whose key it
remembers, and it notifies any other one. -/
theorem handle_cases (listener : Listener) (payload : List UInt8) :
    (∃ fault, OrderPlaced.ofPayload payload = .error fault ∧
      listener.handle payload = ⟨none, [.malformed], listener⟩) ∨
    (∃ event, OrderPlaced.ofPayload payload = .ok event ∧
      listener.contains event.key = true ∧
      listener.handle payload = ⟨none, [.consumed, .duplicateDropped], listener⟩) ∨
    (∃ event, OrderPlaced.ofPayload payload = .ok event ∧
      listener.contains event.key = false ∧
      listener.handle payload =
        ⟨some (.ofEvent event), [.consumed], listener.push memory event.key⟩) := by
  cases hread : OrderPlaced.ofPayload payload with
  | error fault =>
      refine Or.inl ⟨fault, rfl, ?_⟩
      rw [handle, hread]
  | ok event =>
      cases hknown : listener.contains event.key with
      | true =>
          refine Or.inr (Or.inl ⟨event, rfl, hknown, ?_⟩)
          rw [handle_of_ok hread, handleEvent, if_pos hknown]
      | false =>
          refine Or.inr (Or.inr ⟨event, rfl, hknown, ?_⟩)
          rw [handle_of_ok hread, handleEvent_of_new hknown]

/-- The listener remembers the last of the keys that were notified, and nothing else. -/
structure Remembers (listener : Listener) (keys : List DeliveryKey) : Prop where
  coherent : listener.Coherent
  recent : listener.toList = keys.rtake memory

theorem remembers_fresh : fresh.Remembers [] :=
  ⟨Window.coherent_empty, rfl⟩

theorem Remembers.length_le {keys : List DeliveryKey} (h : listener.Remembers keys) :
    listener.toList.length ≤ memory := by
  rw [h.recent, List.rtake, List.length_drop]
  omega

/-- A call notifies an event with a key that is not remembered. -/
theorem Remembers.notifies_iff {keys : List DeliveryKey} (h : listener.Remembers keys)
    (payload : List UInt8) :
    (listener.handle payload).notification.isSome = true ↔
      ∃ event, OrderPlaced.ofPayload payload = .ok event ∧ event.key ∉ keys.rtake memory := by
  have hknown : ∀ key, listener.contains key = true ↔ key ∈ keys.rtake memory := by
    intro key
    rw [h.coherent.contains_iff, h.recent]
  rcases handle_cases listener payload with ⟨fault, hread, hhandle⟩ |
    ⟨event, hread, hold, hhandle⟩ | ⟨event, hread, hnew, hhandle⟩
  · rw [hhandle, hread]
    exact iff_of_false nofun (by rintro ⟨_, ⟨⟩, -⟩)
  · rw [hhandle, hread]
    refine iff_of_false nofun ?_
    rintro ⟨_, ⟨⟩, hnot⟩
    exact hnot ((hknown _).1 hold)
  · rw [hhandle, hread]
    refine iff_of_true rfl ⟨event, rfl, ?_⟩
    rw [← hknown, hnew]
    exact Bool.false_ne_true

/-- After a call the listener remembers the key that was notified, if one was. -/
theorem Remembers.handle {keys : List DeliveryKey} (h : listener.Remembers keys)
    (payload : List UInt8) :
    (listener.handle payload).listener.Remembers
      (keys ++ (Call.mk listener payload).notifiedKey?.toList) := by
  rw [Call.notifiedKey?, Call.handled]
  rcases handle_cases listener payload with ⟨fault, hread, hhandle⟩ |
    ⟨event, hread, hold, hhandle⟩ | ⟨event, hread, hnew, hhandle⟩
  · simpa [hhandle] using h
  · simpa [hhandle] using h
  · have hkey : event.key ∉ listener.toList := by
      rw [← h.coherent.contains_iff, hnew]
      exact Bool.false_ne_true
    simp only [hhandle, hread, Option.isSome_some, if_true]
    exact ⟨h.coherent.push hkey, h.coherent.toList_push_of_rtake h.recent⟩

/-! ## A run -/

@[simp]
theorem calls_nil (listener : Listener) : listener.calls [] = [] := rfl

@[simp]
theorem notifiedKeys_cons (call : Call) (rest : List Call) :
    notifiedKeys (call :: rest) = call.notifiedKey?.toList ++ notifiedKeys rest := by
  rw [notifiedKeys, notifiedKeys, List.filterMap_cons]
  cases call.notifiedKey? <;> rfl

/-- At each call the listener remembers what was notified before it. -/
theorem Remembers.calls {payloads : List (List UInt8)} {keys : List DeliveryKey}
    (h : listener.Remembers keys) {before later : List Call} {call : Call}
    (hcalls : listener.calls payloads = before ++ call :: later) :
    call.listener.Remembers (keys ++ notifiedKeys before) := by
  induction payloads generalizing listener keys before with
  | nil => cases List.append_eq_nil_iff.1 hcalls.symm |>.2
  | cons payload rest ih =>
      cases before with
      | nil =>
          cases hcalls
          rw [notifiedKeys, List.filterMap_nil, List.append_nil]
          exact h
      | cons first before =>
          obtain ⟨rfl, hrest⟩ := List.cons.inj hcalls
          rw [notifiedKeys_cons, ← List.append_assoc]
          exact ih (h.handle payload) hrest

theorem Remembers.after {payloads : List (List UInt8)} {keys : List DeliveryKey}
    (h : listener.Remembers keys) :
    (listener.after payloads).Remembers (keys ++ notifiedKeys (listener.calls payloads)) := by
  induction payloads generalizing listener keys with
  | nil =>
      rw [calls_nil, notifiedKeys, List.filterMap_nil, List.append_nil]
      exact h
  | cons payload rest ih =>
      rw [Listener.calls, notifiedKeys_cons, ← List.append_assoc]
      exact ih (h.handle payload)

/-! ## What is counted -/

theorem map_payload_calls (listener : Listener) (payloads : List (List UInt8)) :
    (listener.calls payloads).map Call.payload = payloads := by
  induction payloads generalizing listener with
  | nil => rfl
  | cons payload rest ih => exact congrArg (payload :: ·) (ih _)

theorem counted_cons (call : Call) (rest : List Call) (counter : EventCounter) :
    counted (call :: rest) counter =
      call.handled.counters.count counter + counted rest counter := by
  rw [counted, List.flatMap_cons, List.count_append]
  rfl

/-- What is consumed is notified or dropped, and what is not consumed is no event. -/
theorem Call.count_counters (call : Call) :
    call.handled.counters.count .consumed =
        (if call.handled.notification.isSome then 1 else 0) +
          call.handled.counters.count .duplicateDropped ∧
      call.handled.counters.count .consumed + call.handled.counters.count .malformed = 1 := by
  unfold handled
  rcases handle_cases call.listener call.payload with ⟨fault, hread, hhandle⟩ |
    ⟨event, hread, hold, hhandle⟩ | ⟨event, hread, hnew, hhandle⟩
  all_goals
    rw [hhandle]
    exact ⟨rfl, rfl⟩

theorem counted_consumed (calls : List Call) :
    counted calls .consumed = notifications calls + counted calls .duplicateDropped := by
  induction calls with
  | nil => rfl
  | cons call rest ih =>
      have hcall := call.count_counters.1
      rw [counted_cons, counted_cons, ih, hcall, notifications, notifications, List.countP_cons]
      omega

theorem counted_consumed_add_malformed (calls : List Call) :
    counted calls .consumed + counted calls .malformed = calls.length := by
  induction calls with
  | nil => rfl
  | cons call rest ih =>
      have hcall := call.count_counters.2
      rw [counted_cons, counted_cons, List.length_cons]
      omega

/-! ## The window -/

/-- What a fresh listener does that is handed these payloads: what it notifies, what it remembers at
every moment, and what it counts. -/
structure Deduplicates (payloads : List (List UInt8)) : Prop where
  payloads_eq : (fresh.calls payloads).map Call.payload = payloads
  notifies_iff : ∀ before call later, fresh.calls payloads = before ++ call :: later →
    (call.handled.notification.isSome = true ↔
      ∃ event, OrderPlaced.ofPayload call.payload = .ok event ∧
        event.key ∉ (notifiedKeys before).rtake memory)
  coherent : ∀ call ∈ fresh.calls payloads,
    call.listener.Coherent ∧ call.listener.toList.length ≤ memory
  coherent_after :
    (fresh.after payloads).Coherent ∧ (fresh.after payloads).toList.length ≤ memory
  malformed : ∀ call ∈ fresh.calls payloads,
    (∀ event, OrderPlaced.ofPayload call.payload ≠ .ok event) →
      call.handled.listener = call.listener
  consumed : counted (fresh.calls payloads) .consumed =
    notifications (fresh.calls payloads) + counted (fresh.calls payloads) .duplicateDropped
  all_counted : counted (fresh.calls payloads) .consumed +
    counted (fresh.calls payloads) .malformed = payloads.length

/-- Over every run of payloads a listener notifies the events that are none of the ten thousand that
it notified last, remembers exactly those, and counts what it does. -/
theorem deduplication_is_exact (payloads : List (List UInt8)) : Deduplicates payloads where
  payloads_eq := map_payload_calls fresh payloads
  notifies_iff before call later hcalls :=
    (remembers_fresh.calls hcalls).notifies_iff call.payload
  coherent call hmem := by
    obtain ⟨before, later, hcalls⟩ := List.append_of_mem hmem
    have hremembers := remembers_fresh.calls hcalls
    exact ⟨hremembers.coherent, hremembers.length_le⟩
  coherent_after :=
    have hremembers := remembers_fresh.after
    ⟨hremembers.coherent, hremembers.length_le⟩
  malformed call _ hnone := by
    rcases handle_cases call.listener call.payload with ⟨fault, hread, hhandle⟩ |
      ⟨event, hread, -, -⟩ | ⟨event, hread, -, -⟩
    · rw [Call.handled, hhandle]
    · exact absurd hread (hnone event)
    · exact absurd hread (hnone event)
  consumed := counted_consumed _
  all_counted := by
    rw [counted_consumed_add_malformed, ← List.length_map, map_payload_calls]

end FoodOrdering.Listener
