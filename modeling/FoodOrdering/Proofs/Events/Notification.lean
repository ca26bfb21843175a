import FoodOrdering.Events.Announcement
import FoodOrdering.Order.Event
import FoodOrdering.Proofs.Events.Listener
import FoodOrdering.Proofs.Json.Object
import FoodOrdering.Proofs.Text.Blank
import FoodOrdering.Proofs.Text.Decimal

/-!
# What a notification tells of an order

The four values of an order go from what is announced of it over a listener into a notification.
Main statement: every listener reads the event with just these values, a fresh one notifies it in a
text that names them all, and neither the records nor the notifications of two events are ever
alike.
-/

/-! ## Events read back -/

namespace FoodOrdering.OrderPlaced

open Json Reader Reading

theorem takesAll_member (event : OrderPlaced) :
    TakesAll member {}
      [("orderId", .integer event.orderId.toInt),
        ("restaurantId", .integer event.restaurantId.toInt),
        ("customerId", .integer event.customerId.toInt), ("status", .text event.status.name)]
      { orderId := some event.orderId, restaurantId := some event.restaurantId
        customerId := some event.customerId, status := some event.status } :=
  have hstatus := reads_choice (Order.Status.ofName?_name event.status)
  .cons (fun rest hrest => (gives_once (reads_int64 event.orderId) hrest).bind (gives_done _ rest))
    <| .cons (fun rest hrest =>
      (gives_once (reads_int64 event.restaurantId) hrest).bind (gives_done _ rest))
    <| .cons (fun rest hrest =>
      (gives_once (reads_int64 event.customerId) hrest).bind (gives_done _ rest))
    <| .cons (fun rest hrest => (gives_once hstatus hrest).bind (gives_done _ rest))
    <| .nil _

/-- An event is read back from what is published of it. -/
theorem ofPayload_payload (event : OrderPlaced) : ofPayload event.payload = .ok event := by
  rw [payload, utf8_render, ← List.append_nil (Text.charBytes event.toJson.chars)]
  apply read_of_gives
  apply gives_record
  exact (gives_members event.takesAll_member []).bind (gives_done _ _)

/-- No two events are published alike. -/
theorem payload_injective : Function.Injective payload := by
  intro first second heq
  have hread := ofPayload_payload first
  rw [heq, ofPayload_payload] at hread
  exact (Except.ok.inj hread).symm

end FoodOrdering.OrderPlaced

/-! ## Notifications -/

namespace FoodOrdering

theorem Order.Status.name_injective : Function.Injective Order.Status.name := by
  intro first second heq
  have hread := ofName?_name first
  rw [heq, ofName?_name] at hread
  exact (Option.some.inj hread).symm

namespace OrderPlaced

/-- An event has the values of an order. -/
structure IsOf (event : OrderPlaced) (order : Order) : Prop where
  orderId : event.orderId = order.id
  restaurantId : event.restaurantId = order.restaurantId
  customerId : event.customerId = order.customerId
  status : event.status = order.status

theorem ofOrder_isOf (order : Order) : (ofOrder order).IsOf order :=
  ⟨rfl, rfl, rfl, rfl⟩

/-- What is to be told of an event: each of its values, behind what it is the value of and in front
of a mark that is part of no value. -/
def statements (event : OrderPlaced) : List String :=
  ["Order ID: " ++ Text.ofInt64 event.orderId ++ ", ",
    "Customer ID: " ++ Text.ofInt64 event.customerId ++ ", ",
    "Restaurant ID: " ++ Text.ofInt64 event.restaurantId ++ ", ",
    "Status: " ++ event.status.name ++ ". "]

end OrderPlaced

namespace Notification

/-- All that is to be told of an event stands in the text of a notification. -/
def Names (notification : Notification) (event : OrderPlaced) : Prop :=
  ∀ statement ∈ event.statements, statement.toList <:+: notification.body.toList

theorem body_ofEvent (event : OrderPlaced) :
    (ofEvent event).body.toList =
      "New order received. ".toList ++ (event.statements.map String.toList).flatten ++
        "Thank you for using ByteBites!".toList := by
  simp [ofEvent, OrderPlaced.statements]

theorem ofEvent_names (event : OrderPlaced) : (ofEvent event).Names event := by
  intro statement hstatement
  have hinside : statement.toList <:+: (event.statements.map String.toList).flatten :=
    List.infix_of_mem_flatten (List.mem_map_of_mem hstatement)
  rw [body_ofEvent]
  exact hinside.trans (List.infix_append _ _ _)

/-! ## No two notifications alike -/

theorem comma_notMem_ofInt64 (value : Int64) : ',' ∉ (Text.ofInt64 value).toList := by
  rw [Text.ofInt64, String.toList_ofList]
  intro hmem
  exact absurd (Text.range_of_mem_writeInt hmem).1 (by decide)

/-- A number in front of a comma ends there. -/
theorem ofInt64_append_inj {first second : Int64} {mark rest others : List Char}
    (hmark : mark.head? = some ',')
    (h : (Text.ofInt64 first).toList ++ (mark ++ rest) =
      (Text.ofInt64 second).toList ++ (mark ++ others)) :
    first = second ∧ rest = others := by
  obtain ⟨tail, rfl⟩ := List.head?_eq_some_iff.1 hmark
  have hnumber : ∀ (value : Int64) (behind : List Char),
      ((Text.ofInt64 value).toList ++ (',' :: tail ++ behind)).takeWhile (· != ',') =
        (Text.ofInt64 value).toList := by
    intro value behind
    have hno : ∀ c ∈ (Text.ofInt64 value).toList, (c != ',') = true :=
      fun c hc => bne_iff_ne.2 fun heq => comma_notMem_ofInt64 value (heq ▸ hc)
    rw [List.takeWhile_append_of_pos hno, List.cons_append,
      List.takeWhile_cons_of_neg (by decide), List.append_nil]
  have htext : (Text.ofInt64 first).toList = (Text.ofInt64 second).toList := by
    rw [← hnumber first rest, h, hnumber]
  rw [htext] at h
  exact ⟨Text.ofInt64_injective (String.toList_injective htext),
    List.append_cancel_left (List.append_cancel_left h)⟩

theorem ofEvent_injective : Function.Injective ofEvent := by
  intro first second heq
  have hbody := congrArg String.toList (congrArg body heq)
  simp only [ofEvent, String.toList_append, List.append_assoc] at hbody
  -- The text is taken from the front, one number with the words behind it at a time.
  obtain ⟨horder, hbody⟩ := ofInt64_append_inj (by decide) (List.append_cancel_left hbody)
  obtain ⟨hcustomer, hbody⟩ := ofInt64_append_inj (by decide) hbody
  obtain ⟨hrestaurant, hbody⟩ := ofInt64_append_inj (by decide) hbody
  have hstatus := Order.Status.name_injective
    (String.toList_injective (List.append_cancel_right hbody))
  cases first
  cases second
  cases horder
  cases hcustomer
  cases hrestaurant
  cases hstatus
  rfl

end Notification

/-! ## From the publisher to the listener -/

namespace Listener

/-- What is announced of an order is read by every listener as the event with the order's four
values; a fresh listener takes it for consumed, and makes a notification that names these values
and that no other event makes.  Two events that are announced alike are the same. -/
theorem announced_orders_are_notified (topic : String) :
    (∀ order : Order, ∃ event : OrderPlaced, event.IsOf order ∧
      OrderPlaced.ofPayload (Announcement.ofOrder topic order).payload = .ok event ∧
      (∀ listener : Listener,
        listener.handle (Announcement.ofOrder topic order).payload = listener.handleEvent event) ∧
      ∃ notification,
        (fresh.handle (Announcement.ofOrder topic order).payload).notification =
          some notification ∧
        (fresh.handle (Announcement.ofOrder topic order).payload).counters = [.consumed] ∧
        notification.Names event ∧
        ∀ other, Notification.ofEvent other = notification → other = event) ∧
      ∀ first second : OrderPlaced, first.payload = second.payload → first = second := by
  refine ⟨?_, fun first second heq => OrderPlaced.payload_injective heq⟩
  intro order
  have hread : OrderPlaced.ofPayload (Announcement.ofOrder topic order).payload =
      .ok (.ofOrder order) :=
    OrderPlaced.ofPayload_payload (.ofOrder order)
  have hfresh := handleEvent_of_new (contains_fresh (OrderPlaced.ofOrder order).key)
  refine ⟨.ofOrder order, OrderPlaced.ofOrder_isOf order, hread, fun _ => handle_of_ok hread,
    .ofEvent (.ofOrder order), ?_, ?_, Notification.ofEvent_names _, ?_⟩
  · rw [handle_of_ok hread, hfresh]
  · rw [handle_of_ok hread, hfresh]
  · exact fun other heq => Notification.ofEvent_injective heq

/-- The least numbers there are arrive as well. -/
theorem least_order_is_notified :
    let order : Order := { Order.pending Int64.minValue Int64.minValue [] ⟨0⟩ with
      id := Int64.minValue
      status := .cancelled }
    let event : OrderPlaced := ⟨Int64.minValue, Int64.minValue, Int64.minValue, .cancelled⟩
    (OrderPlaced.ofOrder order).payload = event.payload ∧ OrderPlaced.ofOrder order = event ∧
      ∃ notification,
        (fresh.handle (Announcement.ofOrder "order-placed" order).payload).notification =
          some notification ∧
        "Customer ID: -9223372036854775808, ".toList <:+: notification.body.toList := by
  intro order event
  have hpayload : (OrderPlaced.ofOrder order).payload = event.payload := rfl
  obtain ⟨hnotified, hinjective⟩ := announced_orders_are_notified "order-placed"
  obtain ⟨told, hof, -, -, notification, hnotification, -, hnames, -⟩ := hnotified order
  refine ⟨hpayload, hinjective _ _ hpayload, notification, hnotification, hnames _ ?_⟩
  have hleast : "Customer ID: -9223372036854775808, " =
    "Customer ID: " ++ Text.ofInt64 order.customerId ++ ", " := by decide
  rw [OrderPlaced.statements, hof.customerId, hleast]
  exact List.mem_cons_of_mem _ List.mem_cons_self

end Listener

end FoodOrdering
