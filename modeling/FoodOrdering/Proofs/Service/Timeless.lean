import FoodOrdering.Proofs.Http.Response
import FoodOrdering.Service.Basic
import FoodOrdering.Proofs.Store.Timeless

/-!
# Answers without their time stamps

Two answers are alike if they differ in their time stamps only: in when they were given, and in when
the records that they show were made.
-/

namespace FoodOrdering

namespace Json

/-- A member of this name is a time stamp. -/
def isStamp (name : String) : Bool :=
  name == "timestamp" || name == "createdAt"

mutual

/-- The value with null for each time stamp in it. -/
def timeless : Json → Json
  | .null => .null
  | .bool value => .bool value
  | .integer value => .integer value
  | .real value => .real value
  | .text value => .text value
  | .list items => .list (timelessItems items)
  | .object members => .object (timelessMembers members)

def timelessItems : List Json → List Json
  | [] => []
  | item :: rest => item.timeless :: timelessItems rest

def timelessMembers : List (String × Json) → List (String × Json)
  | [] => []
  | (name, value) :: rest =>
      (name, if isStamp name then .null else value.timeless) :: timelessMembers rest

end

theorem timelessItems_eq_map (items : List Json) : timelessItems items = items.map timeless := by
  induction items with
  | nil => rfl
  | cons item rest ih => rw [timelessItems, ih, List.map_cons]

@[simp]
theorem timeless_list (items : List Json) : (list items).timeless = .list (items.map timeless) := by
  rw [timeless, timelessItems_eq_map]

end Json

namespace Service

/-! ## Views -/

theorem timeless_restaurantView (restaurant : Restaurant) (menu : List MenuItem) :
    (restaurantView restaurant menu).timeless =
      (restaurantView restaurant.timeless menu).timeless := by
  simp [restaurantView, Json.timeless, Json.timelessMembers, Json.isStamp, Restaurant.timeless]

theorem timeless_orderView (order : Order) :
    (orderView order).timeless = (orderView order.timeless).timeless := by
  simp [orderView, Json.timeless, Json.timelessMembers, Json.isStamp, Order.timeless, Order.total]

theorem restaurantView_congr {restaurant other : Restaurant}
    (h : restaurant.timeless = other.timeless) (menu : List MenuItem) :
    (restaurantView restaurant menu).timeless = (restaurantView other menu).timeless := by
  rw [timeless_restaurantView restaurant, h, ← timeless_restaurantView other]

theorem orderView_congr {order other : Order} (h : order.timeless = other.timeless) :
    (orderView order).timeless = (orderView other).timeless := by
  rw [timeless_orderView order, h, ← timeless_orderView other]

theorem timeless_ordersView (orders : List Order) :
    (ordersView orders).timeless = (ordersView (orders.map Order.timeless)).timeless := by
  rw [ordersView, ordersView, Json.timeless_list, Json.timeless_list, List.map_map, List.map_map,
    List.map_map]
  exact congrArg Json.list (List.map_congr_left fun order _ => timeless_orderView order)

theorem ordersView_congr {orders others : List Order}
    (h : orders.map Order.timeless = others.map Order.timeless) :
    (ordersView orders).timeless = (ordersView others).timeless := by
  rw [timeless_ordersView orders, h, ← timeless_ordersView others]

/-! ## Envelopes -/

/-- The envelope without the time stamps in its data. -/
def Envelope.timeless (envelope : Envelope) : Envelope :=
  { envelope with data := envelope.data.timeless }

theorem Envelope.toJson_congr {envelope other : Envelope}
    (h : envelope.timeless = other.timeless) (now later : Instant) :
    (envelope.toJson now).timeless = (other.toJson later).timeless := by
  obtain ⟨hstatus, hmessage, hdata⟩ := Envelope.mk.inj h
  simp [toJson, Json.timeless, Json.timelessMembers, Json.isStamp, hstatus, hmessage, hdata]

end Service

/-! ## Responses -/

/-- The responses are equal but for the time stamps in their bodies. -/
structure Http.Response.Alike (response other : Response) : Prop where
  status : response.status = other.status
  headers : response.headers = other.headers
  body : response.body = other.body ∨ ∃ value another : Json,
    response.body = value.toUtf8 ∧ other.body = another.toUtf8 ∧ value.timeless = another.timeless

namespace Http.Response

theorem Alike.refl (response : Response) : response.Alike response :=
  ⟨rfl, rfl, .inl rfl⟩

theorem alike_ofJson (status : Nat) {value other : Json} (h : value.timeless = other.timeless) :
    (ofJson status value).Alike (ofJson status other) :=
  ⟨rfl, rfl, .inr ⟨value, other, rfl, rfl, h⟩⟩

/-- What a response gets on its way out does not depend on the time. -/
theorem Alike.sent {response other : Response} (h : response.Alike other) (request : Request) :
    (Service.sent request (CrossOrigin.opened response)).Alike
      (Service.sent request (CrossOrigin.opened other)) where
  status := by
    rw [Service.sent, Service.sent, status_finished, status_finished]
    exact h.status
  headers := headers_finished_congr _ _ (congrArg (Headers.insertText · _ _) h.headers)
  body := by
    rw [Service.sent, Service.sent, body_finished, body_finished]
    split
    · exact .inl rfl
    · exact h.body

end Http.Response

theorem Service.Envelope.response_alike {envelope other : Envelope}
    (h : envelope.timeless = other.timeless) (now later : Instant) :
    (envelope.response now).Alike (other.response later) := by
  have hstatus : envelope.status = other.status := (Envelope.mk.inj h).1
  unfold response
  rw [hstatus]
  exact Http.Response.alike_ofJson _ (toJson_congr h now later)

theorem Health.answer_alike (program : String) (now later : Instant) :
    (answer program now).Alike (answer program later) :=
  Http.Response.alike_ofJson 200 (by simp [Json.timeless, Json.timelessMembers, Json.isStamp])

end FoodOrdering
