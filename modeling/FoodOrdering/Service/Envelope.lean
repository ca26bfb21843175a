import FoodOrdering.Json.Value
import FoodOrdering.Order.Basic
import FoodOrdering.Restaurant.Basic
import FoodOrdering.Service.Problem
import FoodOrdering.Time.Instant

/-!
# Envelopes

Every answer of the service has one form: the status once more, a message, data, and the time.  The
data are records as callers see them.
-/

namespace FoodOrdering.Service

/-! ## Records as callers see them -/

def int64Json (value : Int64) : Json :=
  .integer value.toInt

def menuItemView (item : MenuItem) : Json :=
  .object
    [("id", int64Json item.id), ("name", .text item.name),
      ("description", .text item.description), ("price", .real item.price)]

def menuView (menu : List MenuItem) : Json :=
  .list (menu.map menuItemView)

/-- A restaurant together with its menu. -/
def restaurantView (restaurant : Restaurant) (menu : List MenuItem) : Json :=
  .object
    [("id", int64Json restaurant.id), ("name", .text restaurant.name),
      ("description", .text restaurant.description), ("location", .text restaurant.location),
      ("ownerId", int64Json restaurant.ownerId), ("email", .optional restaurant.email),
      ("phoneNumber", .optional restaurant.phoneNumber),
      ("imageUrl", .optional restaurant.imageUrl), ("status", .text restaurant.status.name),
      ("createdAt", .text restaurant.createdAt.zulu), ("menuItems", menuView menu)]

def orderItemView (item : Order.Item) : Json :=
  .object
    [("itemName", .text item.name), ("quantity", .integer item.quantity.toNat),
      ("price", .real item.price)]

def orderView (order : Order) : Json :=
  .object
    [("id", int64Json order.id), ("customerId", int64Json order.customerId),
      ("restaurantId", int64Json order.restaurantId), ("status", .text order.status.name),
      ("items", .list (order.items.map orderItemView)), ("total", .real order.total),
      ("createdAt", .text order.createdAt.zulu)]

def ordersView (orders : List Order) : Json :=
  .list (orders.map orderView)

/-! ## Answers -/

structure Envelope where
  status : Nat
  message : String
  data : Json

namespace Envelope

def ok (message : String) (data : Json) : Envelope :=
  { status := 200, message, data }

def created (message : String) (data : Json) : Envelope :=
  { status := 201, message, data }

def ofProblem (problem : Problem) : Envelope :=
  { status := problem.status, message := problem.message, data := problem.data }

def toJson (envelope : Envelope) (now : Instant) : Json :=
  .object
    [("status", .integer envelope.status), ("message", .text envelope.message),
      ("data", envelope.data), ("timestamp", .text now.zulu)]

def response (envelope : Envelope) (now : Instant) : Http.Response :=
  .ofJson envelope.status (envelope.toJson now)

end Envelope

end FoodOrdering.Service
