import FoodOrdering.Identity.Basic
import FoodOrdering.Time.Instant

/-!
# Orders

An order belongs to a customer and goes to one restaurant.  Its total is the sum of its items'
price times quantity from first to last, in doubles, and starts from a negative zero, so that an
order without items totals that.
-/

namespace FoodOrdering

namespace Order

inductive Status where
  /-- Placed, and not yet accepted by the restaurant. -/
  | pending
  | confirmed
  | delivered
  | cancelled
  deriving DecidableEq, Hashable, Repr

namespace Status

def name : Status → String
  | .pending => "PENDING"
  | .confirmed => "CONFIRMED"
  | .delivered => "DELIVERED"
  | .cancelled => "CANCELLED"

def ofName? (text : String) : Option Status :=
  if text = "PENDING" then some .pending
  else if text = "CONFIRMED" then some .confirmed
  else if text = "DELIVERED" then some .delivered
  else if text = "CANCELLED" then some .cancelled
  else none

/-- The status with exactly this name. -/
def parse (text : String) : Except Invalid Status :=
  match ofName? text with
  | some status => .ok status
  | none => .error (.orderStatus text)

theorem ofName?_name (status : Status) : ofName? status.name = some status := by
  cases status <;> rfl

end Status

structure Item where
  name : String
  quantity : UInt32
  price : Float

/-- Price times quantity. -/
def Item.cost (item : Item) : Float :=
  item.price * Float.ofNat item.quantity.toNat

end Order

structure Order where
  /-- Zero until the order is stored. -/
  id : Int64
  customerId : Int64
  restaurantId : Int64
  status : Order.Status
  items : List Order.Item
  createdAt : Instant

namespace Order

/-- A new order that is not stored yet. -/
def pending (customerId restaurantId : Int64) (items : List Item) (now : Instant) : Order :=
  { id := 0, customerId, restaurantId, status := .pending, items, createdAt := now }

/-- The sum of the items' costs from first to last. -/
def total (order : Order) : Float :=
  order.items.foldl (fun sum item => sum + item.cost) (-0.0)

end Order

end FoodOrdering
