import FoodOrdering.Order.Basic
import FoodOrdering.Store.Table

/-!
# Stored orders

Orders are stored once and never changed.
-/

namespace FoodOrdering

structure OrderStore where
  orders : Table Int64 Order
  lastOrderId : Int64

namespace OrderStore

def empty : OrderStore :=
  { orders := .empty, lastOrderId := 0 }

/-- Store an order under the next id. -/
def create (store : OrderStore) (draft : Order) : Order × OrderStore :=
  let id := store.lastOrderId + 1
  let order := { draft with id }
  (order, { orders := store.orders.insert id order, lastOrderId := id })

/-- The orders of a customer in ascending order of their ids. -/
def ofCustomer (store : OrderStore) (customerId : Int64) : List Order :=
  store.orders.values.filter fun order => order.customerId == customerId

/-- The orders placed at a restaurant in ascending order of their ids. -/
def atRestaurant (store : OrderStore) (restaurantId : Int64) : List Order :=
  store.orders.values.filter fun order => order.restaurantId == restaurantId

def count (store : OrderStore) : Nat :=
  store.orders.size

end OrderStore

end FoodOrdering
