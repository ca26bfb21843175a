import FoodOrdering.Store.Orders
import FoodOrdering.Store.Restaurants

/-!
# Access to the stores

All that a program can ask of the stores.  Each access is one step: it sees the stores as they are
at that moment, and nothing comes between what it reads and what it writes.
-/

namespace FoodOrdering

structure Stores where
  restaurants : RestaurantStore
  orders : OrderStore

def Stores.empty : Stores :=
  { restaurants := .empty, orders := .empty }

inductive Access where
  | createRestaurant (draft : Restaurant)
  | findRestaurant (id : Int64)
  | allRestaurants
  | setStatus (id : Int64) (status : Restaurant.Status)
  | addMenuItem (draft : MenuItem)
  | updateMenuItem (restaurantId itemId : Int64) (content : MenuItem.Content)
  | menu (restaurantId : Int64)
  | createOrder (draft : Order)
  | ordersOfCustomer (customerId : Int64)
  | ordersAtRestaurant (restaurantId : Int64)

namespace Access

/-- What an access gives. -/
abbrev Result : Access → Type
  | .createRestaurant _ => Restaurant
  | .findRestaurant _ => Option Restaurant
  | .allRestaurants => List Restaurant
  | .setStatus _ _ => Except StoreError Restaurant
  | .addMenuItem _ => Except StoreError MenuItem
  | .updateMenuItem _ _ _ => Except StoreError MenuItem
  | .menu _ => List MenuItem
  | .createOrder _ => Order
  | .ordersOfCustomer _ => List Order
  | .ordersAtRestaurant _ => List Order

/-- An operation on the restaurants leaves the orders alone. -/
def onRestaurants {α : Type} (stores : Stores) (step : α × RestaurantStore) : α × Stores :=
  (step.1, { stores with restaurants := step.2 })

/-- What an access gives, and the stores after it. -/
def run (stores : Stores) : (access : Access) → access.Result × Stores
  | .createRestaurant draft => onRestaurants stores (stores.restaurants.create draft)
  | .findRestaurant id => (stores.restaurants.find? id, stores)
  | .allRestaurants => (stores.restaurants.all, stores)
  | .setStatus id status => onRestaurants stores (stores.restaurants.setStatus id status)
  | .addMenuItem draft => onRestaurants stores (stores.restaurants.addMenuItem draft)
  | .updateMenuItem restaurantId itemId content =>
      onRestaurants stores (stores.restaurants.updateMenuItem restaurantId itemId content)
  | .menu restaurantId => (stores.restaurants.menu restaurantId, stores)
  | .createOrder draft =>
      let (order, orders) := stores.orders.create draft
      (order, { stores with orders })
  | .ordersOfCustomer customerId => (stores.orders.ofCustomer customerId, stores)
  | .ordersAtRestaurant restaurantId => (stores.orders.atRestaurant restaurantId, stores)

end Access

end FoodOrdering
