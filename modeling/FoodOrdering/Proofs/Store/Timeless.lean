import FoodOrdering.Proofs.Store.Table
import FoodOrdering.Store.Access

/-!
# Times aside

A record tells when it was made, and nothing that is done with it depends on that.  The stores
without these times are stores again, and an access gives and leaves the same without the times,
whether they are taken out before or afterwards.
-/

namespace FoodOrdering

/-! ## Tables -/

namespace Table

variable {κ α β : Type} [LT κ]

/-- Convert the records and leave them under their keys. -/
def map (convert : α → β) (table : Table κ α) : Table κ β where
  entries := table.entries.map fun entry => (entry.1, convert entry.2)
  ascending := by
    rw [Ascending, List.pairwise_map]
    exact table.ascending

variable (convert : α → β)

@[simp]
theorem values_map (table : Table κ α) : (table.map convert).values = table.values.map convert := by
  simp [values, map]

variable [DecidableEq κ]

@[simp]
theorem find?_map (table : Table κ α) (key : κ) :
    (table.map convert).find? key = (table.find? key).map convert := by
  simp [find?, map, List.find?_map, Function.comp_def]

@[simp]
theorem contains_map (table : Table κ α) (key : κ) :
    (table.map convert).contains key = table.contains key := by
  simp [contains]

variable [DecidableLT κ]

theorem insertEntry_map (key : κ) (record : α) (entries : List (κ × α)) :
    insertEntry key (convert record) (entries.map fun entry => (entry.1, convert entry.2)) =
      (insertEntry key record entries).map fun entry => (entry.1, convert entry.2) := by
  induction entries with
  | nil => rfl
  | cons head rest ih =>
      obtain ⟨other, kept⟩ := head
      simp only [List.map_cons, insertEntry]
      split
      · rfl
      · split
        · rfl
        · rw [ih, List.map_cons]

variable [LE κ] [Std.IsLinearOrder κ] [Std.LawfulOrderLT κ]

@[simp]
theorem insert_map (table : Table κ α) (key : κ) (record : α) :
    (table.map convert).insert key (convert record) = (table.insert key record).map convert := by
  unfold insert map
  congr 1
  exact insertEntry_map convert key record table.entries

end Table

/-! ## Records -/

/-- The restaurant with a time that tells nothing. -/
def Restaurant.timeless (restaurant : Restaurant) : Restaurant :=
  { restaurant with createdAt := .ofSeconds 0 }

theorem Restaurant.id_congr {restaurant other : Restaurant}
    (h : restaurant.timeless = other.timeless) : restaurant.id = other.id :=
  (Restaurant.mk.inj h).1

/-- The order with a time that tells nothing. -/
def Order.timeless (order : Order) : Order :=
  { order with createdAt := .ofSeconds 0 }

theorem Order.restaurantId_congr {order other : Order} (h : order.timeless = other.timeless) :
    order.restaurantId = other.restaurantId :=
  (Order.mk.inj h).2.2.1

/-! ## Stores -/

/-- The stores without the times of their records. -/
def Stores.timeless (stores : Stores) : Stores where
  restaurants :=
    { stores.restaurants with
      restaurants := stores.restaurants.restaurants.map Restaurant.timeless }
  orders := { stores.orders with orders := stores.orders.orders.map Order.timeless }

namespace Access

/-- The access with drafts that tell no time. -/
def timeless : Access → Access
  | .createRestaurant draft => .createRestaurant draft.timeless
  | .createOrder draft => .createOrder draft.timeless
  | access => access

/-- What an access gives, without the times. -/
def timelessResult : (access : Access) → access.Result → access.timeless.Result
  | .createRestaurant _, restaurant => Restaurant.timeless restaurant
  | .findRestaurant _, found => Option.map Restaurant.timeless found
  | .allRestaurants, restaurants => List.map Restaurant.timeless restaurants
  | .setStatus _ _, result => Except.map Restaurant.timeless result
  | .addMenuItem _, result => result
  | .updateMenuItem _ _ _, result => result
  | .menu _, items => items
  | .createOrder _, order => Order.timeless order
  | .ordersOfCustomer _, orders => List.map Order.timeless orders
  | .ordersAtRestaurant _, orders => List.map Order.timeless orders

theorem run_timeless (access : Access) (stores : Stores) :
    access.timeless.run stores.timeless =
      (access.timelessResult (access.run stores).1, (access.run stores).2.timeless) := by
  cases access with
  | createRestaurant draft =>
      have hinsert := stores.restaurants.restaurants.insert_map Restaurant.timeless
        (stores.restaurants.lastRestaurantId + 1)
        { draft with id := stores.restaurants.lastRestaurantId + 1 }
      simp only [timeless, run, onRestaurants, RestaurantStore.create, Stores.timeless,
        timelessResult, ← hinsert]
      rfl
  | findRestaurant id => simp [timeless, run, RestaurantStore.find?, Stores.timeless, timelessResult]
  | allRestaurants => simp [timeless, run, RestaurantStore.all, Stores.timeless, timelessResult]
  | setStatus id status =>
      simp only [timeless, run, onRestaurants, RestaurantStore.setStatus, Stores.timeless,
        timelessResult, Table.find?_map]
      cases stores.restaurants.restaurants.find? id with
      | none => rfl
      | some restaurant =>
          have hinsert := stores.restaurants.restaurants.insert_map Restaurant.timeless id
            { restaurant with status }
          simp only [Option.map_some, ← hinsert]
          rfl
  | addMenuItem draft =>
      simp only [timeless, run, onRestaurants, RestaurantStore.addMenuItem, Stores.timeless,
        timelessResult, Table.contains_map]
      split
      · rfl
      · rfl
  | updateMenuItem restaurantId itemId content =>
      simp only [timeless, run, onRestaurants, RestaurantStore.updateMenuItem, Stores.timeless,
        timelessResult]
      split
      · rfl
      · rfl
  | menu restaurantId => rfl
  | createOrder draft =>
      have hinsert := stores.orders.orders.insert_map Order.timeless
        (stores.orders.lastOrderId + 1) { draft with id := stores.orders.lastOrderId + 1 }
      simp only [timeless, run, OrderStore.create, Stores.timeless, timelessResult, ← hinsert]
      rfl
  | ordersOfCustomer customerId =>
      simp [timeless, run, OrderStore.ofCustomer, Stores.timeless, timelessResult, List.filter_map,
        Function.comp_def, Order.timeless]
  | ordersAtRestaurant restaurantId =>
      simp [timeless, run, OrderStore.atRestaurant, Stores.timeless, timelessResult,
        List.filter_map, Function.comp_def, Order.timeless]

theorem timelessResult_run (access : Access) (stores : Stores) :
    access.timelessResult (access.run stores).1 = (access.timeless.run stores.timeless).1 :=
  (congrArg Prod.fst (access.run_timeless stores)).symm

theorem timeless_run (access : Access) (stores : Stores) :
    (access.run stores).2.timeless = (access.timeless.run stores.timeless).2 :=
  (congrArg Prod.snd (access.run_timeless stores)).symm

end Access

end FoodOrdering
