import FoodOrdering.Proofs.Store.Table
import FoodOrdering.Store.Access

/-!
# Changes of the stores

An access changes one record or none.  The change is a value here, so that a run can be told as the
changes it made: which records came in, and which ones were replaced by what.
-/

namespace FoodOrdering

/-- Records come in whole; a record that is replaced is named as it was before. -/
inductive Change where
  | restaurantAdded (restaurant : Restaurant)
  | statusChanged (restaurant : Restaurant) (status : Restaurant.Status)
  | itemAdded (item : MenuItem)
  | itemChanged (item : MenuItem) (content : MenuItem.Content)
  | orderAdded (order : Order)

namespace Change

/-- How many records come in. -/
def inserts : Change → Nat
  | .restaurantAdded _ | .itemAdded _ | .orderAdded _ => 1
  | .statusChanged _ _ | .itemChanged _ _ => 0

/-- How many records come in by some changes. -/
def insertsOf : List Change → Nat
  | [] => 0
  | change :: rest => change.inserts + insertsOf rest

theorem insertsOf_append (first second : List Change) :
    insertsOf (first ++ second) = insertsOf first + insertsOf second := by
  induction first with
  | nil => exact (Nat.zero_add _).symm
  | cons change rest ih =>
      rw [List.cons_append, insertsOf, insertsOf, ih, Nat.add_assoc]

theorem insertsOf_le_length (changes : List Change) : insertsOf changes ≤ changes.length := by
  induction changes with
  | nil => exact Nat.le_refl 0
  | cons change rest ih =>
      have hone : change.inserts ≤ 1 := by
        cases change <;> exact Nat.le_of_ble_eq_true rfl
      rw [insertsOf, List.length_cons]
      omega

/-- The stores after a change. -/
def apply (stores : Stores) : Change → Stores
  | .restaurantAdded restaurant =>
      { stores with
        restaurants :=
          { stores.restaurants with
            restaurants := stores.restaurants.restaurants.insert restaurant.id restaurant
            lastRestaurantId := restaurant.id } }
  | .statusChanged restaurant status =>
      { stores with
        restaurants :=
          { stores.restaurants with
            restaurants :=
              stores.restaurants.restaurants.insert restaurant.id { restaurant with status } } }
  | .itemAdded item =>
      { stores with
        restaurants :=
          { stores.restaurants with
            menuItems := stores.restaurants.menuItems.insert item.id item
            lastMenuItemId := item.id } }
  | .itemChanged item content =>
      { stores with
        restaurants :=
          { stores.restaurants with
            menuItems :=
              stores.restaurants.menuItems.insert item.id (item.withContent content) } }
  | .orderAdded order =>
      { stores with
        orders :=
          { orders := stores.orders.orders.insert order.id order, lastOrderId := order.id } }

/-- What comes in has the next id, and what is replaced is there. -/
def Fits (stores : Stores) : Change → Prop
  | .restaurantAdded restaurant => restaurant.id = stores.restaurants.lastRestaurantId + 1
  | .statusChanged restaurant _ =>
      stores.restaurants.restaurants.find? restaurant.id = some restaurant
  | .itemAdded item =>
      item.id = stores.restaurants.lastMenuItemId + 1 ∧
        ∃ restaurant, stores.restaurants.restaurants.find? item.restaurantId = some restaurant
  | .itemChanged item _ => stores.restaurants.menuItems.find? item.id = some item
  | .orderAdded order => order.id = stores.orders.lastOrderId + 1

end Change

/-- Each record lies under its own id, and the ids run from one to the last one handed out. -/
def Table.Numbered {α : Type} (table : Table Int64 α) (idOf : α → Int64) (last : Int64) : Prop :=
  ∀ key record, table.find? key = some record →
    idOf record = key ∧ 1 ≤ key.toInt ∧ key.toInt ≤ last.toInt

namespace Stores

structure Numbered (stores : Stores) : Prop where
  restaurants :
    stores.restaurants.restaurants.Numbered Restaurant.id stores.restaurants.lastRestaurantId
  menuItems : stores.restaurants.menuItems.Numbered MenuItem.id stores.restaurants.lastMenuItemId
  orders : stores.orders.orders.Numbered Order.id stores.orders.lastOrderId

theorem numbered_empty : empty.Numbered := by
  constructor
  · intro key record hfound
    cases hfound
  · intro key record hfound
    cases hfound
  · intro key record hfound
    cases hfound

end Stores

namespace Access

/-- The change that an access makes, if it makes one. -/
def change? (stores : Stores) : Access → Option Change
  | .createRestaurant draft =>
      some (.restaurantAdded { draft with id := stores.restaurants.lastRestaurantId + 1 })
  | .setStatus id status =>
      (stores.restaurants.restaurants.find? id).map fun restaurant =>
        .statusChanged restaurant status
  | .addMenuItem draft =>
      if stores.restaurants.restaurants.contains draft.restaurantId then
        some (.itemAdded { draft with id := stores.restaurants.lastMenuItemId + 1 })
      else none
  | .updateMenuItem restaurantId itemId content =>
      ((stores.restaurants.menuItems.find? itemId).filter fun item =>
        item.restaurantId == restaurantId).map fun item => .itemChanged item content
  | .createOrder draft => some (.orderAdded { draft with id := stores.orders.lastOrderId + 1 })
  | .findRestaurant _ | .allRestaurants | .menu _ | .ordersOfCustomer _ | .ordersAtRestaurant _ =>
      none

variable {stores : Stores} {access : Access}

theorem stores_run_of_none (h : access.change? stores = none) : (access.run stores).2 = stores := by
  cases access with
  | createRestaurant draft => cases h
  | createOrder draft => cases h
  | setStatus id status =>
      have hnone : stores.restaurants.restaurants.find? id = none := Option.map_eq_none_iff.1 h
      show (onRestaurants stores (stores.restaurants.setStatus id status)).2 = stores
      rw [RestaurantStore.setStatus, hnone]
      rfl
  | addMenuItem draft =>
      simp only [change?] at h
      split at h
      next => cases h
      next habsent =>
        show (onRestaurants stores (stores.restaurants.addMenuItem draft)).2 = stores
        rw [RestaurantStore.addMenuItem, if_neg habsent]
        rfl
  | updateMenuItem restaurantId itemId content =>
      have hnone := Option.map_eq_none_iff.1 h
      show (onRestaurants stores
        (stores.restaurants.updateMenuItem restaurantId itemId content)).2 = stores
      rw [RestaurantStore.updateMenuItem, hnone]
      rfl
  | findRestaurant id => rfl
  | allRestaurants => rfl
  | menu restaurantId => rfl
  | ordersOfCustomer customerId => rfl
  | ordersAtRestaurant restaurantId => rfl

theorem of_change?_addMenuItem {draft : MenuItem} {change : Change}
    (h : (addMenuItem draft).change? stores = some change) :
    ∃ item, change = .itemAdded item ∧ item.restaurantId = draft.restaurantId := by
  simp only [change?] at h
  split at h
  next =>
    cases h
    exact ⟨_, rfl, rfl⟩
  next => cases h

theorem of_change?_updateMenuItem {restaurantId itemId : Int64} {content : MenuItem.Content}
    {change : Change}
    (h : (updateMenuItem restaurantId itemId content).change? stores = some change) :
    ∃ item, change = .itemChanged item content ∧ item.restaurantId = restaurantId := by
  obtain ⟨item, hfiltered, hchange⟩ := Option.map_eq_some_iff.1 h
  obtain ⟨_, hsame⟩ := Option.filter_eq_some_iff.1 hfiltered
  exact ⟨item, hchange.symm, eq_of_beq hsame⟩

theorem of_change?_setStatus {id : Int64} {status : Restaurant.Status} {change : Change}
    (h : (setStatus id status).change? stores = some change) :
    ∃ restaurant, change = .statusChanged restaurant status := by
  obtain ⟨restaurant, _, hchange⟩ := Option.map_eq_some_iff.1 h
  exact ⟨restaurant, hchange.symm⟩

/-- Where restaurants and menu items lie under their own ids, an access changes what `change?` says,
and the change fits. -/
theorem stores_run_of_filed {change : Change}
    (hrestaurants : ∀ id restaurant,
      stores.restaurants.restaurants.find? id = some restaurant → restaurant.id = id)
    (hmenuItems : ∀ id item, stores.restaurants.menuItems.find? id = some item → item.id = id)
    (h : access.change? stores = some change) :
    (access.run stores).2 = change.apply stores ∧ change.Fits stores := by
  cases access with
  | createRestaurant draft =>
      cases h
      exact ⟨rfl, rfl⟩
  | createOrder draft =>
      cases h
      exact ⟨rfl, rfl⟩
  | setStatus id status =>
      obtain ⟨restaurant, hfound, hchange⟩ := Option.map_eq_some_iff.1 h
      obtain rfl := hrestaurants id restaurant hfound
      cases hchange
      refine ⟨?_, hfound⟩
      show (onRestaurants stores (stores.restaurants.setStatus restaurant.id status)).2 = _
      rw [RestaurantStore.setStatus, hfound]
      rfl
  | addMenuItem draft =>
      simp only [change?] at h
      split at h
      next hpresent =>
        cases h
        refine ⟨?_, rfl, Option.isSome_iff_exists.1 hpresent⟩
        show (onRestaurants stores (stores.restaurants.addMenuItem draft)).2 = _
        rw [RestaurantStore.addMenuItem, if_pos hpresent]
        rfl
      next => cases h
  | updateMenuItem restaurantId itemId content =>
      obtain ⟨item, hfiltered, hchange⟩ := Option.map_eq_some_iff.1 h
      obtain ⟨hfound, _⟩ := Option.filter_eq_some_iff.1 hfiltered
      obtain rfl := hmenuItems itemId item hfound
      cases hchange
      refine ⟨?_, hfound⟩
      show (onRestaurants stores
        (stores.restaurants.updateMenuItem restaurantId item.id content)).2 = _
      rw [RestaurantStore.updateMenuItem, hfiltered]
      rfl
  | findRestaurant id => cases h
  | allRestaurants => cases h
  | menu restaurantId => cases h
  | ordersOfCustomer customerId => cases h
  | ordersAtRestaurant restaurantId => cases h

theorem stores_run_of_some {change : Change} (hnumbered : stores.Numbered)
    (h : access.change? stores = some change) :
    (access.run stores).2 = change.apply stores ∧ change.Fits stores :=
  stores_run_of_filed (fun id restaurant hfound => (hnumbered.restaurants id restaurant hfound).1)
    (fun id item hfound => (hnumbered.menuItems id item hfound).1) h

end Access

end FoodOrdering
