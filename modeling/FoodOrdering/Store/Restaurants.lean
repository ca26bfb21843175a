import FoodOrdering.Restaurant.Basic
import FoodOrdering.Store.Table

/-!
# Stored restaurants and menu items

Restaurants and menu items lie in two tables, and each table hands out ids from a counter of its
own.  An operation that is refused changes nothing.
-/

namespace FoodOrdering

/-- Why the store refuses an operation. -/
inductive StoreError where
  | restaurantNotFound (id : Int64)
  | menuItemNotFound (id : Int64)
  /-- A menu item was added to a restaurant that is not there. -/
  | noSuchRestaurant (id : Int64)
  deriving DecidableEq, Repr

def StoreError.message : StoreError → String
  | .restaurantNotFound id => "Restaurant " ++ Text.ofInt64 id ++ " not found"
  | .menuItemNotFound id => "Menu item " ++ Text.ofInt64 id ++ " not found"
  | .noSuchRestaurant id =>
      "Integrity violation: restaurant " ++ Text.ofInt64 id ++ " does not exist"

structure RestaurantStore where
  restaurants : Table Int64 Restaurant
  menuItems : Table Int64 MenuItem
  lastRestaurantId : Int64
  lastMenuItemId : Int64

namespace RestaurantStore

def empty : RestaurantStore :=
  { restaurants := .empty, menuItems := .empty, lastRestaurantId := 0, lastMenuItemId := 0 }

/-- Store a restaurant under the next id. -/
def create (store : RestaurantStore) (draft : Restaurant) : Restaurant × RestaurantStore :=
  let id := store.lastRestaurantId + 1
  let restaurant := { draft with id }
  (restaurant,
    { store with
      restaurants := store.restaurants.insert id restaurant
      lastRestaurantId := id })

def find? (store : RestaurantStore) (id : Int64) : Option Restaurant :=
  store.restaurants.find? id

/-- All restaurants in ascending order of their ids. -/
def all (store : RestaurantStore) : List Restaurant :=
  store.restaurants.values

def setStatus (store : RestaurantStore) (id : Int64) (status : Restaurant.Status) :
    Except StoreError Restaurant × RestaurantStore :=
  match store.restaurants.find? id with
  | none => (.error (.restaurantNotFound id), store)
  | some restaurant =>
      let restaurant := { restaurant with status }
      (.ok restaurant, { store with restaurants := store.restaurants.insert id restaurant })

/-- Store a menu item under the next id, if its restaurant is there. -/
def addMenuItem (store : RestaurantStore) (draft : MenuItem) :
    Except StoreError MenuItem × RestaurantStore :=
  if store.restaurants.contains draft.restaurantId then
    let id := store.lastMenuItemId + 1
    let item := { draft with id }
    (.ok item,
      { store with
        menuItems := store.menuItems.insert id item
        lastMenuItemId := id })
  else (.error (.noSuchRestaurant draft.restaurantId), store)

/-- Replace the content of a menu item of this restaurant. -/
def updateMenuItem (store : RestaurantStore) (restaurantId itemId : Int64)
    (content : MenuItem.Content) : Except StoreError MenuItem × RestaurantStore :=
  match (store.menuItems.find? itemId).filter fun item => item.restaurantId == restaurantId with
  | none => (.error (.menuItemNotFound itemId), store)
  | some item =>
      let item := item.withContent content
      (.ok item, { store with menuItems := store.menuItems.insert itemId item })

/-- The menu items of a restaurant in ascending order of their ids. -/
def menu (store : RestaurantStore) (restaurantId : Int64) : List MenuItem :=
  store.menuItems.values.filter fun item => item.restaurantId == restaurantId

end RestaurantStore

end FoodOrdering
