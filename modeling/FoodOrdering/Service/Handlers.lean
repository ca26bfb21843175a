import FoodOrdering.Service.Call
import FoodOrdering.Service.Envelope
import FoodOrdering.Service.OrderRequest
import FoodOrdering.Service.RestaurantRequest

/-!
# What the service does for its callers

Everybody may read restaurants and menus.  A restaurant is looked up before its owner is asked for,
and a caller whom the guard does not admit cannot tell a restaurant that is not there from one of
somebody else.
-/

namespace FoodOrdering.Service

open Program

/-! ## Restaurants and menus -/

/-- Register a restaurant of the caller's. -/
def registerRestaurant (call : Call) : Program Envelope := do
  permit call .createRestaurant none
  let user ← identify call
  let request ← readCall RestaurantRequest.reader call
  let draft ← ofExcept (fun problem => problem) (request.toRestaurant user.userId call.now)
  let restaurant ← createRestaurant draft
  return .created "Restaurant created successfully" (restaurantView restaurant [])

/-- Look up the menu of each restaurant, one after the other. -/
def withMenus : List Restaurant → Program (List Json)
  | [] => .done (.ok [])
  | restaurant :: rest => do
      let items ← menu restaurant.id
      let others ← withMenus rest
      return restaurantView restaurant items :: others

def listRestaurants (call : Call) : Program Envelope := do
  permit call .readListings none
  let restaurants ← allRestaurants
  let views ← withMenus restaurants
  return .ok "Restaurants retrieved" (.list views)

def showRestaurant (part : String) (call : Call) : Program Envelope := do
  permit call .readListings none
  let id ← readId part
  let restaurant ← found id (← findRestaurant? id)
  let items ← menu id
  return .ok "Restaurant retrieved" (restaurantView restaurant items)

def showMenu (part : String) (call : Call) : Program Envelope := do
  permit call .readListings none
  let id ← readId part
  let _ ← found id (← findRestaurant? id)
  let items ← menu id
  return .ok "Menu retrieved" (menuView items)

/-- The restaurant that a caller wants to act upon, if the guard admits it and it is there. -/
def admitted (call : Call) (operation : Operation) (id : Int64) : Program Restaurant := do
  let restaurant ← findRestaurant? id
  permit call operation (restaurant.map Restaurant.ownerId)
  found id restaurant

def extendMenu (part : String) (call : Call) : Program Envelope := do
  let id ← readId part
  let restaurant ← admitted call .addMenuItem id
  let request ← readCall MenuItemRequest.reader call
  let content ← ofExcept (fun problem => problem) request.toContent
  let item ← addMenuItem (.draft restaurant.id content)
  return .ok "Menu item added successfully" (menuItemView item)

def reviseMenuItem (part itemPart : String) (call : Call) : Program Envelope := do
  let (id, itemId) ← readIds part itemPart
  let restaurant ← admitted call .updateMenuItem id
  let request ← readCall MenuItemRequest.reader call
  let content ← ofExcept (fun problem => problem) request.toContent
  let item ← updateMenuItem restaurant.id itemId content
  return .ok "Menu item updated successfully" (menuItemView item)

def changeStatus (part : String) (call : Call) : Program Envelope := do
  permit call .changeRestaurantStatus none
  let id ← readId part
  let request ← readCall StatusRequest.reader call
  let status ← ofExcept (fun problem => problem) request.toStatus
  let restaurant ← setStatus id status
  let items ← menu id
  return .ok "Restaurant status updated" (restaurantView restaurant items)

/-!
## Orders

An order is stored before its event is announced, and the answer waits for neither the publisher
nor anyone behind it.
-/

def placeOrder (call : Call) : Program Envelope := do
  permit call .placeOrder none
  let user ← identify call
  let request ← readCall OrderRequest.reader call
  let draft ← ofExcept (fun problem => problem) (request.toOrder user.userId call.now)
  let _ ← found draft.restaurantId (← findRestaurant? draft.restaurantId)
  let order ← createOrder draft
  count .orderCommitted
  announce order
  return .created "Order placed successfully" (orderView order)

def listOwnOrders (call : Call) : Program Envelope := do
  permit call .listOwnOrders none
  let user ← identify call
  let orders ← ordersOfCustomer user.userId
  return .ok "Customer orders retrieved" (ordersView orders)

def listRestaurantOrders (part : String) (call : Call) : Program Envelope := do
  let id ← readId part
  let restaurant ← admitted call .listRestaurantOrders id
  let orders ← ordersAtRestaurant restaurant.id
  return .ok "Orders for restaurant retrieved" (ordersView orders)

end FoodOrdering.Service
