import FoodOrdering.Http.Endpoint
import FoodOrdering.Service.Handlers
import FoodOrdering.Text.Segments

/-!
# Paths of the service

A path is known if its segments are those of a resource.  A segment that stands for an id may be
any text, and at the end of a path any text but the empty one.
-/

namespace FoodOrdering.Service

inductive Resource where
  | health
  | restaurants
  | restaurant (id : String)
  | menu (id : String)
  | menuItem (id itemId : String)
  | status (id : String)
  | orders
  | restaurantOrders (id : String)
  deriving DecidableEq, Repr

/-- What may be asked of the resources. -/
inductive Action where
  | showHealth
  | listRestaurants
  | registerRestaurant
  | showRestaurant (id : String)
  | showMenu (id : String)
  | extendMenu (id : String)
  | reviseMenuItem (id itemId : String)
  | changeStatus (id : String)
  | listOwnOrders
  | placeOrder
  | listRestaurantOrders (id : String)
  deriving DecidableEq, Repr

namespace Resource

/-- A resource whose path ends in an id. -/
def endingIn (id : String) (resource : Resource) : Option Resource :=
  if id = "" then none else some resource

/-- The resource with these segments behind the first slash. -/
def ofSegments? : List String → Option Resource
  | ["health"] => some .health
  | ["api", "restaurants"] => some .restaurants
  | ["api", "restaurants", id] => endingIn id (.restaurant id)
  | ["api", "restaurants", id, "menu"] => some (.menu id)
  | ["api", "restaurants", id, "status"] => some (.status id)
  | ["api", "restaurants", id, "menu", itemId] => endingIn itemId (.menuItem id itemId)
  | ["api", "orders"] => some .orders
  | ["api", "orders", "restaurant", id] => endingIn id (.restaurantOrders id)
  | _ => none

def ofPath? (path : String) : Option Resource :=
  match path.toList with
  | '/' :: rest => ofSegments? ((Text.segments '/' rest).map String.ofList)
  | _ => none

def methods : Resource → Http.Methods
  | .health | .restaurant _ | .restaurantOrders _ => ⟨["GET", "HEAD"]⟩
  | .restaurants | .menu _ | .orders => ⟨["GET", "HEAD", "POST"]⟩
  | .menuItem _ _ => ⟨["PUT"]⟩
  | .status _ => ⟨["PATCH"]⟩

/-- What reading the resource means, where it can be read. -/
def reading? : Resource → Option Action
  | .health => some .showHealth
  | .restaurants => some .listRestaurants
  | .restaurant id => some (.showRestaurant id)
  | .menu id => some (.showMenu id)
  | .orders => some .listOwnOrders
  | .restaurantOrders id => some (.listRestaurantOrders id)
  | .menuItem _ _ | .status _ => none

/-- What a method that writes means. -/
def writing? (method : String) : Resource → Option Action
  | .restaurants => if method = "POST" then some .registerRestaurant else none
  | .menu id => if method = "POST" then some (.extendMenu id) else none
  | .menuItem id itemId => if method = "PUT" then some (.reviseMenuItem id itemId) else none
  | .status id => if method = "PATCH" then some (.changeStatus id) else none
  | .orders => if method = "POST" then some .placeOrder else none
  | .health | .restaurant _ | .restaurantOrders _ => none

/-- What a method means; asking for the head only is reading. -/
def action? (resource : Resource) (method : String) : Option Action :=
  if method = "GET" ∨ method = "HEAD" then resource.reading? else resource.writing? method

end Resource

/-- What an action does that answers with an envelope. -/
def Action.envelope? : Action → Option (Call → Program Envelope)
  | .showHealth => none
  | .listRestaurants => some Service.listRestaurants
  | .registerRestaurant => some Service.registerRestaurant
  | .showRestaurant id => some (Service.showRestaurant id)
  | .showMenu id => some (Service.showMenu id)
  | .extendMenu id => some (Service.extendMenu id)
  | .reviseMenuItem id itemId => some (Service.reviseMenuItem id itemId)
  | .changeStatus id => some (Service.changeStatus id)
  | .listOwnOrders => some Service.listOwnOrders
  | .placeOrder => some Service.placeOrder
  | .listRestaurantOrders id => some (Service.listRestaurantOrders id)

/-- What an action does. -/
def Action.program (action : Action) (call : Call) : Program Http.Response :=
  match action.envelope? with
  | none => .done (.ok (Health.answer "bb-server" call.now))
  | some program => do
      let envelope ← program call
      return envelope.response call.now

end FoodOrdering.Service
