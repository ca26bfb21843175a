import FoodOrdering.Identity.Basic
import FoodOrdering.Time.Instant

/-!
# Restaurants and their menus

A restaurant belongs to the user who registered it, and administrators decide on its status.  A
menu item belongs to one restaurant.
-/

namespace FoodOrdering

namespace Restaurant

inductive Status where
  /-- Registered, and not yet reviewed. -/
  | pending
  | active
  | inactive
  deriving DecidableEq, Repr

namespace Status

def name : Status → String
  | .pending => "PENDING"
  | .active => "ACTIVE"
  | .inactive => "INACTIVE"

def ofName? (text : String) : Option Status :=
  if text = "PENDING" then some .pending
  else if text = "ACTIVE" then some .active
  else if text = "INACTIVE" then some .inactive
  else none

/-- The status with exactly this name. -/
def parse (text : String) : Except Invalid Status :=
  match ofName? text with
  | some status => .ok status
  | none => .error (.restaurantStatus text)

theorem ofName?_name (status : Status) : ofName? status.name = some status := by
  cases status <;> rfl

end Status

end Restaurant

structure Restaurant where
  /-- Zero until the restaurant is stored. -/
  id : Int64
  name : String
  description : String
  location : String
  ownerId : Int64
  email : Option String
  phoneNumber : Option String
  imageUrl : Option String
  status : Restaurant.Status
  createdAt : Instant
  deriving DecidableEq, Repr

namespace Restaurant

/-- A new restaurant that is not stored yet. -/
def pending (name description location : String) (ownerId : Int64) (now : Instant) :
    Restaurant :=
  { id := 0, name, description, location, ownerId
    email := none, phoneNumber := none, imageUrl := none
    status := .pending, createdAt := now }

def isOwnedBy (restaurant : Restaurant) (userId : Int64) : Bool :=
  restaurant.ownerId == userId

end Restaurant

structure MenuItem where
  /-- Zero until the item is stored. -/
  id : Int64
  restaurantId : Int64
  name : String
  description : String
  price : Float

namespace MenuItem

/-- What a change of a menu item replaces. -/
structure Content where
  name : String
  description : String
  price : Float

/-- A new item that is not stored yet. -/
def draft (restaurantId : Int64) (content : Content) : MenuItem :=
  { id := 0, restaurantId
    name := content.name, description := content.description, price := content.price }

/-- The item with new content and its old place. -/
def withContent (item : MenuItem) (content : Content) : MenuItem :=
  { item with
    name := content.name, description := content.description, price := content.price }

end MenuItem

end FoodOrdering
