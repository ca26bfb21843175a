import FoodOrdering.Restaurant.Basic
import FoodOrdering.Service.OrderRequest

/-!
# Restaurants, menu items and statuses as callers ask for them
-/

namespace FoodOrdering.Service

open Json Reader

/-! ## Restaurants -/

structure RestaurantRequest where
  name : Option String := none
  description : Option String := none
  location : Option String := none
  email : Option String := none
  phoneNumber : Option String := none
  imageUrl : Option String := none
  deriving DecidableEq, Repr

namespace RestaurantRequest

def judge (request : RestaurantRequest) : FieldErrors :=
  let errors := FieldErrors.empty.notBlank "name" request.name mustNotBeBlank
  let errors := errors.size "name" request.name 2 100
  let errors := errors.notBlank "description" request.description mustNotBeBlank
  errors.notBlank "location" request.location mustNotBeBlank

/-- A text that is not blank. -/
def nonBlank (value : Option String) : Option String :=
  value.filter fun text => !Text.isBlankText text

/-- The restaurant that is asked for, if nothing is wrong with the request. -/
def toRestaurant (request : RestaurantRequest) (ownerId : Int64) (now : Instant) :
    Except Problem Restaurant := do
  request.judge.finish
  return { Restaurant.pending (request.name.getD "") (request.description.getD "")
      (request.location.getD "") ownerId now with
    email := nonBlank request.email
    phoneNumber := nonBlank request.phoneNumber
    imageUrl := nonBlank request.imageUrl }

/-- The values met so far. -/
structure Partial where
  name : Option (Option String) := none
  description : Option (Option String) := none
  location : Option (Option String) := none
  email : Option (Option String) := none
  phoneNumber : Option (Option String) := none
  imageUrl : Option (Option String) := none

def member (name : String) (read : Partial) : Reader Partial :=
  if name = "name" then do
    let value ← once read.name (optional text)
    return { read with name := value }
  else if name = "description" then do
    let value ← once read.description (optional text)
    return { read with description := value }
  else if name = "location" then do
    let value ← once read.location (optional text)
    return { read with location := value }
  else if name = "email" then do
    let value ← once read.email (optional text)
    return { read with email := value }
  else if name = "phoneNumber" then do
    let value ← once read.phoneNumber (optional text)
    return { read with phoneNumber := value }
  else if name = "imageUrl" then do
    let value ← once read.imageUrl (optional text)
    return { read with imageUrl := value }
  else do
    memberValue skipValue
    return read

def reader : Reader RestaurantRequest :=
  record
    (do
      let read ← members member {}
      return { name := read.name.join, description := read.description.join
               location := read.location.join, email := read.email.join
               phoneNumber := read.phoneNumber.join, imageUrl := read.imageUrl.join })
    (do
      let name ← required true (optional text)
      let description ← required false (optional text)
      let location ← required false (optional text)
      let email ← required false (optional text)
      let phoneNumber ← required false (optional text)
      let imageUrl ← required false (optional text)
      return { name, description, location, email, phoneNumber, imageUrl })

end RestaurantRequest

/-! ## Menu items -/

structure MenuItemRequest where
  name : Option String := none
  description : Option String := none
  price : Option Float := none

namespace MenuItemRequest

/-- What is wrong with a price. -/
def priceFault? : Option Float → Option String
  | none => some "Price is required"
  | some price => if price.isFinite && 0.0 < price then none else some "Price must be positive"

def judge (request : MenuItemRequest) : FieldErrors :=
  let errors := FieldErrors.empty.notBlank "name" request.name "Menu item name is required"
  let errors :=
    errors.notBlank "description" request.description "Menu item description is required"
  OrderRequest.addFault errors "price" (priceFault? request.price)

/-- The content that is asked for, if nothing is wrong with the request. -/
def toContent (request : MenuItemRequest) : Except Problem MenuItem.Content := do
  request.judge.finish
  return { name := request.name.getD "", description := request.description.getD ""
           price := request.price.getD 0.0 }

/-- The values met so far. -/
structure Partial where
  name : Option (Option String) := none
  description : Option (Option String) := none
  price : Option (Option Float) := none

def member (name : String) (read : Partial) : Reader Partial :=
  if name = "name" then do
    let value ← once read.name (optional text)
    return { read with name := value }
  else if name = "description" then do
    let value ← once read.description (optional text)
    return { read with description := value }
  else if name = "price" then do
    let value ← once read.price (optional float)
    return { read with price := value }
  else do
    memberValue skipValue
    return read

def reader : Reader MenuItemRequest :=
  record
    (do
      let read ← members member {}
      return { name := read.name.join, description := read.description.join
               price := read.price.join })
    (do
      let name ← required true (optional text)
      let description ← required false (optional text)
      let price ← required false (optional float)
      return { name, description, price })

end MenuItemRequest

/-! ## Statuses -/

structure StatusRequest where
  status : Option String := none
  deriving DecidableEq, Repr

namespace StatusRequest

/-- The status that a text names up to blanks around it and the case of ASCII letters. -/
def statusOf? (text : String) : Option Restaurant.Status :=
  Restaurant.Status.ofName? (Text.upperAscii (Text.trim text))

/-- The status that is asked for. -/
def toStatus (request : StatusRequest) : Except Problem Restaurant.Status :=
  match request.status with
  | none => .error (.invalid (FieldErrors.empty.add "status" mustNotBeNull))
  | some name =>
      match statusOf? name with
      | some status => .ok status
      | none =>
          .error (.invalid
            (FieldErrors.empty.add "status" "must be one of PENDING, ACTIVE, INACTIVE"))

def member (name : String) (read : Option (Option String)) : Reader (Option (Option String)) :=
  if name = "status" then once read (optional text)
  else do
    memberValue skipValue
    return read

def reader : Reader StatusRequest :=
  record
    (do
      let read ← members member none
      return { status := read.join })
    (do
      let status ← required true (optional text)
      return { status })

end StatusRequest

end FoodOrdering.Service
