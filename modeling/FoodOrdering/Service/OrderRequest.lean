import FoodOrdering.Json.Reader.Skip
import FoodOrdering.Order.Basic
import FoodOrdering.Service.Problem

/-!
# Orders as callers ask for them

A request may leave out or misstate anything; it becomes an order when nothing is wrong with it.
Each item is judged on its own, under a name that tells its position.
-/

namespace FoodOrdering.Service

def mustNotBeBlank : String := "must not be blank"

def mustNotBeNull : String := "must not be null"

structure OrderRequest.Item where
  name : Option String := none
  quantity : Option Int64 := none
  price : Option Float := none

structure OrderRequest where
  restaurantId : Option Int64 := none
  items : Option (List OrderRequest.Item) := none

namespace OrderRequest

/-! ## Judging -/

/-- What is wrong with a quantity. -/
def quantityFault? : Option Int64 → Option String
  | none => some mustNotBeNull
  | some quantity =>
      if quantity < 1 then some "must be greater than or equal to 1"
      else if 4294967295 < quantity then some "must be less than or equal to 4294967295"
      else none

/-- What is wrong with a price. -/
def priceFault? : Option Float → Option String
  | none => some mustNotBeNull
  | some price =>
      if price.isFinite && 0.0 ≤ price then none
      else some "must be greater than or equal to 0"

/-- Say of a field what is wrong with it. -/
def addFault (errors : FieldErrors) (field : String) : Option String → FieldErrors
  | none => errors
  | some message => errors.add field message

/-- The name of a field of the item at a position. -/
def itemField (index : Nat) (name : String) : String :=
  "items[" ++ Text.ofNat index ++ "]." ++ name

def Item.judge (item : Item) (index : Nat) (errors : FieldErrors) : FieldErrors :=
  let errors := errors.notBlank (itemField index "itemName") item.name mustNotBeBlank
  let errors := addFault errors (itemField index "quantity") (quantityFault? item.quantity)
  addFault errors (itemField index "price") (priceFault? item.price)

/-- Judge items from a position on. -/
def judgeItems (index : Nat) (errors : FieldErrors) : List Item → FieldErrors
  | [] => errors
  | item :: rest => judgeItems (index + 1) (item.judge index errors) rest

def judge (request : OrderRequest) : FieldErrors :=
  let errors := FieldErrors.empty.notNull "restaurantId" request.restaurantId mustNotBeNull
  match request.items with
  | none => errors.add "items" mustNotBeNull
  | some [] => errors.add "items" "must not be empty"
  | some items => judgeItems 0 errors items

/-! ## Orders -/

/-- The item that is asked for; only a quantity is needed to build one. -/
def Item.toItem? (item : Item) : Option Order.Item := do
  let quantity ← item.quantity.filter fun quantity => (quantityFault? (some quantity)).isNone
  return { name := item.name.getD ""
           quantity := UInt32.ofNat quantity.toInt.toNat
           price := item.price.getD 0.0 }

/-- The order that is asked for, if nothing is wrong with the request. -/
def toOrder (request : OrderRequest) (customerId : Int64) (now : Instant) :
    Except Problem Order := do
  request.judge.finish
  return Order.pending customerId (request.restaurantId.getD 0)
    ((request.items.getD []).filterMap Item.toItem?) now

/-! ## Reading -/

open Json Reader

/-- A field that may be left out or null, once at most. -/
def onceOptional {α : Type} (before : Option (Option α)) (item : Reader α) :
    Reader (Option (Option α)) :=
  once before (optional item)

/-- The values met so far of an item. -/
structure ItemRead where
  name : Option (Option String) := none
  quantity : Option (Option Int64) := none
  price : Option (Option Float) := none

def itemMember (name : String) (read : ItemRead) : Reader ItemRead :=
  if name = "itemName" then do
    let value ← onceOptional read.name text
    return { read with name := value }
  else if name = "quantity" then do
    let value ← onceOptional read.quantity int64
    return { read with quantity := value }
  else if name = "price" then do
    let value ← onceOptional read.price float
    return { read with price := value }
  else do
    memberValue skipValue
    return read

def itemReader : Reader Item :=
  record
    (do
      let read ← members itemMember {}
      return { name := read.name.join, quantity := read.quantity.join, price := read.price.join })
    (do
      let name ← required true (optional text)
      let quantity ← required false (optional int64)
      let price ← required false (optional float)
      return { name, quantity, price })

/-- The values met so far of a request. -/
structure RequestRead where
  restaurantId : Option (Option Int64) := none
  items : Option (Option (List Item)) := none

def requestMember (name : String) (read : RequestRead) : Reader RequestRead :=
  if name = "restaurantId" then do
    let value ← onceOptional read.restaurantId int64
    return { read with restaurantId := value }
  else if name = "items" then do
    let value ← onceOptional read.items (list itemReader)
    return { read with items := value }
  else do
    memberValue skipValue
    return read

def reader : Reader OrderRequest :=
  record
    (do
      let read ← members requestMember {}
      return { restaurantId := read.restaurantId.join, items := read.items.join })
    (do
      let restaurantId ← required true (optional int64)
      let items ← required false (optional (list itemReader))
      return { restaurantId, items })

end OrderRequest

end FoodOrdering.Service
