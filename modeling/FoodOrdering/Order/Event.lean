import FoodOrdering.Json.Reader.Skip
import FoodOrdering.Json.Value
import FoodOrdering.Order.Basic

/-!
# What is told of a placed order

The fact that is published after an order was stored, and its JSON form.  Consumers may see a
fact more than once and in any order.
-/

namespace FoodOrdering

structure OrderPlaced where
  orderId : Int64
  restaurantId : Int64
  customerId : Int64
  status : Order.Status
  deriving DecidableEq, Repr

namespace OrderPlaced

def ofOrder (order : Order) : OrderPlaced :=
  { orderId := order.id
    restaurantId := order.restaurantId
    customerId := order.customerId
    status := order.status }

def toJson (event : OrderPlaced) : Json :=
  .object
    [("orderId", .integer event.orderId.toInt),
      ("restaurantId", .integer event.restaurantId.toInt),
      ("customerId", .integer event.customerId.toInt),
      ("status", .text event.status.name)]

/-- The published bytes. -/
def payload (event : OrderPlaced) : List UInt8 :=
  Text.utf8 event.toJson.render

open Json Reader

/-- The values met so far in an object. -/
structure Partial where
  orderId : Option Int64 := none
  restaurantId : Option Int64 := none
  customerId : Option Int64 := none
  status : Option Order.Status := none

def member (name : String) (read : Partial) : Reader Partial :=
  if name = "orderId" then do
    let value ← once read.orderId int64
    return { read with orderId := value }
  else if name = "restaurantId" then do
    let value ← once read.restaurantId int64
    return { read with restaurantId := value }
  else if name = "customerId" then do
    let value ← once read.customerId int64
    return { read with customerId := value }
  else if name = "status" then do
    let value ← once read.status (choice Order.Status.ofName?)
    return { read with status := value }
  else do
    memberValue skipValue
    return read

def fromMembers : Reader OrderPlaced := do
  let read ← members member {}
  match read.orderId, read.restaurantId, read.customerId, read.status with
  | some orderId, some restaurantId, some customerId, some status =>
      return { orderId, restaurantId, customerId, status }
  | _, _, _, _ => fail .mismatch

def fromItems : Reader OrderPlaced := do
  let orderId ← required true int64
  let restaurantId ← required false int64
  let customerId ← required false int64
  let status ← required false (choice Order.Status.ofName?)
  return { orderId, restaurantId, customerId, status }

/-- The event that a payload describes. -/
def ofPayload (payload : List UInt8) : Except Fault OrderPlaced :=
  read (record fromMembers fromItems) payload

end OrderPlaced

end FoodOrdering
