import FoodOrdering.Metrics
import FoodOrdering.Service.Problem
import FoodOrdering.Store.Access

/-!
# Programs

What the service does about a request is a program: accesses to the stores one after the other,
each of which may decide on what follows, and between them things that are counted or announced.
The programs of several requests may run in turns, access by access; a program on its own runs
straight through.
-/

namespace FoodOrdering.Service

inductive Counter where
  /-- A caller was denied an operation. -/
  | denied (operation code : String)
  /-- A request came without an identity that counts. -/
  | anonymous
  | orderCommitted
  deriving DecidableEq, Repr

def Counter.measurement : Counter → Measurement
  | .denied operation code =>
      .one "bb_server.guard.denied" [("operation", operation), ("reason", code)]
  | .anonymous => .one "bb_server.identity.anonymous" []
  | .orderCommitted => .one "bb_server.orders.committed" []

/-- What a program does besides its accesses. -/
inductive Effect where
  | counted (counter : Counter)
  /-- The event of a stored order is handed to the publisher; nobody waits for it. -/
  | announced (order : Order)

inductive Program (α : Type) where
  | done (outcome : Except Problem α)
  | access (step : Access) (next : step.Result → Program α)
  | perform (effect : Effect) (next : Program α)

namespace Program

variable {α β : Type}

/-- Go on with the value of a program; a program that failed ends there. -/
def andThen (program : Program α) (next : α → Program β) : Program β :=
  match program with
  | .done (.ok value) => next value
  | .done (.error problem) => .done (.error problem)
  | .access step rest => .access step fun result => (rest result).andThen next
  | .perform effect rest => .perform effect (rest.andThen next)

instance : Monad Program where
  pure value := .done (.ok value)
  bind := andThen

def fail (problem : Problem) : Program α :=
  .done (.error problem)

/-- Go on with a value that is there, or end with a problem. -/
def ofExcept {ε : Type} (problem : ε → Problem) : Except ε α → Program α
  | .ok value => .done (.ok value)
  | .error fault => fail (problem fault)

def count (counter : Counter) : Program Unit :=
  .perform (.counted counter) (.done (.ok ()))

def announce (order : Order) : Program Unit :=
  .perform (.announced order) (.done (.ok ()))

/-! ## Accesses -/

def createRestaurant (draft : Restaurant) : Program Restaurant :=
  .access (.createRestaurant draft) fun restaurant => .done (.ok restaurant)

def findRestaurant? (id : Int64) : Program (Option Restaurant) :=
  .access (.findRestaurant id) fun found => .done (.ok found)

def allRestaurants : Program (List Restaurant) :=
  .access .allRestaurants fun restaurants => .done (.ok restaurants)

def setStatus (id : Int64) (status : Restaurant.Status) : Program Restaurant :=
  .access (.setStatus id status) fun result => ofExcept Problem.ofStore result

def addMenuItem (draft : MenuItem) : Program MenuItem :=
  .access (.addMenuItem draft) fun result => ofExcept Problem.ofStore result

def updateMenuItem (restaurantId itemId : Int64) (content : MenuItem.Content) :
    Program MenuItem :=
  .access (.updateMenuItem restaurantId itemId content) fun result =>
    ofExcept Problem.ofStore result

def menu (restaurantId : Int64) : Program (List MenuItem) :=
  .access (.menu restaurantId) fun items => .done (.ok items)

def createOrder (draft : Order) : Program Order :=
  .access (.createOrder draft) fun order => .done (.ok order)

def ordersOfCustomer (customerId : Int64) : Program (List Order) :=
  .access (.ordersOfCustomer customerId) fun orders => .done (.ok orders)

def ordersAtRestaurant (restaurantId : Int64) : Program (List Order) :=
  .access (.ordersAtRestaurant restaurantId) fun orders => .done (.ok orders)

/-! ## Running -/

/-- All that a program did. -/
structure Run (α : Type) where
  outcome : Except Problem α
  stores : Stores
  effects : List Effect

/-- Run straight through. -/
def run (stores : Stores) : Program α → Run α
  | .done outcome => { outcome, stores, effects := [] }
  | .access step next =>
      let (result, stores) := step.run stores
      (next result).run stores
  | .perform effect next =>
      let rest := next.run stores
      { rest with effects := effect :: rest.effects }

end Program

end FoodOrdering.Service
