import FoodOrdering.Identity.Basic

/-!
# Who may do what

Every protected operation asks for one of some roles, and some operations also for ownership of
the thing acted upon, from which administrators are exempt.  The decision depends on the caller,
the operation and the owner, and on nothing else.
-/

namespace FoodOrdering

inductive Operation where
  | placeOrder
  | listOwnOrders
  | listRestaurantOrders
  | createRestaurant
  | addMenuItem
  | updateMenuItem
  | changeRestaurantStatus
  | readListings
  deriving DecidableEq, Repr

namespace Operation

def all : List Operation :=
  [.placeOrder, .listOwnOrders, .listRestaurantOrders, .createRestaurant, .addMenuItem,
    .updateMenuItem, .changeRestaurantStatus, .readListings]

def name : Operation → String
  | .placeOrder => "place_order"
  | .listOwnOrders => "list_own_orders"
  | .listRestaurantOrders => "list_restaurant_orders"
  | .createRestaurant => "create_restaurant"
  | .addMenuItem => "add_menu_item"
  | .updateMenuItem => "update_menu_item"
  | .changeRestaurantStatus => "change_restaurant_status"
  | .readListings => "read_listings"

/-- One of these roles is needed; an operation that needs none is public. -/
def roles : Operation → List Role
  | .placeOrder | .listOwnOrders => [.customer]
  | .listRestaurantOrders | .addMenuItem | .updateMenuItem | .createRestaurant => [.owner, .admin]
  | .changeRestaurantStatus => [.admin]
  | .readListings => []

/-- The caller has to own the thing acted upon, unless they are an administrator. -/
def needsOwner : Operation → Bool
  | .listRestaurantOrders | .addMenuItem | .updateMenuItem => true
  | _ => false

def isPublic (operation : Operation) : Bool :=
  operation.roles.isEmpty

end Operation

/-- Why an operation is denied. -/
inductive Denial where
  | unauthenticated
  | roleMismatch
  | notOwner
  deriving DecidableEq, Repr

namespace Denial

def code : Denial → String
  | .unauthenticated => "UNAUTHENTICATED"
  | .roleMismatch => "ROLE_MISMATCH"
  | .notOwner => "NOT_OWNER"

def message : Denial → String
  | .unauthenticated => "Authentication required"
  | .roleMismatch => "Access denied: insufficient role"
  | .notOwner => "Access denied: you do not own this resource"

end Denial

/-- Decide on an operation; without an owner nobody but an administrator passes for one. -/
def authorize (caller : Option Identity) (operation : Operation) (owner : Option Int64) :
    Except Denial Unit :=
  if operation.isPublic then .ok ()
  else
    match caller with
    | none => .error .unauthenticated
    | some identity =>
        if !identity.hasAnyRole operation.roles then .error .roleMismatch
        else if operation.needsOwner && !identity.hasRole .admin && owner != some identity.userId
        then .error .notOwner
        else .ok ()

/-- An operation is admitted if it is public, or if the caller has one of its roles and, where it
asks for that, is an administrator or the owner. -/
theorem authorize_eq_ok_iff {caller : Option Identity} {operation : Operation}
    {owner : Option Int64} :
    authorize caller operation owner = .ok () ↔
      operation.isPublic = true ∨ ∃ identity, caller = some identity ∧
        identity.hasAnyRole operation.roles = true ∧
        (operation.needsOwner = true →
          identity.hasRole .admin = true ∨ owner = some identity.userId) := by
  unfold authorize
  cases hpublic : operation.isPublic with
  | true => simp
  | false =>
      cases caller with
      | none => simp
      | some identity =>
          cases hroles : identity.hasAnyRole operation.roles with
          | false => simp [hroles]
          | true =>
              cases hneeds : operation.needsOwner with
              | false => simp [hroles]
              | true =>
                  cases hadmin : identity.hasRole .admin with
                  | true => simp [hroles, hadmin]
                  | false => simp [hroles, hadmin]

end FoodOrdering
