import FoodOrdering.Http.Headers
import FoodOrdering.Identity.Basic
import FoodOrdering.Text.Segments
import FoodOrdering.Token.Claims

/-!
# Headers that carry an identity

Between the edge and the services an identity travels in three headers.  The edge drops every
copy that a client sent, and writes its own from verified claims; a claim that no header can
carry travels as an empty text.
-/

namespace FoodOrdering.IdentityHeaders

def userId : String := "x-user-id"

def userRole : String := "x-user-role"

def userEmail : String := "x-user-email"

def names : List String := [userId, userRole, userEmail]

/-- The role of a caller whose claims name none. -/
def defaultRole : String := Role.user.name

/-- How many values the three headers have. -/
def count (headers : Http.Headers) : Nat :=
  (headers.fields.filter fun field => names.contains field.name).length

/-- All fields but the three headers. -/
def strip (headers : Http.Headers) : Http.Headers :=
  headers.removeAll names

/-- A claim as the value of a header. -/
def claimValue (text : String) : List UInt8 :=
  (Http.valueOf? text).getD []

/-- The role that is forwarded. -/
def forwardedRole (claims : Claims) : String :=
  if Text.isBlankText claims.role then defaultRole else claims.role

/-- Write the three headers from claims, in place of earlier values.  The headers at hand stay as
they are until the subject is read. -/
def write (claims : Claims) : EStateM TokenError Http.Headers Unit := do
  let id ← MonadExcept.ofExcept claims.userId
  modify fun headers => headers.insertText userId (Text.ofInt64 id)
  modify fun headers => headers.insert userRole (claimValue (forwardedRole claims))
  modify fun headers => headers.insert userEmail (claimValue claims.email)

/-- The headers that claims were written into. -/
def mint (claims : Claims) (headers : Http.Headers) : Except TokenError Http.Headers :=
  match (write claims).run headers with
  | .ok () written => .ok written
  | .error fault _ => .error fault

end FoodOrdering.IdentityHeaders
