import FoodOrdering.Identity.Basic
import FoodOrdering.Identity.Headers
import FoodOrdering.Identity.TrustZone

/-!
# Identities from headers

A service rebuilds the caller's identity from the three headers, if the peer may send them.
Headers that make no identity leave the caller anonymous; they never fail a request.
-/

namespace FoodOrdering.Identity

/-- A positive user id in a value, blanks around it aside. -/
def userIdOf? (value : List UInt8) : Option Int64 := do
  let text ← Http.textOf? value
  (Text.readInt64? (Text.trim text)).filter fun id => 0 < id

/-- The identity that a request states, if the zone admits its peer. -/
def reconstruct (zone : TrustZone) (peer : Option Address) (headers : Http.Headers) :
    Option Identity := do
  let stated ← headers.get? IdentityHeaders.userId
  guard (zone.admits peer)
  let userId ← userIdOf? stated
  let roles := Role.readList ((headers.getText? IdentityHeaders.userRole).getD "")
  let email := (headers.getText? IdentityHeaders.userEmail).getD ""
  (create userId roles email).toOption

end FoodOrdering.Identity
