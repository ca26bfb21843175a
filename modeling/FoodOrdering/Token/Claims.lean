import FoodOrdering.Json.Reader.Skip
import FoodOrdering.Json.Value
import FoodOrdering.Token.Bearer

/-!
# Claims

What a token says: whom it is about, in which role, with which e-mail address, and from when to
when.  Times are seconds since the beginning of 1970.
-/

namespace FoodOrdering

structure Claims where
  /-- The decimal user id. -/
  sub : String
  /-- A role in any spelling. -/
  role : String
  email : String
  /-- When the token was issued. -/
  iat : Int64
  /-- When the token ends to be valid. -/
  exp : Int64
  deriving DecidableEq, Repr

namespace Claims

/-- Claims from `now` on for a number of seconds, up to the last second there is. -/
def issue (userId : Int64) (role email : String) (now : Int64) (lifetime : Nat) : Claims :=
  { sub := Text.ofInt64 userId, role, email, iat := now
    exp := Int64.ofIntClamp (now.toInt + (Int64.ofIntClamp lifetime).toInt) }

/-- The subject as a positive user id. -/
def userId (claims : Claims) : Except TokenError Int64 :=
  match (Text.readInt64? claims.sub).filter fun id => 0 < id with
  | some id => .ok id
  | none => .error (.malformed .subject)

/-- The subject is a user id, and the claims do not end before they begin. -/
def validate (claims : Claims) : Except TokenError Unit := do
  let _ ← claims.userId
  if claims.exp < claims.iat then .error (.malformed .endsBeforeIssue) else .ok ()

def toJson (claims : Claims) : Json :=
  .object
    [("sub", .text claims.sub), ("role", .text claims.role), ("email", .text claims.email),
      ("iat", .integer claims.iat.toInt), ("exp", .integer claims.exp.toInt)]

open Json Reader

/-- The values met so far in an object. -/
structure Partial where
  sub : Option String := none
  role : Option String := none
  email : Option String := none
  iat : Option Int64 := none
  exp : Option Int64 := none

def member (name : String) (read : Partial) : Reader Partial :=
  if name = "sub" then do
    let value ← once read.sub text
    return { read with sub := value }
  else if name = "role" then do
    let value ← once read.role text
    return { read with role := value }
  else if name = "email" then do
    let value ← once read.email text
    return { read with email := value }
  else if name = "iat" then do
    let value ← once read.iat int64
    return { read with iat := value }
  else if name = "exp" then do
    let value ← once read.exp int64
    return { read with exp := value }
  else do
    memberValue skipValue
    return read

/-- A role and an e-mail address that are absent are empty; all else must be there. -/
def fromMembers : Reader Claims := do
  let read ← members member {}
  match read.sub, read.iat, read.exp with
  | some sub, some iat, some exp =>
      return { sub, role := read.role.getD "", email := read.email.getD "", iat, exp }
  | _, _, _ => fail .mismatch

def fromItems : Reader Claims := do
  let sub ← required true text
  let role := (← element false text).getD ""
  let email := (← element false text).getD ""
  let iat ← required false int64
  let exp ← required false int64
  return { sub, role, email, iat, exp }

/-- The claims that a payload states. -/
def ofPayload (payload : List UInt8) : Except Fault Claims :=
  read (record fromMembers fromItems) payload

end Claims

end FoodOrdering
