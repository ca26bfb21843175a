import FoodOrdering.Http.MediaType
import FoodOrdering.Service.Program
import FoodOrdering.Text.Utf8

/-!
# What a program knows of its request

Who the caller is, what stands in the path and in the body, and what time it is.  The path and the
body are read where a program wants them, so that a caller who is denied learns nothing of either.
-/

/-!
## Bytes by number

A part of a path may write a byte as a percent sign and two hexadecimal digits.  A percent sign
without two digits behind it stands for itself.
-/

namespace FoodOrdering.Http.Percent

def hexValue? (byte : UInt8) : Option UInt8 :=
  if 0x30 ≤ byte ∧ byte ≤ 0x39 then some (byte - 0x30)
  else if 0x41 ≤ byte ∧ byte ≤ 0x46 then some (byte - 0x37)
  else if 0x61 ≤ byte ∧ byte ≤ 0x66 then some (byte - 0x57)
  else none

/-- The byte that two hexadecimal digits denote. -/
def byte? (high low : UInt8) : Option UInt8 :=
  match hexValue? high, hexValue? low with
  | some high, some low => some (16 * high + low)
  | _, _ => none

/-- The bytes that are meant. -/
def decode : List UInt8 → List UInt8
  | [] => []
  | 0x25 :: high :: low :: rest =>
      match byte? high low with
      | some byte => byte :: decode rest
      | none => 0x25 :: decode (high :: low :: rest)
  | byte :: rest => byte :: decode rest

/-- The text that is meant, if it is one. -/
def decodeText? (text : String) : Option String :=
  Text.ofUtf8? (decode (Text.utf8 text))

end FoodOrdering.Http.Percent

/-! ## Calls -/

namespace FoodOrdering.Service

structure Call where
  caller : Option Identity
  request : Http.Request
  now : Instant

/-- The largest body that is read, in bytes. -/
def maxBody : Nat := 2 * 1024 * 1024

/-- The first media type that is stated says that the body is JSON. -/
def statesJson (headers : Http.Headers) : Bool :=
  ((headers.getText? "content-type").bind Http.MediaType.ofText?).any Http.MediaType.isJson

/-- The value that a body holds. -/
def readBody {α : Type} (item : Json.Reader α) (request : Http.Request) : Except BodyFault α :=
  if !statesJson request.headers then .error .mediaType
  else if maxBody < request.body.size then .error .tooLarge
  else
    match Json.read item request.body.data.toList with
    | .ok value => .ok value
    | .error fault => .error (.content fault)

/-- The text of a part of the path. -/
def pathText (name part : String) : Except PathFault String :=
  match Http.Percent.decodeText? part with
  | some text => .ok text
  | none => .error (.notText name)

/-- A number in a text of the path. -/
def pathNumber (fault : String → PathFault) (text : String) : Except PathFault Int64 :=
  match Text.readInt64? text with
  | some id => .ok id
  | none => .error (fault text)

/-- The id in a path with one id. -/
def pathId (part : String) : Except PathFault Int64 := do
  pathNumber .notNumber (← pathText "id" part)

/-- The ids in a path with two ids; both are texts before one of them is a number. -/
def pathIds (first second : String) : Except PathFault (Int64 × Int64) := do
  let first ← pathText "id" first
  let second ← pathText "item_id" second
  return (← pathNumber (.notNumberAt 0) first, ← pathNumber (.notNumberAt 1) second)

namespace Program

def readCall {α : Type} (item : Json.Reader α) (call : Call) : Program α :=
  ofExcept .body (readBody item call.request)

def readId (part : String) : Program Int64 :=
  ofExcept .path (pathId part)

def readIds (first second : String) : Program (Int64 × Int64) :=
  ofExcept .path (pathIds first second)

/-- Go on if the caller may do something; a denial is counted. -/
def permit (call : Call) (operation : Operation) (owner : Option Int64) : Program Unit :=
  match authorize call.caller operation owner with
  | .ok () => .done (.ok ())
  | .error denial =>
      .perform (.counted (.denied operation.name denial.code))
        (fail (.forbidden operation.name denial))

/-- The identity of a caller who has one. -/
def identify (call : Call) : Program Identity :=
  match call.caller with
  | some identity => .done (.ok identity)
  | none => fail (.forbidden "identify_caller" .unauthenticated)

/-- A restaurant that was looked for, or the problem that there is none. -/
def found (id : Int64) : Option Restaurant → Program Restaurant
  | some restaurant => .done (.ok restaurant)
  | none => fail (.restaurantNotFound id)

end Program

end FoodOrdering.Service
