import FoodOrdering.Json.Document
import FoodOrdering.Token.Base64Url
import FoodOrdering.Token.Claims
import FoodOrdering.Token.Sha256

/-!
# Signed tokens

A token is a header, claims and a signature over both, each in base64 for URLs, with points
between them.  Nothing of the claims is read before the signature is found right, and the clock is
asked last.
-/

namespace FoodOrdering.Token

/-- How a token says that it is signed. -/
inductive Algorithm where
  /-- The keyed digest that this library makes. -/
  | hs256
  /-- Another one that has a name. -/
  | other (name : String)
  deriving DecidableEq, Repr

/-- The algorithms with a name, besides the one in use. -/
def otherAlgorithms : List String :=
  ["HS384", "HS512", "ES256", "ES384", "RS256", "RS384", "RS512", "PS256", "PS384", "PS512",
    "EdDSA"]

def Algorithm.ofName? (name : String) : Option Algorithm :=
  if name = "HS256" then some .hs256
  else if name ∈ otherAlgorithms then some (.other name)
  else none

/-- The header of every token that is signed here. -/
def header : Json :=
  .object [("typ", .text "JWT"), ("alg", .text "HS256")]

/-- The base64 form of the bytes of a JSON value. -/
def part (value : Json) : List Char :=
  Base64Url.encode (Text.utf8 value.render)

/-- The signature of the text in front of the last point. -/
def signature (secret : List UInt8) (message : List Char) : List UInt8 :=
  hmacSha256 secret (Text.utf8 (String.ofList message))

/-- The header and the claims with a point between them. -/
def message (claims : Claims) : List Char :=
  part header ++ '.' :: part claims.toJson

/-- A token that states these claims. -/
def sign (secret : List UInt8) (claims : Claims) : String :=
  String.ofList
    (message claims ++ '.' :: Base64Url.encode (signature secret (message claims)))

/-! ## Reading a token -/

/-- What stands before and behind the last separator. -/
def splitLast (separator : Char) (text : List Char) : Option (List Char × List Char) :=
  let behind := text.reverse.takeWhile (· != separator)
  match text.reverse.dropWhile (· != separator) with
  | [] => none
  | _ :: before => some (before.reverse, behind.reverse)

structure Parts where
  header : List Char
  payload : List Char
  signature : List Char

/-- Cut a token at its last two points; further points belong to the header. -/
def Parts.ofText? (token : String) : Option Parts := do
  let (message, signature) ← splitLast '.' token.toList
  let (header, payload) ← splitLast '.' message
  return { header, payload, signature }

/-- What is signed. -/
def Parts.message (parts : Parts) : List Char :=
  parts.header ++ '.' :: parts.payload

open Json Reader

/-- What has been met of a header: its algorithm, and the names that were read. -/
structure HeaderRead where
  algorithm : Option Algorithm := none
  seen : List String := []

/-- The parameters of a header that are texts where they are given. -/
def textParameters : List String :=
  ["typ", "cty", "jku", "kid", "x5u", "x5t", "x5t#S256", "enc", "zip", "url", "nonce"]

/-- The parameters of a header that are lists of texts where they are given. -/
def listParameters : List String :=
  ["x5c", "crit"]

def headerMember (name : String) (read : HeaderRead) : Reader HeaderRead :=
  if name = "alg" then do
    let algorithm ← once read.algorithm (choice Algorithm.ofName?)
    return { read with algorithm }
  else if name ∈ textParameters then
    if name ∈ read.seen then fail .mismatch
    else do
      let _ ← memberValue (optional text)
      return { read with seen := name :: read.seen }
  else if name ∈ listParameters then
    if name ∈ read.seen then fail .mismatch
    else do
      let _ ← memberValue (optional (list text))
      return { read with seen := name :: read.seen }
  else do
    memberValue skipValue
    return read

def headerReader : Reader Algorithm :=
  record
    (do
      let read ← members headerMember {}
      match read.algorithm with
      | some algorithm => return algorithm
      | none => fail .mismatch)
    (fail .mismatch)

/-- What the general rules of tokens ask of the claims. -/
structure Registered where
  /-- The end of validity, where it is a time. -/
  expiry : Option Int := none
  /-- An audience is named. -/
  hasAudience : Bool := false
  seen : List String := []

/-- A time, or nothing for a value that is none; a bracket is not looked into. -/
def time : Reader (Option Int) := do
  let found ← attempt do
    match ← peekToken with
    | none => fail .malformed
    | some byte =>
        if startsNumber byte then
          let _ ← next
          match ← numeral byte with
          | .integer value => if 0 ≤ value then return value else fail .mismatch
          | .real _ => fail .mismatch
        else if byte = 0x5b then
          let _ ← next
          closedBy (fail .mismatch) endList
        else if byte = 0x7b then
          let _ ← next
          closedBy (fail .mismatch) endObject
        else refuse
  return found

/-- The brackets that may be open inside a claim. -/
def claimDepth : Nat := 126

/-- The value is a text. -/
def isText : Json → Bool
  | .text _ => true
  | _ => false

/-- A text or a list of texts; any other value is read and counts as none. -/
def names : Reader Bool := do
  let found ← attempt do
    match ← optional (value claimDepth) with
    | none => return false
    | some (.text _) => return true
    | some (.list items) => return items.all isText
    | some _ => return false
  return found.getD false

def registeredMember (name : String) (read : Registered) : Reader Registered :=
  if name ∈ ["exp", "nbf", "sub", "iss", "aud"] then
    if name ∈ read.seen then fail .mismatch
    else do
      let read := { read with seen := name :: read.seen }
      if name = "exp" then
        let expiry ← memberValue time
        return { read with expiry }
      else if name = "nbf" then
        let _ ← memberValue time
        return read
      else if name = "sub" then
        let _ ← memberValue (attempt (optional text))
        return read
      else
        let named ← memberValue names
        return if name = "aud" then { read with hasAudience := named } else read
  else do
    memberValue skipValue
    return read

def registeredItems : Reader Registered := do
  let expiry := (← element true time).getD none
  let _ ← element false time
  let _ ← required false (attempt (optional text))
  let _ ← required false names
  let hasAudience ← required false names
  return { expiry, hasAudience }

def registered (payload : List UInt8) : Except Fault Registered :=
  read (record (members registeredMember {}) registeredItems) payload

/-- Put a fault of reading into the words of tokens. -/
def orFault {α ε : Type} (fault : TokenFault) : Except ε α → Except TokenError α
  | .ok value => .ok value
  | .error _ => .error (.malformed fault)

/-- The bytes of a part. -/
def decodePart (part : List Char) : Except TokenError (List UInt8) :=
  match Base64Url.decode part with
  | some bytes => .ok bytes
  | none => .error (.malformed .base64)

/-- The claims of a token that is signed with this secret, whatever the time is. -/
def open? (secret : List UInt8) (token : String) : Except TokenError Claims := do
  match Parts.ofText? token with
  | none => .error (.malformed .parts)
  | some parts =>
      let algorithm ← orFault .json (read headerReader (← decodePart parts.header))
      if algorithm ≠ .hs256 then .error (.malformed .algorithm)
      else
        let given ← decodePart parts.signature
        if given ≠ signature secret parts.message then .error .invalidSignature
        else
          let payload ← decodePart parts.payload
          let claims ← orFault .json (Claims.ofPayload payload)
          let general ← orFault .json (registered payload)
          if general.expiry.isNone then .error (.malformed .expiry)
          else if general.hasAudience then .error (.malformed .audience)
          else .ok claims

/-- The claims of a token that is valid now: only before the end that it states. -/
def verify (secret : List UInt8) (now : Int64) (token : String) : Except TokenError Claims := do
  let claims ← open? secret token
  if claims.exp ≤ now then .error .expired
  else
    claims.validate
    return claims

end FoodOrdering.Token
