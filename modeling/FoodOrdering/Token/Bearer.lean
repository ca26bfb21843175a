import FoodOrdering.Http.Headers
import FoodOrdering.Text.Segments

/-!
# The token of a request

A request shows its token in the first `Authorization` header, behind the word `Bearer` and one
space.  Each cause for which a token is refused has a kind for counters, a message for the log and
a reason that may be shown to the caller.
-/

namespace FoodOrdering

/-! ## Refused tokens -/

/-- What is wrong with the form or the content of a token. -/
inductive TokenFault where
  /-- There are fewer than three parts. -/
  | parts
  /-- A part is not base64 for URLs. -/
  | base64
  /-- A part is not the JSON that it should be. -/
  | json
  /-- The token is signed in another way. -/
  | algorithm
  /-- The end of validity is no time. -/
  | expiry
  /-- The token names an audience, and none is expected. -/
  | audience
  /-- The subject is no user id. -/
  | subject
  /-- The token ends before it was issued. -/
  | endsBeforeIssue
  deriving DecidableEq, Repr

def TokenFault.message : TokenFault → String
  | .parts => "InvalidToken"
  | .base64 => "Base64 error"
  | .json => "JSON error"
  | .algorithm => "InvalidAlgorithm"
  | .expiry => "Missing required claim: exp"
  | .audience => "InvalidAudience"
  | .subject => "subject is not a positive integer user id"
  | .endsBeforeIssue => "exp precedes iat"

inductive TokenError where
  | missingHeader
  | malformed (fault : TokenFault)
  | invalidSignature
  | expired
  deriving DecidableEq, Repr

namespace TokenError

def kind : TokenError → String
  | .missingHeader => "MISSING_AUTH_HEADER"
  | .malformed _ => "MALFORMED_TOKEN"
  | .invalidSignature => "INVALID_SIGNATURE"
  | .expired => "TOKEN_EXPIRED"

def message : TokenError → String
  | .missingHeader => "Missing or invalid Authorization header"
  | .malformed fault => "Malformed token: " ++ fault.message
  | .invalidSignature => "Invalid token signature"
  | .expired => "Token expired"

/-- What the caller may know. -/
def reason : TokenError → String
  | .missingHeader => "Missing or invalid Authorization header"
  | .malformed fault => "malformed token (" ++ fault.message ++ ")"
  | .invalidSignature => "invalid signature"
  | .expired => "token expired"

end TokenError

end FoodOrdering

/-! ## Shown tokens -/

namespace FoodOrdering.Token

def bearerMark : List Char := ['B', 'e', 'a', 'r', 'e', 'r', ' ']

/-- The text of a header that shows a token, less the mark and the blanks around the token. -/
def afterBearer? (text : String) : Option String :=
  if bearerMark.isPrefixOf text.toList then
    let token := Text.trimChars (text.toList.drop bearerMark.length)
    if token.isEmpty then none else some (String.ofList token)
  else none

/-- The token that a request shows. -/
def bearer (headers : Http.Headers) : Except TokenError String :=
  match (headers.getText? "authorization").bind afterBearer? with
  | some token => .ok token
  | none => .error .missingHeader

end FoodOrdering.Token
