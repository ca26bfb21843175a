import FoodOrdering.Gateway.Route
import FoodOrdering.Http.Message
import FoodOrdering.Identity.Headers
import FoodOrdering.Metrics
import FoodOrdering.Token.Bearer

/-!
# The gate

Every request passes here before anything else is done with it.  Identity headers from outside are
dropped on every path; a route that needs a token is entered with a verified one only, and then
with identity headers made from its claims.
-/

namespace FoodOrdering.Gateway

/-! ## What the gateway counts -/

inductive Counter where
  /-- A request passed with a verified token. -/
  | accepted
  /-- A request was turned away for its token. -/
  | rejected (kind : String)
  /-- A request passed on a route without tokens. -/
  | withoutToken
  /-- So many values of identity headers came from outside. -/
  | spoofed (count : Nat)
  /-- A service gave no answer. -/
  | serviceFailed
  deriving DecidableEq, Repr

def Counter.measurement : Counter → Measurement
  | .accepted => .one "bb_gateway.auth.accepted" []
  | .rejected kind => .one "bb_gateway.auth.rejected" [("kind", kind)]
  | .withoutToken => .one "bb_gateway.auth.public" []
  | .spoofed count => { name := "bb_gateway.auth.spoofed_headers", labels := [], amount := count }
  | .serviceFailed => .one "bb_gateway.upstream.failed" []

/-!
## Requests that the gateway does not serve

Each cause has a text for the log and a response.  What is shown to the caller says no more than
the cause, apart from a refused token.
-/

inductive Fault where
  | unauthorized (reason : String)
  | noRoute (path : String)
  | badRequest (detail : String)
  /-- The service could not be reached, or its answer broke off. -/
  | service (detail : String)
  deriving DecidableEq, Repr

namespace Fault

def text : Fault → String
  | .unauthorized reason => "Unauthorized: " ++ reason
  | .noRoute path => "No route for " ++ path
  | .badRequest detail => "Bad request: " ++ detail
  | .service detail => "Upstream error: " ++ detail

def response : Fault → Http.Response
  | .unauthorized reason => .plainText 401 reason
  | .noRoute _ => .plainText 404 "No matching route found"
  | .badRequest _ => .plainText 400 "Bad request"
  | .service _ => .plainText 502 "Bad gateway"

end Fault

/-! ## Passing -/

/-- A request behind the gate, with its route if it has one. -/
structure Admission where
  request : Http.Request
  route : Option Route

/-- What the gate did with a request. -/
structure Passage where
  outcome : Except TokenError Admission
  /-- The tokens that were shown to the verifier. -/
  verified : List String
  counters : List Counter

/-- The request without identity headers. -/
def withoutIdentity (request : Http.Request) : Http.Request :=
  { request with headers := IdentityHeaders.strip request.headers }

/-- Enter a route that needs a token. -/
def enter (verify : String → Except TokenError Claims) (route : Route) (request : Http.Request) :
    Passage :=
  match Token.bearer request.headers with
  | .error fault => ⟨.error fault, [], [.rejected fault.kind]⟩
  | .ok token =>
      match verify token >>= fun claims => IdentityHeaders.mint claims request.headers with
      | .error fault => ⟨.error fault, [token], [.rejected fault.kind]⟩
      | .ok headers => ⟨.ok ⟨{ request with headers }, some route⟩, [token], [.accepted]⟩

/-- Pass a request whose identity headers are gone. -/
def passBare (routes : RouteTable) (verify : String → Except TokenError Claims)
    (request : Http.Request) : Passage :=
  match routes.resolve request.target.path with
  | none => ⟨.ok ⟨request, none⟩, [], []⟩
  | some route =>
      if route.authenticated then enter verify route request
      else ⟨.ok ⟨request, some route⟩, [], [.withoutToken]⟩

/-- What is counted of identity headers from outside. -/
def spoofedCounters (headers : Http.Headers) : List Counter :=
  let count := IdentityHeaders.count headers
  if count = 0 then [] else [.spoofed count]

def pass (routes : RouteTable) (verify : String → Except TokenError Claims)
    (request : Http.Request) : Passage :=
  let passage := passBare routes verify (withoutIdentity request)
  { passage with counters := spoofedCounters request.headers ++ passage.counters }

/-- What a caller is told whose token is refused. -/
def refusal (fault : TokenError) : Fault :=
  match fault with
  | .missingHeader => .unauthorized fault.reason
  | fault => .unauthorized ("JWT verification failed: " ++ fault.reason)

end FoodOrdering.Gateway
