import FoodOrdering.Gateway.Proxy
import FoodOrdering.Http.Endpoint

/-!
# The gateway

What goes in is a request; what comes out is a response, the tokens that were verified, the
requests that were made, and what was counted.  Nothing else has an effect.
-/

namespace FoodOrdering

structure Gateway where
  routes : RouteTable
  /-- The claims of a token. -/
  verify : String → Except TokenError Claims
  client : Http.Client

namespace Gateway

/-- All that handling a request did. -/
structure Handled where
  response : Http.Response
  verified : List String
  sent : List Http.Outgoing
  counters : List Counter

/-- The methods of the paths that are not handed on. -/
def knownMethods (path : String) : Option Http.Methods :=
  if path = Health.path then some ⟨["GET", "HEAD"]⟩ else none

/-- What is done with a request behind the gate. -/
def serve (gateway : Gateway) (now : Instant) (admission : Admission) : Forwarding :=
  match knownMethods admission.request.target.path with
  | none => forward gateway.client admission
  | some methods =>
      if methods.takes admission.request.method then
        ⟨.ok (Health.answer "bb-gateway" now), [], []⟩
      else ⟨.ok (.bare 405), [], []⟩

def outcomeResponse : Except Fault Http.Response → Http.Response
  | .ok response => response
  | .error fault => fault.response

/-- What is done with a request that is no browser's question. -/
def handleInner (gateway : Gateway) (now : Instant) (request : Http.Request) : Handled :=
  let passage := pass gateway.routes gateway.verify request
  match passage.outcome with
  | .error fault =>
      { response := (refusal fault).response
        verified := passage.verified, sent := [], counters := passage.counters }
  | .ok admission =>
      let forwarding := gateway.serve now admission
      { response := outcomeResponse forwarding.outcome
        verified := passage.verified
        sent := forwarding.sent
        counters := passage.counters ++ forwarding.counters }

def handle (gateway : Gateway) (now : Instant) (request : Http.Request) : Handled :=
  let methods := knownMethods request.target.path
  if request.method = Http.CrossOrigin.question then
    { response := Http.finished methods request.method Http.CrossOrigin.permission
      verified := [], sent := [], counters := [] }
  else
    let handled := gateway.handleInner now request
    { handled with
      response :=
        Http.finished methods request.method (Http.CrossOrigin.opened handled.response) }

end Gateway

end FoodOrdering
