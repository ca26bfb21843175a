import FoodOrdering.Gateway.Gate
import FoodOrdering.Http.Message
import FoodOrdering.Network.Url

/-!
# Handing requests on

A request behind the gate goes to the service of its route, and the service's answer goes back.
The headers of a fixed list stay behind both ways.
-/

/-!
## Requests to other programs

A client sends a request to an address that is given as a text.  What is no address reaches
nobody.
-/

namespace FoodOrdering.Http

structure Outgoing where
  method : String
  address : String
  headers : Headers
  body : ByteArray

/-- Why there is no response. -/
inductive ClientFault where
  /-- The request reached nobody. -/
  | unreachable
  /-- The response broke off. -/
  | interrupted
  deriving DecidableEq, Repr

/-- What becomes of each request. -/
abbrev Client : Type := Outgoing → Except ClientFault Response

/-- The client that hands a request to what is found at its address. -/
def Client.over (network : Url → Outgoing → Except ClientFault Response) : Client :=
  fun request =>
    match Url.parse request.address with
    | none => .error .unreachable
    | some url => network url request

end FoodOrdering.Http

/-! ## Forwarding -/

namespace FoodOrdering.Gateway

/-- The largest body that is handed on, in bytes. -/
def maxBody : Nat := 10 * 1024 * 1024

/-- The headers that are not handed on; the length is that of the body which is sent. -/
def connectionHeaders : List String :=
  ["connection", "host", "proxy-authenticate", "proxy-authorization", "te", "trailer",
    "transfer-encoding", "upgrade", "content-length"]

/-- The headers that are handed on. -/
def forwardable (headers : Http.Headers) : Http.Headers :=
  headers.removeAll connectionHeaders

/-- What became of a request behind the gate. -/
structure Forwarding where
  outcome : Except Fault Http.Response
  /-- The requests that were made. -/
  sent : List Http.Outgoing
  counters : List Counter

/-- The part of a target behind the host, which is at least a slash. -/
def targetText (target : Http.Target) : String :=
  if target.text.isEmpty then "/" else target.text

/-- The request that is made on a route. -/
def outgoing (route : Route) (request : Http.Request) : Http.Outgoing :=
  { method := request.method
    address := route.address (targetText request.target)
    headers := forwardable request.headers
    body := request.body }

/-- What the log tells of a service that gave no answer. -/
def failure (request : Http.Outgoing) : Http.ClientFault → Fault
  | .unreachable => .service (request.method ++ " " ++ request.address ++ " failed")
  | .interrupted => .service ("reading response from " ++ request.address ++ " failed")

def forward (client : Http.Client) (admission : Admission) : Forwarding :=
  let request := admission.request
  match admission.route with
  | none => ⟨.error (.noRoute request.target.path), [], []⟩
  | some route =>
      if maxBody < request.body.size then ⟨.error (.badRequest "length limit exceeded"), [], []⟩
      else
        let outgoing := outgoing route request
        match client outgoing with
        | .error fault => ⟨.error (failure outgoing fault), [outgoing], [.serviceFailed]⟩
        | .ok reply =>
            ⟨.ok { reply with headers := forwardable reply.headers }, [outgoing], []⟩

end FoodOrdering.Gateway
