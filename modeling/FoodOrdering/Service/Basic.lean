import FoodOrdering.Http.Message
import FoodOrdering.Identity.Reconstruct
import FoodOrdering.Service.Resource

/-!
# The service

What goes in is a request and the stores; what comes out is a response, the stores, and what was
counted and announced.  An identity counts if its headers come from a peer that is trusted.
-/

namespace FoodOrdering

structure Service where
  /-- The peers that are trusted with identity headers. -/
  zone : TrustZone

namespace Service

/-- All that handling a request did. -/
structure Handled where
  response : Http.Response
  stores : Stores
  effects : List Effect

/-- The request as programs know it. -/
def callOf (service : Service) (now : Instant) (request : Http.Request) : Call :=
  { caller := Identity.reconstruct service.zone request.peer request.headers, request, now }

/-- A caller without an identity is counted. -/
def callerEffects (call : Call) : List Effect :=
  if call.caller.isNone then [.counted .anonymous] else []

/-- The program for a request; an unknown path or method gets a bare status. -/
def programOf (call : Call) : Program Http.Response :=
  match Resource.ofPath? call.request.target.path with
  | none => .done (.ok (.bare 404))
  | some resource =>
      match resource.action? call.request.method with
      | none => .done (.ok (.bare 405))
      | some action => action.program call

/-- The response that a program ends with. -/
def outcomeResponse (now : Instant) : Except Problem Http.Response → Http.Response
  | .ok response => response
  | .error problem => (Envelope.ofProblem problem).response now

def knownMethods (path : String) : Option Http.Methods :=
  (Resource.ofPath? path).map Resource.methods

/-- What goes out for a request. -/
def sent (request : Http.Request) (response : Http.Response) : Http.Response :=
  Http.finished (knownMethods request.target.path) request.method response

def handle (service : Service) (now : Instant) (stores : Stores) (request : Http.Request) :
    Handled :=
  if request.method = Http.CrossOrigin.question then
    { response := sent request Http.CrossOrigin.permission, stores, effects := [] }
  else
    let call := service.callOf now request
    let run := (programOf call).run stores
    { response := sent request (Http.CrossOrigin.opened (outcomeResponse now run.outcome))
      stores := run.stores
      effects := callerEffects call ++ run.effects }

end Service

/-- What was counted. -/
def Service.counters (effects : List Service.Effect) : List Service.Counter :=
  effects.filterMap fun
    | .counted counter => some counter
    | .announced _ => none

/-- The orders whose events were announced. -/
def Service.announcements (effects : List Service.Effect) : List Order :=
  effects.filterMap fun
    | .counted _ => none
    | .announced order => some order

end FoodOrdering
