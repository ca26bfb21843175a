import FoodOrdering.Gateway.Basic
import FoodOrdering.Proofs.Gateway.Connection
import FoodOrdering.Proofs.Text.Blank

/-!
# What forwarding leaves as it was

A request that is forwarded reaches the service of its route in one call, and what the service
answers reaches the caller.  Main statement: method, path, query and body, status and body pass
unchanged, headers pass by their names, and whatever else comes of a request is one of three
refusals, two of them without a call.
-/

namespace FoodOrdering

/-- This is the address of a service, without the slashes at its end, with the path and the query of
a target behind it, or with a slash if there is neither. -/
def Route.Reaches (route : Route) (target : Http.Target) (address : String) : Prop :=
  ∃ base slashes : List Char, route.service.toList = base ++ slashes ∧ (∀ c ∈ slashes, c = '/') ∧
    base.getLast? ≠ some '/' ∧
    address.toList = base ++ (if target.text = "" then "/" else target.text).toList

namespace Gateway

/-- A request to a service carries the request that came for its route. -/
structure Carries (route : Route) (request : Http.Request) (outgoing : Http.Outgoing) : Prop where
  method_eq : outgoing.method = request.method
  address : route.Reaches request.target outgoing.address
  body_eq : outgoing.body = request.body
  headers : HandsOn request.headers outgoing.headers
  /-- The headers that were made from a token are among them. -/
  identity : ∀ name ∈ IdentityHeaders.names,
    outgoing.headers.getAll name = request.headers.getAll name

/-- A response to a caller brings what a service has answered. -/
structure Brings (reply response : Http.Response) : Prop where
  status_eq : response.status = reply.status
  body_eq : response.body = reply.body
  headers : HandsOn reply.headers response.headers

/-- The request was turned away, and no service was called. -/
structure Forwarding.Refuses (forwarding : Forwarding) (status : Nat) (text : String) : Prop where
  response_eq : outcomeResponse forwarding.outcome = .plainText status text
  sent_eq : forwarding.sent = []
  counters_eq : forwarding.counters = []

/-- The request was turned away because its call was in vain, which was counted. -/
structure Forwarding.Fails (forwarding : Forwarding) : Prop where
  response_eq : outcomeResponse forwarding.outcome = .plainText 502 "Bad gateway"
  counters_eq : forwarding.counters = [.serviceFailed]

/-! ## The call -/

variable {client : Http.Client} {route : Route} {request : Http.Request}

theorem address_reaches (route : Route) (target : Http.Target) :
    route.Reaches target (route.address (targetText target)) := by
  obtain ⟨slashes, hservice, hslashes, hlast⟩ :=
    Text.exists_behind_dropEnd (· == '/') route.service.toList
  refine ⟨_, slashes, hservice, fun c hc => eq_of_beq (hslashes c hc), ?_, ?_⟩
  · exact fun hslash => absurd (hlast '/' hslash) (by decide)
  · have htext : targetText target = if target.text = "" then "/" else target.text := by
      simp [targetText]
    rw [Route.address, String.toList_append, String.toList_ofList, htext]

theorem outgoing_carries (route : Route) (request : Http.Request) :
    Carries route request (outgoing route request) where
  method_eq := rfl
  address := address_reaches route request.target
  body_eq := rfl
  headers := handsOn_forwardable request.headers
  identity := by
    have hothers : ∀ name ∈ IdentityHeaders.names, name ∉ connectionHeaders := by decide
    exact fun name hname => (handsOn_forwardable request.headers).kept name (hothers name hname)

theorem forwardable_brings (reply : Http.Response) :
    Brings reply { reply with headers := forwardable reply.headers } :=
  ⟨rfl, rfl, handsOn_forwardable reply.headers⟩

theorem forward_of_le (hsize : request.body.size ≤ maxBody) :
    forward client ⟨request, some route⟩ =
      match client (outgoing route request) with
      | .error fault =>
          ⟨.error (failure (outgoing route request) fault), [outgoing route request],
            [.serviceFailed]⟩
      | .ok reply =>
          ⟨.ok { reply with headers := forwardable reply.headers }, [outgoing route request], []⟩ :=
  if_neg (Nat.not_lt.2 hsize)

theorem forward_of_lt (hsize : maxBody < request.body.size) :
    forward client ⟨request, some route⟩ = ⟨.error (.badRequest "length limit exceeded"), [], []⟩ :=
  if_pos hsize

theorem sent_of_le (hsize : request.body.size ≤ maxBody) :
    (forward client ⟨request, some route⟩).sent = [outgoing route request] := by
  rw [forward_of_le hsize]
  cases client (outgoing route request) with
  | error fault => rfl
  | ok reply => rfl

/-- The client has no part in what comes of a request but by its answer to the call that is made. -/
theorem forward_congr {other : Http.Client} {admission : Admission}
    (h : ∀ outgoing ∈ (forward client admission).sent, client outgoing = other outgoing) :
    forward client admission = forward other admission := by
  obtain ⟨request, _ | route⟩ := admission
  · rfl
  rcases Nat.lt_or_ge maxBody request.body.size with hlarge | hsmall
  · rw [forward_of_lt hlarge, forward_of_lt hlarge]
  · rw [sent_of_le hsmall] at h
    rw [forward_of_le hsmall, forward_of_le hsmall, h _ (List.mem_singleton_self _)]

/-! ## All that comes of a request -/

/-- A request with a route and a body of 10 MiB at most is carried to the service in one call, and
the caller is brought the answer; a call in vain is counted and answered with 502.  A larger body is
answered with 400 and a request without a route with 404, and neither makes a call.  No call but
those is of any consequence. -/
theorem forwarding_is_transparent (client : Http.Client) (request : Http.Request) :
    (∀ route, request.body.size ≤ 10 * 1024 * 1024 →
      ∃ outgoing, Carries route request outgoing ∧
        (forward client ⟨request, some route⟩).sent = [outgoing] ∧
        (∀ reply, client outgoing = .ok reply →
          (forward client ⟨request, some route⟩).counters = [] ∧
            Brings reply (outcomeResponse (forward client ⟨request, some route⟩).outcome)) ∧
        ∀ fault, client outgoing = .error fault →
          (forward client ⟨request, some route⟩).Fails) ∧
      (∀ route, 10 * 1024 * 1024 < request.body.size →
        (forward client ⟨request, some route⟩).Refuses 400 "Bad request") ∧
      (forward client ⟨request, none⟩).Refuses 404 "No matching route found" ∧
      ∀ (other : Http.Client) (route : Option Route),
        (∀ outgoing ∈ (forward client ⟨request, route⟩).sent, client outgoing = other outgoing) →
          forward client ⟨request, route⟩ = forward other ⟨request, route⟩ := by
  refine ⟨?_, ?_, ⟨rfl, rfl, rfl⟩, fun other route hcalls => forward_congr hcalls⟩
  · intro route hsize
    refine ⟨outgoing route request, outgoing_carries route request, sent_of_le hsize, ?_, ?_⟩
    · intro reply hreply
      rw [forward_of_le hsize, hreply]
      exact ⟨rfl, forwardable_brings reply⟩
    · intro fault hfault
      rw [forward_of_le hsize, hfault]
      cases fault with
      | unreachable => exact ⟨rfl, rfl⟩
      | interrupted => exact ⟨rfl, rfl⟩
  · intro route hsize
    rw [forward_of_lt hsize]
    exact ⟨rfl, rfl, rfl⟩

/-- An order with the headers of a token is answered, fails with a client that reaches nobody, and
with a larger body is kept from every client. -/
theorem order_is_forwarded :
    let route : Route := ⟨"/api/orders", "http://orders:8081//", true⟩
    let order : Http.Request :=
      { method := "POST", target := ⟨"/api/orders", some "dry=1"⟩
        headers := .ofList
          [("Host", Text.utf8 "edge"), ("X-User-Id", Text.utf8 "42"),
            ("Accept", Text.utf8 "text/html"), ("Accept", Text.utf8 "*/*")]
        body := ⟨#[0x7b, 0x7d]⟩, peer := none }
    let large : Http.Request := { order with body := ⟨Array.replicate (10 * 1024 * 1024 + 1) 0x20⟩ }
    let client : Http.Client := fun _ => .ok (.plainText 201 "placed")
    let nobody : Http.Client := fun _ => .error .unreachable
    (∃ outgoing, (forward client ⟨order, some route⟩).sent = [outgoing] ∧
      outgoing.method = "POST" ∧ outgoing.headers.getAll "x-user-id" = [Text.utf8 "42"] ∧
      outgoing.headers.getAll "accept" = [Text.utf8 "text/html", Text.utf8 "*/*"] ∧
      outgoing.headers.getAll "host" = [] ∧
      (outcomeResponse (forward client ⟨order, some route⟩).outcome).status = 201) ∧
      (forward nobody ⟨order, some route⟩).Fails ∧
      (forward client ⟨large, some route⟩).Refuses 400 "Bad request" ∧
      forward client ⟨large, some route⟩ = forward nobody ⟨large, some route⟩ := by
  intro route order large client nobody
  have hsmall : order.body.size ≤ 10 * 1024 * 1024 := by decide
  have hlarge : 10 * 1024 * 1024 < large.body.size := by
    show 10 * 1024 * 1024 < (Array.replicate (10 * 1024 * 1024 + 1) (0x20 : UInt8)).size
    rw [Array.size_replicate]
    exact Nat.lt_succ_self _
  obtain ⟨hforward, -⟩ := forwarding_is_transparent client order
  obtain ⟨outgoing, hcarries, hsent, hanswer, -⟩ := hforward route hsmall
  obtain ⟨_, -, -, -, hfail⟩ := (forwarding_is_transparent nobody order).1 route hsmall
  have hrefused := (forwarding_is_transparent client large).2.1 route hlarge
  refine ⟨⟨outgoing, hsent, hcarries.method_eq, ?_, ?_, ?_, ?_⟩, hfail _ rfl, hrefused, ?_⟩
  · exact (hcarries.identity _ (by decide)).trans (by decide +kernel)
  · exact (hcarries.headers.kept _ (by decide)).trans (by decide +kernel)
  · exact hcarries.headers.dropped _ (by decide)
  · exact (hanswer _ rfl).2.status_eq
  · apply (forwarding_is_transparent client large).2.2.2
    rw [hrefused.sent_eq]
    exact nofun

end Gateway

end FoodOrdering
