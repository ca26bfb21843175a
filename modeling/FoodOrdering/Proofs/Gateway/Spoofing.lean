import FoodOrdering.Proofs.Gateway.Passage
import FoodOrdering.Proofs.Http.Response

/-!
# Forged identity headers

Two requests that differ in nothing but the identity headers they came with are one request to the
gateway.  Behind the gate nothing is left of what differs, and what is counted of it stays a count.
-/

namespace FoodOrdering

namespace IdentityHeaders

/-- A name as it comes in is that of one of the three headers, in whatever letter case. -/
def isIdentityName (name : String) : Bool :=
  names.any fun known => Text.sameIgnoringCase name known

/-- What comes in under other names. -/
def others (fields : List (String × List UInt8)) : List (String × List UInt8) :=
  fields.filter fun field => !isIdentityName field.1

theorem contains_lowerAscii (name : String) :
    names.contains (Text.lowerAscii name) = isIdentityName name := by
  have hlower : names.map Text.lowerAscii = names := by decide
  unfold isIdentityName Text.sameIgnoringCase
  rw [← hlower, List.contains_eq_any_beq, List.any_map, hlower]
  rfl

theorem strip_ofList (fields : List (String × List UInt8)) :
    strip (.ofList fields) = .ofList (others fields) := by
  rw [strip, Http.Headers.removeAll, Http.Headers.ofList, others, List.filter_map]
  refine congrArg Http.Headers.mk (congrArg (List.map _) (List.filter_congr ?_))
  intro field _
  exact congrArg Bool.not (contains_lowerAscii field.1)

end IdentityHeaders

/-- The request with these fields, as they come in. -/
def Http.Request.withFields (request : Http.Request) (fields : List (String × List UInt8)) :
    Http.Request :=
  { request with headers := .ofList fields }

namespace Gateway

theorem withoutIdentity_withFields_congr (request : Http.Request)
    {first second : List (String × List UInt8)}
    (h : IdentityHeaders.others first = IdentityHeaders.others second) :
    withoutIdentity (request.withFields first) = withoutIdentity (request.withFields second) := by
  unfold withoutIdentity Http.Request.withFields
  dsimp only
  rw [IdentityHeaders.strip_ofList, IdentityHeaders.strip_ofList, h]

def Counter.isSpoofed : Counter → Bool
  | .spoofed _ => true
  | _ => false

/-- What was counted apart from identity headers from outside. -/
def ownCounters (counters : List Counter) : List Counter :=
  counters.filter fun counter => !counter.isSpoofed

theorem ownCounters_append (first second : List Counter) :
    ownCounters (first ++ second) = ownCounters first ++ ownCounters second :=
  List.filter_append first second

@[simp]
theorem ownCounters_spoofedCounters (headers : Http.Headers) :
    ownCounters (spoofedCounters headers) = [] := by
  unfold spoofedCounters
  dsimp only
  split
  · rfl
  · rfl

/-! ## Time -/

/-- Behind the gate the time shows in the body of a health answer and nowhere else. -/
theorem serve_eq_or (gateway : Gateway) (now later : Instant) (admission : Admission) :
    gateway.serve now admission = gateway.serve later admission ∨
      (admission.request.target.path = Health.path ∧
        gateway.serve now admission = ⟨.ok (Health.answer "bb-gateway" now), [], []⟩ ∧
        gateway.serve later admission = ⟨.ok (Health.answer "bb-gateway" later), [], []⟩) := by
  unfold serve knownMethods
  by_cases hpath : admission.request.target.path = Health.path
  · rw [if_pos hpath]
    dsimp only
    split
    · exact Or.inr ⟨hpath, rfl, rfl⟩
    · exact Or.inl rfl
  · rw [if_neg hpath]
    exact Or.inl rfl

/-! ## The same for both -/

/-- Two handlings, one at each of two instants, that nobody can tell apart: the same requests were
made and the same tokens verified, the same was counted of what the gateway itself did, and the
responses are the same but for the time in a health answer. -/
structure Handled.Alike (path : String) (now later : Instant) (one other : Handled) : Prop where
  sent_eq : one.sent = other.sent
  verified_eq : one.verified = other.verified
  counters_eq : ownCounters one.counters = ownCounters other.counters
  status_eq : one.response.status = other.response.status
  headers_eq : one.response.headers = other.response.headers
  body_eq : one.response.body = other.response.body ∨
    (path = Health.path ∧ one.response.body = (Health.answer "bb-gateway" now).body ∧
      other.response.body = (Health.answer "bb-gateway" later).body)

/-- Of a request the gate sees what is left without its identity headers. -/
theorem pass_congr (routes : RouteTable) (verify : String → Except TokenError Claims)
    {first second : Http.Request} (h : withoutIdentity first = withoutIdentity second) :
    (pass routes verify first).outcome = (pass routes verify second).outcome ∧
      (pass routes verify first).verified = (pass routes verify second).verified ∧
      ownCounters (pass routes verify first).counters =
        ownCounters (pass routes verify second).counters := by
  unfold pass
  rw [h]
  refine ⟨rfl, rfl, ?_⟩
  dsimp only
  simp only [ownCounters_append, ownCounters_spoofedCounters]

theorem alike_handleInner (gateway : Gateway) (now later : Instant) {first second : Http.Request}
    (h : withoutIdentity first = withoutIdentity second) :
    Handled.Alike first.target.path now later (gateway.handleInner now first)
      (gateway.handleInner later second) := by
  obtain ⟨houtcome, hverified, hcounters⟩ := pass_congr gateway.routes gateway.verify h
  cases hfirst : (pass gateway.routes gateway.verify first).outcome with
  | error fault =>
      rw [handleInner_of_error hfirst, handleInner_of_error (houtcome ▸ hfirst)]
      exact ⟨rfl, hverified, hcounters, rfl, rfl, Or.inl rfl⟩
  | ok admission =>
      have hbare : (passBare gateway.routes gateway.verify (withoutIdentity first)).outcome =
          .ok admission := hfirst
      have htarget : admission.request.target = (withoutIdentity first).target :=
        target_of_passBare hbare
      rw [handleInner_of_ok hfirst, handleInner_of_ok (houtcome ▸ hfirst)]
      rcases serve_eq_or gateway now later admission with hsame | ⟨hpath, hnow, hlater⟩
      · rw [hsame]
        refine ⟨rfl, hverified, ?_, rfl, rfl, Or.inl rfl⟩
        dsimp only
        rw [ownCounters_append, ownCounters_append, hcounters]
      · rw [hnow, hlater]
        rw [htarget] at hpath
        refine ⟨rfl, hverified, ?_, ?_, ?_, Or.inr ⟨hpath, rfl, rfl⟩⟩
        · dsimp only
          rw [ownCounters_append, ownCounters_append, hcounters]
        · exact (Health.status_answer _ now).trans (Health.status_answer _ later).symm
        · exact (Health.headers_answer _ now).trans (Health.headers_answer _ later).symm

/-- Finishing two responses in the same way keeps them alike. -/
theorem Handled.Alike.finish {path method : String} {now later : Instant} {one other : Handled}
    (alike : Handled.Alike path now later one other) (methods : Option Http.Methods) :
    Handled.Alike path now later
      { one with
        response := Http.finished methods method (Http.CrossOrigin.opened one.response) }
      { other with
        response := Http.finished methods method (Http.CrossOrigin.opened other.response) } := by
  refine ⟨alike.sent_eq, alike.verified_eq, alike.counters_eq, ?_, ?_, ?_⟩
  · simp only [Http.status_finished, Http.CrossOrigin.status_opened, alike.status_eq]
  · apply Http.headers_finished_congr
    unfold Http.CrossOrigin.opened Http.Response.withHeader
    rw [alike.headers_eq]
  · rw [Http.body_finished, Http.body_finished]
    by_cases hhead : method = "HEAD"
    · rw [if_pos hhead, if_pos hhead]
      exact Or.inl rfl
    · rw [if_neg hhead, if_neg hhead]
      exact alike.body_eq

/-- Forged identity headers have no influence at the edge: whatever two requests hold under the
three names, the gateway does the same for both. -/
theorem forged_headers_have_no_influence (gateway : Gateway) (now later : Instant)
    (request : Http.Request) (first second : List (String × List UInt8))
    (h : IdentityHeaders.others first = IdentityHeaders.others second) :
    Handled.Alike request.target.path now later
      (gateway.handle now (request.withFields first))
      (gateway.handle later (request.withFields second)) := by
  have hbare := withoutIdentity_withFields_congr request h
  have halike := alike_handleInner gateway now later hbare
  unfold handle
  dsimp only
  by_cases hquestion : request.method = Http.CrossOrigin.question
  · rw [if_pos (show (request.withFields first).method = _ from hquestion),
      if_pos (show (request.withFields second).method = _ from hquestion)]
    exact ⟨rfl, rfl, rfl, rfl, rfl, Or.inl rfl⟩
  · rw [if_neg (show ¬ (request.withFields first).method = _ from hquestion),
      if_neg (show ¬ (request.withFields second).method = _ from hquestion)]
    exact halike.finish (knownMethods request.target.path)

/-- A forged administrator on an authenticated route, a minute apart from the honest request. -/
theorem forged_administrator_has_no_influence :
    let claims : Claims := { sub := "7", role := "CUSTOMER", email := "", iat := 0, exp := 9 }
    let gateway : Gateway :=
      { routes := .ofList [⟨"/api", "http://orders:8081/", true⟩]
        verify := fun token => if token = "t" then .ok claims else .error .invalidSignature
        client := fun _ => .error .unreachable }
    let request : Http.Request :=
      { method := "GET", target := ⟨"/api/orders", some "page=1"⟩, headers := .empty
        body := .empty, peer := none }
    let authorization := ("Authorization", Text.utf8 "Bearer t")
    let forged :=
      [("X-USER-ROLE", Text.utf8 "ADMIN"), authorization, ("x-user-Id", [0xff]),
        ("X-User-Role", Text.utf8 "OWNER")]
    IdentityHeaders.others forged = IdentityHeaders.others [authorization] ∧
      Handled.Alike "/api/orders" (.ofSeconds 0) (.ofSeconds 60)
        (gateway.handle (.ofSeconds 0) (request.withFields forged))
        (gateway.handle (.ofSeconds 60) (request.withFields [authorization])) := by
  intro claims gateway request authorization forged
  have hothers : IdentityHeaders.others forged = IdentityHeaders.others [authorization] := by
    decide
  exact ⟨hothers, forged_headers_have_no_influence gateway _ _ request forged [authorization]
    hothers⟩

end Gateway

end FoodOrdering
