import FoodOrdering.Proofs.Gateway.Passage
import FoodOrdering.Proofs.Http.Response
import FoodOrdering.Proofs.Identity.Minting
import FoodOrdering.Proofs.Token.Bearer

/-!
# Complete mediation

Nothing is served that the gate has not passed.  An authenticated route is entered with an accepted
token about a positive user id and with nothing less, and only there do identity headers stand
behind the gate.
-/

namespace FoodOrdering

namespace Token

/-- The identity headers have no part in which token is shown. -/
theorem shows_strip_iff {headers : Http.Headers} {token : String} :
    Shows (IdentityHeaders.strip headers) token ↔ Shows headers token := by
  unfold Shows IdentityHeaders.strip
  rw [Http.Headers.get?_removeAll_of_notMem (by decide)]

end Token

namespace Gateway

/-- What opens an authenticated route: a token that the request shows and the verifier accepts, with
claims about a positive user id. -/
structure Opens (verify : String → Except TokenError Claims) (headers : Http.Headers)
    (token : String) (claims : Claims) (id : Int64) : Prop where
  shown : Token.Shows headers token
  accepted : verify token = .ok claims
  subject : claims.HasSubject id

/-- A request that is passed on differs from the one that came in by its identity headers at most,
and these are the given fields. -/
structure PassesOn (request passed : Http.Request) (identity : List Http.Field) : Prop where
  rest_eq : withoutIdentity passed = withoutIdentity request
  identity_eq : (passed.headers.fields.filter fun field =>
    IdentityHeaders.names.contains field.name) = identity

/-- The gate has decided on a token, or let a request pass that needs none. -/
def Counter.isVerdict : Counter → Bool
  | .accepted | .rejected _ | .withoutToken => true
  | .spoofed _ | .serviceFailed => false

def verdicts (counters : List Counter) : List Counter :=
  counters.filter Counter.isVerdict

theorem verdicts_append (first second : List Counter) :
    verdicts (first ++ second) = verdicts first ++ verdicts second :=
  List.filter_append first second

theorem verdicts_spoofedCounters (headers : Http.Headers) :
    verdicts (spoofedCounters headers) = [] := by
  unfold spoofedCounters
  dsimp only
  split
  · rfl
  · rfl

/-- Serving a request that has passed gives no second verdict. -/
theorem verdicts_serve (gateway : Gateway) (now : Instant) (admission : Admission) :
    verdicts (gateway.serve now admission).counters = [] := by
  unfold serve
  split
  · unfold forward
    dsimp only
    split
    · rfl
    · split
      · rfl
      · split
        · rfl
        · rfl
  · split
    · rfl
    · rfl

/-! ## The four ways through the gate -/

section

variable {routes : RouteTable} {verify : String → Except TokenError Claims}
variable {request : Http.Request} {route : Route}

theorem passesOn_withoutIdentity (request : Http.Request) :
    PassesOn request (withoutIdentity request) [] := by
  refine ⟨?_, ?_⟩
  · unfold withoutIdentity
    dsimp only
    rw [IdentityHeaders.strip_strip]
  · rw [List.filter_eq_nil_iff]
    intro field hfield hname
    have hkept := (List.mem_filter.1 hfield).2
    rw [hname] at hkept
    cases hkept

theorem passesOn_minted (request : Http.Request) (claims : Claims) (id : Int64) :
    PassesOn request
      { request with headers := IdentityHeaders.minted claims id request.headers }
      (IdentityHeaders.mintedFields claims id) := by
  refine ⟨?_, ?_⟩
  · unfold withoutIdentity
    dsimp only
    rw [IdentityHeaders.strip_minted]
  · have hgone := (passesOn_withoutIdentity request).identity_eq
    unfold IdentityHeaders.minted
    dsimp only
    rw [List.filter_append]
    have hstripped : ((IdentityHeaders.strip request.headers).fields.filter fun field =>
        IdentityHeaders.names.contains field.name) = [] := hgone
    rw [hstripped]
    rfl

theorem pass_unmatched (verify : String → Except TokenError Claims)
    (h : routes.resolve request.target.path = none) :
    pass routes verify request =
      ⟨.ok ⟨withoutIdentity request, none⟩, [], spoofedCounters request.headers ++ []⟩ := by
  have hbare : passBare routes verify (withoutIdentity request) =
      ⟨.ok ⟨withoutIdentity request, none⟩, [], []⟩ := by
    rw [passBare, show (withoutIdentity request).target = request.target from rfl, h]
  rw [pass, hbare]

theorem pass_public (verify : String → Except TokenError Claims)
    (h : routes.resolve request.target.path = some route)
    (hpublic : route.authenticated = false) :
    pass routes verify request =
      ⟨.ok ⟨withoutIdentity request, some route⟩, [],
        spoofedCounters request.headers ++ [.withoutToken]⟩ := by
  have hbare : passBare routes verify (withoutIdentity request) =
      ⟨.ok ⟨withoutIdentity request, some route⟩, [], [.withoutToken]⟩ := by
    rw [passBare, show (withoutIdentity request).target = request.target from rfl, h]
    dsimp only
    rw [hpublic]
    rfl
  rw [pass, hbare]

theorem passBare_authenticated (h : routes.resolve request.target.path = some route)
    (hauthenticated : route.authenticated = true) :
    passBare routes verify (withoutIdentity request) =
      enter verify route (withoutIdentity request) := by
  rw [passBare, show (withoutIdentity request).target = request.target from rfl, h]
  dsimp only
  rw [if_pos hauthenticated]

theorem enter_of_no_token {fault : TokenError} (h : Token.bearer request.headers = .error fault) :
    enter verify route request = ⟨.error fault, [], [.rejected fault.kind]⟩ := by
  rw [enter, h]

theorem enter_of_error {token : String} {fault : TokenError}
    (h : Token.bearer request.headers = .ok token)
    (hclaims : (verify token >>= fun claims => IdentityHeaders.mint claims request.headers) =
      .error fault) :
    enter verify route request = ⟨.error fault, [token], [.rejected fault.kind]⟩ := by
  rw [enter, h]
  dsimp only
  rw [hclaims]

theorem enter_of_ok {token : String} {headers : Http.Headers}
    (h : Token.bearer request.headers = .ok token)
    (hclaims : (verify token >>= fun claims => IdentityHeaders.mint claims request.headers) =
      .ok headers) :
    enter verify route request =
      ⟨.ok ⟨{ request with headers }, some route⟩, [token], [.accepted]⟩ := by
  rw [enter, h]
  dsimp only
  rw [hclaims]

theorem pass_entered {token : String} {claims : Claims} {id : Int64}
    (h : routes.resolve request.target.path = some route)
    (hauthenticated : route.authenticated = true)
    (hopens : Opens verify request.headers token claims id) :
    pass routes verify request =
      ⟨.ok ⟨{ request with headers := IdentityHeaders.minted claims id request.headers },
          some route⟩, [token], spoofedCounters request.headers ++ [.accepted]⟩ := by
  have hbearer : Token.bearer (IdentityHeaders.strip request.headers) = .ok token :=
    Token.bearer_eq_ok_iff.2 (Token.shows_strip_iff.2 hopens.shown)
  have hmint : (verify token >>= fun claims =>
      IdentityHeaders.mint claims (IdentityHeaders.strip request.headers)) =
        .ok (IdentityHeaders.minted claims id request.headers) := by
    rw [hopens.accepted]
    show IdentityHeaders.mint claims (IdentityHeaders.strip request.headers) = _
    rw [IdentityHeaders.mint_of_hasSubject _ hopens.subject, IdentityHeaders.minted_strip]
  have henter : enter verify route (withoutIdentity request) =
      ⟨.ok ⟨{ request with headers := IdentityHeaders.minted claims id request.headers },
        some route⟩, [token], [.accepted]⟩ := enter_of_ok hbearer hmint
  rw [pass, passBare_authenticated h hauthenticated, henter]

/-- Whatever is missing for a route to open, the gate stays shut, and no token that was not shown
has been looked at. -/
theorem pass_refused (h : routes.resolve request.target.path = some route)
    (hauthenticated : route.authenticated = true)
    (hshut : ∀ token claims id, ¬ Opens verify request.headers token claims id) :
    ∃ fault verified,
      pass routes verify request =
        ⟨.error fault, verified, spoofedCounters request.headers ++ [.rejected fault.kind]⟩ ∧
      (verified = [] ∨ ∃ token, Token.Shows request.headers token ∧ verified = [token]) := by
  rw [pass, passBare_authenticated h hauthenticated]
  cases hbearer : Token.bearer (withoutIdentity request).headers with
  | error fault =>
      rw [enter_of_no_token hbearer]
      exact ⟨fault, [], rfl, Or.inl rfl⟩
  | ok token =>
      have hshown : Token.Shows request.headers token :=
        Token.shows_strip_iff.1 (Token.bearer_eq_ok_iff.1 hbearer)
      cases haccepted : verify token with
      | error fault =>
          rw [enter_of_error hbearer (by rw [haccepted]; rfl)]
          exact ⟨fault, [token], rfl, Or.inr ⟨token, hshown, rfl⟩⟩
      | ok claims =>
          have hnone : ∀ id, ¬ claims.HasSubject id :=
            fun id hsubject => hshut token claims id ⟨hshown, haccepted, hsubject⟩
          have hmint := IdentityHeaders.mint_of_no_subject (withoutIdentity request).headers hnone
          rw [enter_of_error hbearer (by rw [haccepted]; exact hmint)]
          exact ⟨.malformed .subject, [token], rfl, Or.inr ⟨token, hshown, rfl⟩⟩

end

/-! ## Mediation -/

section

variable {gateway : Gateway} {request : Http.Request}

/-- A refused request is answered at the gate, and nothing behind it is reached. -/
theorem handle_of_refused (now : Instant)
    (hasked : request.method ≠ Http.CrossOrigin.question)
    {fault : TokenError} {verified : List String} {counters : List Counter}
    (h : pass gateway.routes gateway.verify request =
      ⟨.error fault, verified, spoofedCounters request.headers ++ counters⟩) :
    (gateway.handle now request).response.status = 401 ∧
      (gateway.handle now request).sent = [] ∧
      (gateway.handle now request).verified = verified ∧
      verdicts (gateway.handle now request).counters = verdicts counters := by
  have houtcome : (pass gateway.routes gateway.verify request).outcome = .error fault := by rw [h]
  rw [handle_of_ne hasked, handleInner_of_error houtcome, h]
  refine ⟨?_, rfl, rfl, ?_⟩
  · rw [Http.status_finished, Http.CrossOrigin.status_opened, status_refusal]
  · rw [verdicts_append, verdicts_spoofedCounters, List.nil_append]

/-- What has passed is served, and whatever is sent and answered comes from there. -/
theorem handle_of_passed (now : Instant)
    (hasked : request.method ≠ Http.CrossOrigin.question)
    {admission : Admission} {verified : List String} {counters : List Counter}
    (h : pass gateway.routes gateway.verify request =
      ⟨.ok admission, verified, spoofedCounters request.headers ++ counters⟩) :
    (gateway.handle now request).response =
        Http.finished (knownMethods request.target.path) request.method
          (Http.CrossOrigin.opened (outcomeResponse (gateway.serve now admission).outcome)) ∧
      (gateway.handle now request).sent = (gateway.serve now admission).sent ∧
      (gateway.handle now request).verified = verified ∧
      verdicts (gateway.handle now request).counters = verdicts counters := by
  have houtcome : (pass gateway.routes gateway.verify request).outcome = .ok admission := by
    rw [h]
  rw [handle_of_ne hasked, handleInner_of_ok houtcome, h]
  refine ⟨rfl, rfl, rfl, ?_⟩
  rw [verdicts_append, verdicts_append, verdicts_spoofedCounters, verdicts_serve, List.nil_append,
    List.append_nil]

end

/-- What the gate owes to a request that reaches it. -/
structure Mediated (gateway : Gateway) (now : Instant) (request : Http.Request) : Prop where
  /-- An authenticated route lets pass exactly the requests that open it. -/
  passes_iff : ∀ route, gateway.routes.resolve request.target.path = some route →
    route.authenticated = true →
      ((∃ admission, (pass gateway.routes gateway.verify request).outcome = .ok admission) ↔
        ∃ token claims id, Opens gateway.verify request.headers token claims id)
  /-- A request that opens its route goes on with the three minted fields. -/
  entered : ∀ route token claims id,
    gateway.routes.resolve request.target.path = some route → route.authenticated = true →
      Opens gateway.verify request.headers token claims id →
        (∃ passed,
          (pass gateway.routes gateway.verify request).outcome = .ok ⟨passed, some route⟩ ∧
            PassesOn request passed (IdentityHeaders.mintedFields claims id)) ∧
          (gateway.handle now request).verified = [token] ∧
          verdicts (gateway.handle now request).counters = [.accepted]
  /-- Any other request to such a route is refused, and nobody behind the gate hears of it. -/
  refused : ∀ route, gateway.routes.resolve request.target.path = some route →
    route.authenticated = true →
      (∀ token claims id, ¬ Opens gateway.verify request.headers token claims id) →
        ∃ fault, (pass gateway.routes gateway.verify request).outcome = .error fault ∧
          (gateway.handle now request).response.status = 401 ∧
          (gateway.handle now request).sent = [] ∧
          verdicts (gateway.handle now request).counters = [.rejected fault.kind]
  /-- On a public route a request goes on without identity headers. -/
  bare : ∀ route, gateway.routes.resolve request.target.path = some route →
    route.authenticated = false →
      (∃ passed,
        (pass gateway.routes gateway.verify request).outcome = .ok ⟨passed, some route⟩ ∧
          PassesOn request passed []) ∧
        (gateway.handle now request).verified = [] ∧
        verdicts (gateway.handle now request).counters = [.withoutToken]
  /-- So it does where no route takes its path, and then there is nothing to decide. -/
  unmatched : gateway.routes.resolve request.target.path = none →
    (∃ passed, (pass gateway.routes gateway.verify request).outcome = .ok ⟨passed, none⟩ ∧
      PassesOn request passed []) ∧
      (gateway.handle now request).verified = [] ∧
      verdicts (gateway.handle now request).counters = []
  /-- What goes on is served, and what is sent and answered comes from there. -/
  served : ∀ admission,
    (pass gateway.routes gateway.verify request).outcome = .ok admission →
      (gateway.handle now request).sent = (gateway.serve now admission).sent ∧
      (gateway.handle now request).response =
        Http.finished (knownMethods request.target.path) request.method
          (Http.CrossOrigin.opened (outcomeResponse (gateway.serve now admission).outcome))
  /-- The verifier is asked once at most, on an authenticated route and for the token shown. -/
  verifies : (gateway.handle now request).verified = [] ∨
    ∃ route token, gateway.routes.resolve request.target.path = some route ∧
      route.authenticated = true ∧ Token.Shows request.headers token ∧
      (gateway.handle now request).verified = [token]

/-- The verifier sees no token but the one that is shown on an authenticated route. -/
theorem verified_eq_nil_or (gateway : Gateway) (request : Http.Request) :
    (pass gateway.routes gateway.verify request).verified = [] ∨
      ∃ route token, gateway.routes.resolve request.target.path = some route ∧
        route.authenticated = true ∧ Token.Shows request.headers token ∧
        (pass gateway.routes gateway.verify request).verified = [token] := by
  cases hroute : gateway.routes.resolve request.target.path with
  | none =>
      rw [pass_unmatched gateway.verify hroute]
      exact Or.inl rfl
  | some route =>
      cases hauthenticated : route.authenticated with
      | false =>
          rw [pass_public gateway.verify hroute hauthenticated]
          exact Or.inl rfl
      | true =>
          by_cases hopens :
              ∃ token claims id, Opens gateway.verify request.headers token claims id
          · obtain ⟨token, claims, id, hopens⟩ := hopens
            rw [pass_entered hroute hauthenticated hopens]
            exact Or.inr ⟨route, token, rfl, hauthenticated, hopens.shown, rfl⟩
          · obtain ⟨fault, verified, hpass, hverified⟩ := pass_refused hroute hauthenticated
              (fun token claims id h => hopens ⟨token, claims, id, h⟩)
            rw [hpass]
            rcases hverified with hnone | ⟨token, hshown, hone⟩
            · exact Or.inl hnone
            · exact Or.inr ⟨route, token, rfl, hauthenticated, hshown, hone⟩

theorem verified_handle {gateway : Gateway} {now : Instant} {request : Http.Request}
    (hasked : request.method ≠ Http.CrossOrigin.question) :
    (gateway.handle now request).verified =
      (pass gateway.routes gateway.verify request).verified := by
  rw [handle_of_ne hasked]
  cases houtcome : (pass gateway.routes gateway.verify request).outcome with
  | error fault => rw [handleInner_of_error houtcome]
  | ok admission => rw [handleInner_of_ok houtcome]

/-- The gate mediates completely: every request but a browser's question passes it or is refused,
and which of the two is decided as stated. -/
theorem gate_mediates_completely (gateway : Gateway) (now : Instant) (request : Http.Request)
    (hasked : request.method ≠ Http.CrossOrigin.question) : Mediated gateway now request := by
  refine ⟨?_, ?_, ?_, ?_, ?_, ?_, ?_⟩
  · intro route hroute hauthenticated
    constructor
    · rintro ⟨admission, hpassed⟩
      by_contra hshut
      obtain ⟨fault, verified, hpass, -⟩ := pass_refused hroute hauthenticated
        (fun token claims id hopens => hshut ⟨token, claims, id, hopens⟩)
      rw [hpass] at hpassed
      cases hpassed
    · rintro ⟨token, claims, id, hopens⟩
      rw [pass_entered hroute hauthenticated hopens]
      exact ⟨_, rfl⟩
  · intro route token claims id hroute hauthenticated hopens
    have hpass := pass_entered hroute hauthenticated hopens
    obtain ⟨-, -, hverified, hverdicts⟩ := handle_of_passed now hasked hpass
    refine ⟨⟨_, ?_, passesOn_minted request claims id⟩, hverified, hverdicts⟩
    rw [hpass]
  · intro route hroute hauthenticated hshut
    obtain ⟨fault, verified, hpass, -⟩ := pass_refused hroute hauthenticated hshut
    obtain ⟨hstatus, hsent, -, hverdicts⟩ := handle_of_refused now hasked hpass
    refine ⟨fault, ?_, hstatus, hsent, hverdicts⟩
    rw [hpass]
  · intro route hroute hpublic
    have hpass := pass_public gateway.verify hroute hpublic
    obtain ⟨-, -, hverified, hverdicts⟩ := handle_of_passed now hasked hpass
    refine ⟨⟨_, ?_, passesOn_withoutIdentity request⟩, hverified, hverdicts⟩
    rw [hpass]
  · intro hroute
    have hpass := pass_unmatched gateway.verify hroute
    obtain ⟨-, -, hverified, hverdicts⟩ := handle_of_passed now hasked hpass
    refine ⟨⟨_, ?_, passesOn_withoutIdentity request⟩, hverified, hverdicts⟩
    rw [hpass]
  · intro admission hpassed
    rw [handle_of_ne hasked, handleInner_of_ok hpassed]
    exact ⟨rfl, rfl⟩
  · rw [verified_handle hasked]
    exact verified_eq_nil_or gateway request

/-- A request for the head only, with blanks behind its token and forged identity headers. -/
theorem gate_mediates_padded_token :
    let claims : Claims := { sub := "+7", role := "OWNER", email := "", iat := 0, exp := 9 }
    let gateway : Gateway :=
      { routes := ⟨[⟨"/api", "http://orders:8081/", true⟩]⟩
        verify := fun token => if token = "t" then .ok claims else .error .invalidSignature
        client := fun _ => .error .unreachable }
    let request : Http.Request :=
      { method := "HEAD", target := ⟨"/api/orders", none⟩
        headers := .ofList
          [("X-User-Id", Text.utf8 "1"), ("authorization", Text.utf8 "Bearer  t ")]
        body := .empty, peer := none }
    request.method ≠ Http.CrossOrigin.question ∧ Mediated gateway (.ofSeconds 0) request := by
  intro claims gateway request
  have hasked : request.method ≠ Http.CrossOrigin.question := by decide
  exact ⟨hasked, gate_mediates_completely gateway _ request hasked⟩

/-- Where no route takes the path there is no verdict to count. -/
theorem not_every_request_is_counted :
    ¬ ∀ (gateway : Gateway) (now : Instant) (request : Http.Request),
      request.method ≠ Http.CrossOrigin.question →
        (verdicts (gateway.handle now request).counters).length = 1 := by
  intro hcounted
  have hone := hcounted
    { routes := ⟨[⟨"/api", "http://orders:8081", true⟩]⟩
      verify := fun _ => .error .expired
      client := fun _ => .error .unreachable }
    (.ofSeconds 0)
    { method := "GET", target := ⟨"/apis", none⟩, headers := .empty, body := .empty
      peer := none }
    (by decide)
  exact absurd hone (by decide)

end Gateway

end FoodOrdering
