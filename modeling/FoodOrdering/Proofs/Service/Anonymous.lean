import FoodOrdering.Proofs.Http.Response
import FoodOrdering.Proofs.Service.OnlyReads

/-!
# Callers without an identity

Headers from a peer outside the zone make no identity.  A caller without one is denied everything
but the public operations, before anything of the request but its path is looked at, so that all
such callers are served alike.
-/

namespace FoodOrdering

theorem Identity.reconstruct_of_not_admits {zone : TrustZone} {peer : Option Address}
    (h : zone.admits peer = false) (headers : Http.Headers) :
    Identity.reconstruct zone peer headers = none := by
  unfold Identity.reconstruct
  cases headers.get? IdentityHeaders.userId with
  | none => rfl
  | some stated =>
      rw [h]
      rfl

namespace Service

namespace Program

variable {α : Type}

/-- A caller without an identity is denied an operation, and the denial is counted. -/
def denied (operation : Operation) : Program α :=
  .perform (.counted (.denied operation.name Denial.unauthenticated.code))
    (fail (.forbidden operation.name .unauthenticated))

variable {first second : Call}

theorem permit_public_congr (first second : Call) {operation : Operation} (owner : Option Int64)
    (h : operation.isPublic = true) (next : Unit → Program α) :
    (permit first operation owner >>= next) = (permit second operation owner >>= next) := by
  unfold permit authorize
  rw [if_pos h, if_pos h]

theorem permit_anonymous_bind {call : Call} (hcaller : call.caller = none) {operation : Operation}
    (owner : Option Int64) (h : operation.isPublic = false) (next : Unit → Program α) :
    (permit call operation owner >>= next) = denied operation := by
  unfold permit authorize
  rw [h, hcaller]
  rfl

theorem permit_anonymous_congr (hfirst : first.caller = none) (hsecond : second.caller = none)
    {operation : Operation} (owner : Option Int64) (h : operation.isPublic = false)
    (next other : Unit → Program α) :
    (permit first operation owner >>= next) = (permit second operation owner >>= other) := by
  rw [permit_anonymous_bind hfirst owner h, permit_anonymous_bind hsecond owner h]

end Program

open Program

variable {α : Type}

/-- Without an identity a restaurant is looked for in vain. -/
theorem admitted_anonymous_bind {call : Call} (hcaller : call.caller = none)
    {operation : Operation} (id : Int64) (h : operation.isPublic = false)
    (next : Restaurant → Program α) :
    (admitted call operation id >>= next) = (findRestaurant? id >>= fun _ => denied operation) :=
  congrArg (Program.access (.findRestaurant id)) <| funext fun restaurant =>
    congrArg (· >>= next) (permit_anonymous_bind hcaller (restaurant.map Restaurant.ownerId) h _)

variable {action : Action} {program : Call → Program Envelope} {first second : Call}

theorem admitted_anonymous_congr (hfirst : first.caller = none) (hsecond : second.caller = none)
    {operation : Operation} (h : operation.isPublic = false) (id : Int64)
    (next other : Restaurant → Program α) :
    (admitted first operation id >>= next) = (admitted second operation id >>= other) := by
  rw [admitted_anonymous_bind hfirst id h, admitted_anonymous_bind hsecond id h]

/-- Whatever is asked without an identity, one program serves it for all who ask. -/
theorem program_congr_of_anonymous (h : action.envelope? = some program)
    (hfirst : first.caller = none) (hsecond : second.caller = none) :
    program first = program second := by
  cases action with
  | showHealth => cases h
  | listRestaurants =>
      cases h
      exact permit_public_congr first second none rfl _
  | registerRestaurant =>
      cases h
      exact permit_anonymous_congr hfirst hsecond none rfl _ _
  | showRestaurant part =>
      cases h
      exact permit_public_congr first second none rfl _
  | showMenu part =>
      cases h
      exact permit_public_congr first second none rfl _
  | extendMenu part =>
      cases h
      exact congrArg (readId part >>= ·) <| funext fun id =>
        admitted_anonymous_congr hfirst hsecond rfl id _ _
  | reviseMenuItem part itemPart =>
      cases h
      exact congrArg (readIds part itemPart >>= ·) <| funext fun ids =>
        admitted_anonymous_congr hfirst hsecond rfl ids.1 _ _
  | changeStatus part =>
      cases h
      exact permit_anonymous_congr hfirst hsecond none rfl _ _
  | listOwnOrders =>
      cases h
      exact permit_anonymous_congr hfirst hsecond none rfl _ _
  | placeOrder =>
      cases h
      exact permit_anonymous_congr hfirst hsecond none rfl _ _
  | listRestaurantOrders part =>
      cases h
      exact congrArg (readId part >>= ·) <| funext fun id =>
        admitted_anonymous_congr hfirst hsecond rfl id _ _

theorem onlyReads_permit_anonymous {call : Call} (hcaller : call.caller = none)
    {operation : Operation} (owner : Option Int64) (h : operation.isPublic = false)
    (next : Unit → Program α) : (permit call operation owner >>= next).OnlyReads := by
  rw [permit_anonymous_bind hcaller owner h]
  exact ⟨nofun, trivial⟩

theorem onlyReads_admitted_anonymous {call : Call} (hcaller : call.caller = none)
    {operation : Operation} (h : operation.isPublic = false) (id : Int64)
    (next : Restaurant → Program α) : (admitted call operation id >>= next).OnlyReads := by
  rw [admitted_anonymous_bind hcaller id h]
  exact ⟨fun _ => rfl, fun _ => ⟨nofun, trivial⟩⟩

/-- Without an identity nothing is changed. -/
theorem onlyReads_of_anonymous (h : action.envelope? = some program) {call : Call}
    (hcaller : call.caller = none) : (program call).OnlyReads := by
  cases action with
  | showHealth => cases h
  | listRestaurants =>
      cases h
      exact onlyReads_listRestaurants call
  | registerRestaurant =>
      cases h
      exact onlyReads_permit_anonymous hcaller none rfl _
  | showRestaurant part =>
      cases h
      exact onlyReads_showRestaurant part call
  | showMenu part =>
      cases h
      exact onlyReads_showMenu part call
  | extendMenu part =>
      cases h
      exact (onlyReads_ofExcept .path (pathId part)).bind fun id =>
        onlyReads_admitted_anonymous hcaller rfl id _
  | reviseMenuItem part itemPart =>
      cases h
      exact (onlyReads_ofExcept .path (pathIds part itemPart)).bind fun ids =>
        onlyReads_admitted_anonymous hcaller rfl ids.1 _
  | changeStatus part =>
      cases h
      exact onlyReads_permit_anonymous hcaller none rfl _
  | listOwnOrders =>
      cases h
      exact onlyReads_listOwnOrders call
  | placeOrder =>
      cases h
      exact onlyReads_permit_anonymous hcaller none rfl _
  | listRestaurantOrders part =>
      cases h
      exact onlyReads_listRestaurantOrders part call

/-! ## What goes out -/

/-- The envelope that an outcome is put into. -/
def envelopeOf : Except Problem Envelope → Envelope
  | .ok envelope => envelope
  | .error problem => .ofProblem problem

theorem outcomeResponse_map (now : Instant) (outcome : Except Problem Envelope) :
    outcomeResponse now (outcome.map fun envelope => envelope.response now) =
      (envelopeOf outcome).response now := by
  cases outcome with
  | ok envelope => rfl
  | error problem => rfl

/-- Two handlings, one at each of two instants, that differ in nothing but the time that an
envelope or a health answer states. -/
structure Handled.Alike (now later : Instant) (one other : Handled) : Prop where
  stores_eq : one.stores = other.stores
  effects_eq : one.effects = other.effects
  status_eq : one.response.status = other.response.status
  headers_eq : one.response.headers = other.response.headers
  body_eq : one.response.body = other.response.body ∨
    (∃ envelope : Envelope, one.response.body = (envelope.response now).body ∧
      other.response.body = (envelope.response later).body) ∨
    (one.response.body = (Health.answer "bb-server" now).body ∧
      other.response.body = (Health.answer "bb-server" later).body)

theorem Handled.Alike.counting {now later : Instant} {one other : Handled}
    (alike : Handled.Alike now later one other) (effects : List Effect) :
    Handled.Alike now later { one with effects := effects ++ one.effects }
      { other with effects := effects ++ other.effects } :=
  { alike with effects_eq := congrArg (effects ++ ·) alike.effects_eq }

theorem Handled.Alike.finish {now later : Instant} {one other : Handled}
    (alike : Handled.Alike now later one other) (request : Http.Request) :
    Handled.Alike now later
      { one with response := sent request (Http.CrossOrigin.opened one.response) }
      { other with response := sent request (Http.CrossOrigin.opened other.response) } := by
  refine ⟨alike.stores_eq, alike.effects_eq, ?_, ?_, ?_⟩
  · simp only [sent, Http.status_finished, Http.CrossOrigin.status_opened, alike.status_eq]
  · apply Http.headers_finished_congr
    unfold Http.CrossOrigin.opened Http.Response.withHeader
    rw [alike.headers_eq]
  · unfold sent
    rw [Http.body_finished, Http.body_finished]
    by_cases hhead : request.method = "HEAD"
    · rw [if_pos hhead, if_pos hhead]
      exact Or.inl rfl
    · rw [if_neg hhead, if_neg hhead]
      exact alike.body_eq

theorem Envelope.status_response (envelope : Envelope) (now : Instant) :
    (envelope.response now).status = envelope.status := rfl

theorem Envelope.headers_response (envelope : Envelope) (now : Instant) :
    (envelope.response now).headers =
      Http.Headers.empty.insertText "content-type" "application/json" := rfl

/-- One envelope, stated at two instants. -/
theorem alike_envelope (now later : Instant) (envelope : Envelope) (stores : Stores)
    (effects : List Effect) :
    Handled.Alike now later { response := envelope.response now, stores, effects }
      { response := envelope.response later, stores, effects } where
  stores_eq := rfl
  effects_eq := rfl
  status_eq := (envelope.status_response now).trans (envelope.status_response later).symm
  headers_eq := (envelope.headers_response now).trans (envelope.headers_response later).symm
  body_eq := .inr (.inl ⟨envelope, rfl, rfl⟩)

theorem alike_health (now later : Instant) (stores : Stores) (effects : List Effect) :
    Handled.Alike now later { response := Health.answer "bb-server" now, stores, effects }
      { response := Health.answer "bb-server" later, stores, effects } where
  stores_eq := rfl
  effects_eq := rfl
  status_eq := (Health.status_answer _ now).trans (Health.status_answer _ later).symm
  headers_eq := (Health.headers_answer _ now).trans (Health.headers_answer _ later).symm
  body_eq := .inr (.inr ⟨rfl, rfl⟩)

theorem alike_same (now later : Instant) (handled : Handled) :
    Handled.Alike now later handled handled :=
  ⟨rfl, rfl, rfl, rfl, .inl rfl⟩

/-- What comes of running a program, before it is sent. -/
def handledBy (now : Instant) (stores : Stores) (program : Program Http.Response) : Handled :=
  { response := outcomeResponse now (program.run stores).outcome
    stores := (program.run stores).stores
    effects := (program.run stores).effects }

theorem handledBy_envelope (now : Instant) (stores : Stores) (program : Program Envelope) :
    handledBy now stores (program >>= fun envelope => .done (.ok (envelope.response now))) =
      { response := (envelopeOf (program.run stores).outcome).response now
        stores := (program.run stores).stores
        effects := (program.run stores).effects } := by
  rw [handledBy, run_bind_done, outcomeResponse_map]

theorem alike_programOf (hfirst : first.caller = none) (hsecond : second.caller = none)
    (htarget : first.request.target = second.request.target)
    (hmethod : first.request.method = second.request.method) (stores : Stores) :
    Handled.Alike first.now second.now (handledBy first.now stores (programOf first))
        (handledBy second.now stores (programOf second)) ∧
      (handledBy first.now stores (programOf first)).stores = stores := by
  unfold programOf
  rw [htarget, hmethod]
  split
  next => exact ⟨alike_same _ _ _, rfl⟩
  next resource _ =>
    split
    next => exact ⟨alike_same _ _ _, rfl⟩
    next action _ =>
      unfold Action.program
      split
      next => exact ⟨alike_health first.now second.now stores [], rfl⟩
      next program hprogram =>
        have hsame := program_congr_of_anonymous hprogram hfirst hsecond
        have hreads := onlyReads_of_anonymous hprogram hfirst
        show Handled.Alike _ _
            (handledBy _ _ (program first >>= fun envelope =>
              .done (.ok (envelope.response first.now))))
            (handledBy _ _ (program second >>= fun envelope =>
              .done (.ok (envelope.response second.now)))) ∧
          (handledBy _ _ (program first >>= fun envelope =>
              .done (.ok (envelope.response first.now)))).stores = stores
        rw [handledBy_envelope, handledBy_envelope, hsame]
        refine ⟨alike_envelope _ _ _ _ _, ?_⟩
        rw [← hsame]
        exact hreads.stores_run stores

/-- Headers from a peer outside the zone are worth nothing: with these or with any others, without
the identity headers for instance, the request gets the same answer, the same is counted and
announced, and the stores stay as they are. -/
theorem untrusted_headers_are_worthless (service : Service) (now later : Instant) (stores : Stores)
    (request : Http.Request) (headers : Http.Headers)
    (h : service.zone.admits request.peer = false) :
    Handled.Alike now later (service.handle now stores request)
        (service.handle later stores { request with headers }) ∧
      (service.handle now stores request).stores = stores := by
  unfold handle
  dsimp only
  by_cases hquestion : request.method = Http.CrossOrigin.question
  · rw [if_pos hquestion, if_pos hquestion]
    exact ⟨⟨rfl, rfl, rfl, rfl, .inl rfl⟩, rfl⟩
  · rw [if_neg hquestion, if_neg hquestion]
    have hfirst := Identity.reconstruct_of_not_admits h request.headers
    have hsecond := Identity.reconstruct_of_not_admits h headers
    let first := service.callOf now request
    let second := service.callOf later { request with headers }
    obtain ⟨halike, hstores⟩ := @alike_programOf first second hfirst hsecond rfl rfl stores
    have hcounted : callerEffects first = callerEffects second := by
      unfold callerEffects
      rw [show first.caller = none from hfirst, show second.caller = none from hsecond]
    refine ⟨?_, hstores⟩
    show Handled.Alike now later
      { response := sent request (Http.CrossOrigin.opened (handledBy now stores _).response)
        stores := (handledBy now stores (programOf first)).stores
        effects := callerEffects first ++ (handledBy now stores (programOf first)).effects }
      { response := sent request (Http.CrossOrigin.opened (handledBy later stores _).response)
        stores := (handledBy later stores (programOf second)).stores
        effects := callerEffects second ++ (handledBy later stores (programOf second)).effects }
    rw [hcounted]
    exact (halike.counting (callerEffects second)).finish request

/-- An order of a forged customer from outside, and the same request without its forgery. -/
theorem forged_order_is_worthless :
    let service : Service := { zone := .privateNetwork }
    let request : Http.Request :=
      { method := "POST", target := ⟨"/api/orders", none⟩
        headers := .ofList
          [("X-User-Id", Text.utf8 "7"), ("x-user-role", Text.utf8 "CUSTOMER"),
            ("Content-Type", Text.utf8 "application/json")]
        body := .empty, peer := some (.v4 ⟨8, 8, 8, 8⟩) }
    service.zone.admits request.peer = false ∧
      Handled.Alike (.ofSeconds 0) (.ofSeconds 60)
          (service.handle (.ofSeconds 0) .empty request)
          (service.handle (.ofSeconds 60) .empty
            { request with headers := IdentityHeaders.strip request.headers }) ∧
      (service.handle (.ofSeconds 0) .empty request).stores = .empty := by
  intro service request
  have houtside : service.zone.admits request.peer = false := by decide
  exact ⟨houtside, untrusted_headers_are_worthless service (.ofSeconds 0) (.ofSeconds 60) .empty
    request (IdentityHeaders.strip request.headers) houtside⟩

end Service

end FoodOrdering
