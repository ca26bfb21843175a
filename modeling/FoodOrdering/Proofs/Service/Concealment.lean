import FoodOrdering.Proofs.Service.Listing
import FoodOrdering.Proofs.Service.Paths
import FoodOrdering.Proofs.Service.Unreachable

/-!
# What a denial does not tell

Whoever is not admitted to a restaurant is not told whether there is one.  The guard is asked before
the body is read and before anything is said to be missing, and it takes a restaurant without an
owner for one of somebody else.  Whoever is admitted is not told of the menu items of others.
-/

namespace FoodOrdering

/-- Without the right of an administrator all owners but the caller are alike, and so is none. -/
theorem exists_denial_of_foreign {caller : Option Identity} {operation : Operation}
    (hprotected : operation.isPublic = false) (hneeds : operation.needsOwner = true)
    (hadmin : ∀ identity, caller = some identity → identity.hasRole .admin = false) :
    ∃ denial, ∀ owner : Option Int64,
      (∀ identity, caller = some identity → owner ≠ some identity.userId) →
        authorize caller operation owner = .error denial := by
  unfold authorize
  cases caller with
  | none => exact ⟨.unauthenticated, fun owner _ => by simp [hprotected]⟩
  | some identity =>
      cases hroles : identity.hasAnyRole operation.roles with
      | false => exact ⟨.roleMismatch, fun owner _ => by simp [hprotected, hroles]⟩
      | true =>
          refine ⟨.notOwner, fun owner howner => ?_⟩
          simp [hprotected, hroles, hneeds, hadmin identity rfl, howner identity rfl]

namespace Service

open Program

/-- A request to revise a menu item. -/
def Revises (request : Http.Request) (id itemId : Int64) : Prop :=
  request.method = "PUT" ∧ ∃ part itemPart,
    Resource.ofPath? request.target.path = some (.menuItem part itemPart) ∧
      pathIds part itemPart = .ok (id, itemId)

/-- A request for what only the owner of a restaurant and administrators may do. -/
inductive Targets (request : Http.Request) : Operation → Int64 → Prop
  | listing {id : Int64} (part : String) (hreading : request.IsReading)
      (hpath : Resource.ofPath? request.target.path = some (.restaurantOrders part))
      (hid : pathId part = .ok id) : Targets request .listRestaurantOrders id
  | addition {id : Int64} (part : String) (hmethod : request.method = "POST")
      (hpath : Resource.ofPath? request.target.path = some (.menu part))
      (hid : pathId part = .ok id) : Targets request .addMenuItem id
  | revision {id : Int64} (itemId : Int64) (hrevises : Revises request id itemId) :
      Targets request .updateMenuItem id

section

variable {request : Http.Request} {operation : Operation} {id itemId : Int64}

/-- What a request is for does not depend on its body. -/
theorem Revises.withBody (h : Revises request id itemId) (body : ByteArray) :
    Revises { request with body } id itemId :=
  h

theorem Targets.withBody (h : Targets request operation id) (body : ByteArray) :
    Targets { request with body } operation id := by
  cases h with
  | listing part hreading hpath hid => exact .listing part hreading hpath hid
  | addition part hmethod hpath hid => exact .addition part hmethod hpath hid
  | revision itemId hrevises => exact .revision itemId (hrevises.withBody body)

theorem Targets.isPublic_eq (h : Targets request operation id) : operation.isPublic = false := by
  cases h <;> rfl

theorem Targets.needsOwner_eq (h : Targets request operation id) : operation.needsOwner = true := by
  cases h <;> rfl

/-- Every menu item of every restaurant has a path. -/
theorem Revises.of_path (hmethod : request.method = "PUT")
    (hpath : request.target.path =
      "/api/restaurants/" ++ Text.ofInt64 id ++ "/menu/" ++ Text.ofInt64 itemId) :
    Revises request id itemId :=
  ⟨hmethod, _, _, hpath ▸ ofPath?_menuItem id itemId, pathIds_ofInt64 id itemId⟩

theorem Targets.listing_of_path (hmethod : request.method = "GET")
    (hpath : request.target.path = "/api/orders/restaurant/" ++ Text.ofInt64 id) :
    Targets request .listRestaurantOrders id :=
  .listing _ (Or.inl hmethod) (hpath ▸ ofPath?_restaurantOrders id) (pathId_ofInt64 id)

theorem Targets.addition_of_path (hmethod : request.method = "POST")
    (hpath : request.target.path = "/api/restaurants/" ++ Text.ofInt64 id ++ "/menu") :
    Targets request .addMenuItem id :=
  .addition _ hmethod (hpath ▸ ofPath?_menu id) (pathId_ofInt64 id)

end

section

variable (caller : Option Identity) (id itemId : Int64) (stores : Stores) (request : Http.Request)

/-- There is no such restaurant, or it is not the caller's. -/
def IsForeign : Prop :=
  ∀ restaurant ∈ stores.restaurants.find? id, ∀ identity ∈ caller,
    restaurant.ownerId ≠ identity.userId

/-- There is such a restaurant, and the caller may revise its menu. -/
def MayRevise : Prop :=
  ∃ restaurant ∈ stores.restaurants.find? id,
    authorize caller .updateMenuItem (some restaurant.ownerId) = .ok ()

/-- There is no such menu item, or it is on the menu of another restaurant. -/
def LacksMenuItem : Prop :=
  ∀ item ∈ stores.restaurants.menuItems.find? itemId, item.restaurantId ≠ id

/-- The body holds a menu item that passes. -/
def HoldsMenuItem : Prop :=
  ∃ item content, readBody MenuItemRequest.reader request = .ok item ∧ item.toContent = .ok content

instance : Decidable (IsForeign caller id stores) :=
  inferInstanceAs (Decidable (∀ restaurant ∈ stores.restaurants.find? id, ∀ identity ∈ caller,
    restaurant.ownerId ≠ identity.userId))

instance : Decidable (MayRevise caller id stores) :=
  inferInstanceAs (Decidable (∃ restaurant ∈ stores.restaurants.find? id,
    authorize caller .updateMenuItem (some restaurant.ownerId) = .ok ()))

instance : Decidable (LacksMenuItem id itemId stores) :=
  inferInstanceAs (Decidable (∀ item ∈ stores.restaurants.menuItems.find? itemId,
    item.restaurantId ≠ id))

instance : Decidable (HoldsMenuItem request) :=
  match hread : readBody MenuItemRequest.reader request with
  | .error _ => isFalse fun ⟨_, _, hitem, _⟩ => nomatch hread.symm.trans hitem
  | .ok item =>
      match hcontent : item.toContent with
      | .error _ => isFalse fun ⟨_, _, hitem, hpasses⟩ => by
          cases hread.symm.trans hitem
          cases hcontent.symm.trans hpasses
      | .ok content => isTrue ⟨item, content, hread, hcontent⟩

end

/-! ## Behind the lookup -/

section

variable {α : Type} {call : Call} {operation : Operation} {id : Int64} {stores : Stores}

theorem outcome_of_denied {denial : Denial} (next : Restaurant → Program α)
    (h : authorize call.caller operation
      ((stores.restaurants.find? id).map Restaurant.ownerId) = .error denial) :
    ((admitted call operation id >>= next).run stores).outcome =
      .error (.forbidden operation.name denial) := by
  show (((permit call operation ((stores.restaurants.find? id).map Restaurant.ownerId) >>=
    fun _ => found id (stores.restaurants.find? id)) >>= next).run stores).outcome = _
  rw [permit, h]
  rfl

theorem run_of_admitted {restaurant : Restaurant} (next : Restaurant → Program α)
    (hfound : stores.restaurants.find? id = some restaurant)
    (h : authorize call.caller operation (some restaurant.ownerId) = .ok ()) :
    (admitted call operation id >>= next).run stores = (next restaurant).run stores := by
  show ((permit call operation ((stores.restaurants.find? id).map Restaurant.ownerId) >>=
    fun _ => found id (stores.restaurants.find? id)) >>= next).run stores = _
  rw [hfound, Option.map_some, permit_eq_done h]
  rfl

end

/-- What is done with a menu item once the caller is admitted. -/
def revising (itemId : Int64) (call : Call) (restaurant : Restaurant) : Program Envelope := do
  let request ← readCall MenuItemRequest.reader call
  let content ← ofExcept (fun problem => problem) request.toContent
  let item ← updateMenuItem restaurant.id itemId content
  return .ok "Menu item updated successfully" (menuItemView item)

section

variable {request : Http.Request} {operation : Operation} {id itemId : Int64}

theorem Revises.response_eq (h : Revises request id itemId) (service : Service) (now : Instant)
    (stores : Stores) :
    (service.handle now stores request).response =
      reply now request (.ofOutcome ((admitted (service.callOf now request) .updateMenuItem id >>=
        revising itemId (service.callOf now request)).run stores).outcome) := by
  obtain ⟨hmethod, part, itemPart, hpath, hids⟩ := h
  rw [response_of_action service now stores (by rw [hmethod]; decide) hpath
    (by rw [hmethod]; rfl) rfl, reviseMenuItem, readIds, hids]
  rfl

/-- A request for what not everybody may do first asks whether the caller is admitted. -/
theorem Targets.exists_response_eq (h : Targets request operation id) (service : Service)
    (now : Instant) (stores : Stores) :
    ∃ next : Restaurant → Program Envelope,
      (service.handle now stores request).response =
        reply now request (.ofOutcome
          ((admitted (service.callOf now request) operation id >>= next).run stores).outcome) := by
  cases h with
  | listing part hreading hpath hid =>
      rw [response_of_action service now stores (ne_question_of_isReading hreading) hpath
        (action?_of_isReading hreading _) rfl, listRestaurantOrders, readId, hid]
      exact ⟨_, rfl⟩
  | addition part hmethod hpath hid =>
      rw [response_of_action service now stores (by rw [hmethod]; decide) hpath
        (by rw [hmethod]; rfl) rfl, extendMenu, readId, hid]
      exact ⟨_, rfl⟩
  | revision itemId hrevises => exact ⟨_, hrevises.response_eq service now stores⟩

/-! ## What is told -/

/-- Whoever is admitted to none of them is told the same of every restaurant. -/
theorem exists_denied_of_foreign {caller : Option Identity} (operation : Operation)
    (hadmin : ∀ identity, caller = some identity → identity.hasRole .admin = false) :
    ∃ envelope : Envelope, envelope.status = 403 ∧
      ∀ (service : Service) (request : Http.Request) (now : Instant) (stores : Stores) (id : Int64),
        Targets request operation id → (service.callOf now request).caller = caller →
          IsForeign caller id stores →
            (service.handle now stores request).response = reply now request envelope := by
  by_cases hguarded : operation.isPublic = false ∧ operation.needsOwner = true
  · obtain ⟨denial, hdenial⟩ := exists_denial_of_foreign hguarded.1 hguarded.2 hadmin
    refine ⟨.ofProblem (.forbidden operation.name denial), rfl, ?_⟩
    intro service request now stores id htargets hcaller hforeign
    obtain ⟨next, hresponse⟩ := htargets.exists_response_eq service now stores
    have hdenied : authorize (service.callOf now request).caller operation
        ((stores.restaurants.find? id).map Restaurant.ownerId) = .error denial := by
      rw [hcaller]
      apply hdenial
      intro identity hidentity howner
      obtain ⟨restaurant, hfound, hsame⟩ := Option.map_eq_some_iff.1 howner
      exact hforeign restaurant hfound identity hidentity hsame
    rw [hresponse, outcome_of_denied next hdenied]
    rfl
  · refine ⟨.ofProblem (.forbidden operation.name .notOwner), rfl, ?_⟩
    intro service request now stores id htargets
    exact absurd ⟨htargets.isPublic_eq, htargets.needsOwner_eq⟩ hguarded

/-- What is done with a menu item that is not there, or not there for this restaurant. -/
theorem outcome_of_revising {restaurant : Restaurant} {call : Call} {stores : Stores}
    (hbody : HoldsMenuItem call.request) (hlacks : LacksMenuItem restaurant.id itemId stores) :
    ((revising itemId call restaurant).run stores).outcome =
      .error (.ofStore (.menuItemNotFound itemId)) := by
  obtain ⟨item, content, hread, hcontent⟩ := hbody
  have hnone : (stores.restaurants.menuItems.find? itemId).filter
      (fun item => item.restaurantId == restaurant.id) = none := by
    rw [Option.filter_eq_none_iff]
    intro item hitem
    simpa using hlacks item hitem
  have hupdate : (stores.restaurants.updateMenuItem restaurant.id itemId content).1 =
      .error (.menuItemNotFound itemId) := by
    rw [RestaurantStore.updateMenuItem, hnone]
  rw [revising, readCall, hread]
  show ((ofExcept (fun problem => problem) item.toContent >>= _).run stores).outcome = _
  rw [hcontent]
  show ((ofExcept Problem.ofStore
    (stores.restaurants.updateMenuItem restaurant.id itemId content).1 >>= _).run _).outcome = _
  rw [hupdate]
  rfl

/-- Whoever revises the menu of a restaurant is told the same of all items that are not on it. -/
theorem response_of_lacking {caller : Option Identity} (service : Service) (now : Instant)
    {stores : Stores} (hkeyed : stores.Keyed) (hrevises : Revises request id itemId)
    (hcaller : (service.callOf now request).caller = caller) (hmay : MayRevise caller id stores)
    (hbody : HoldsMenuItem request) (hlacks : LacksMenuItem id itemId stores) :
    (service.handle now stores request).response =
      reply now request (.ofProblem (.ofStore (.menuItemNotFound itemId))) := by
  obtain ⟨restaurant, hfound, hadmitted⟩ := hmay
  have hid : restaurant.id = id := hkeyed id restaurant hfound
  rw [← hcaller] at hadmitted
  rw [hrevises.response_eq, run_of_admitted _ hfound hadmitted,
    outcome_of_revising hbody (hid.symm ▸ hlacks)]
  rfl

end

/-- Missing restaurants and foreign ones are told apart by nobody whom the guard does not admit:
whatever the restaurant, the body and the state, they are told the same of either.  Nor does anybody
who revises a menu tell a menu item of another restaurant from one that is not there. -/
theorem foreign_looks_like_missing (service : Service) (caller : Option Identity) :
    ((∀ identity ∈ caller, identity.hasRole .admin = false) →
      ∀ operation, ∃ envelope : Envelope, envelope.status = 403 ∧
        ∀ request id now body stores, Targets request operation id →
          (service.callOf now request).caller = caller → IsForeign caller id stores →
            (service.handle now stores { request with body }).response =
              reply now request envelope) ∧
      ∀ itemId, ∃ envelope : Envelope, envelope.status = 404 ∧
        ∀ request id now body moves, Revises request id itemId →
          (service.callOf now request).caller = caller →
            MayRevise caller id (service.after moves).stores →
              HoldsMenuItem { request with body } →
                LacksMenuItem id itemId (service.after moves).stores →
                  (service.handle now (service.after moves).stores { request with body }).response =
                    reply now request envelope := by
  constructor
  · intro hadmin operation
    obtain ⟨envelope, hstatus, htold⟩ := exists_denied_of_foreign operation hadmin
    refine ⟨envelope, hstatus, ?_⟩
    intro request id now body stores htargets hcaller hforeign
    exact htold service { request with body } now stores id (htargets.withBody body) hcaller
      hforeign
  · intro itemId
    refine ⟨.ofProblem (.ofStore (.menuItemNotFound itemId)), rfl, ?_⟩
    intro request id now body moves hrevises hcaller hmay hbody hlacks
    exact response_of_lacking service now (keyed_after service moves) (hrevises.withBody body)
      hcaller hmay hbody hlacks

/-- An owner asks for the orders and the menu of a restaurant of somebody else, and where there is
none; and another owner revises the menu of their own, without the menu item and where it is on the
menu of their other restaurant. -/
theorem menu_item_is_sought_in_vain :
    let service : FoodOrdering.Service := { zone := .privateNetwork }
    let request (user method path : String) : Http.Request :=
      { method, target := ⟨path, none⟩, body := .empty
        peer := some (.v4 ⟨10, 0, 0, 7⟩)
        headers := .ofList [("X-User-Id", Text.utf8 user), ("X-User-Role", Text.utf8 "OWNER"),
          ("Content-Type", Text.utf8 "application/json")] }
    let listing := request "9" "GET" "/api/orders/restaurant/1"
    let adding := request "9" "POST" "/api/restaurants/1/menu"
    let revising (user : String) := request user "PUT" "/api/restaurants/1/menu/1"
    let margherita := "[\"Margherita\",\"Classic\",9.5]".toUTF8
    let registering := { request "7" "POST" "/api/restaurants" with
      body := "[\"Vito\",\"Pizza\",\"Rome\",null,null,null]".toUTF8 }
    let extending := { request "7" "POST" "/api/restaurants/2/menu" with body := margherita }
    let first : List Move := [.arrive (.ofSeconds 0) registering, .turn 0]
    let second : List Move := first ++ [.arrive (.ofSeconds 1) registering, .turn 1,
      .arrive (.ofSeconds 2) extending, .turn 2, .turn 2]
    let told (moves : List Move) (request : Http.Request) (body : ByteArray) : Http.Response :=
      (service.handle (.ofSeconds 3) (service.after moves).stores { request with body }).response
    (∀ request ∈ [listing, adding, revising "9"],
      told [] request .empty = told first request margherita ∧
        (told first request margherita).status = 403) ∧
      told first (revising "7") margherita = told second (revising "7") margherita ∧
        (told first (revising "7") margherita).status = 404 := by
  intro service request listing adding revising margherita registering extending first second told
  obtain ⟨hdenied, -⟩ := foreign_looks_like_missing service
    (service.callOf (.ofSeconds 3) (revising "9")).caller
  have hforeign : ∀ request operation, Targets request operation 1 →
      request.headers = (revising "9").headers → request.peer = (revising "9").peer →
        told [] request .empty = told first request margherita ∧
          (told first request margherita).status = 403 := by
    intro request operation htargets hheaders hpeer
    obtain ⟨envelope, hstatus, hdenied⟩ := hdenied (by decide +kernel) operation
    have hcaller : (service.callOf (.ofSeconds 3) request).caller =
        (service.callOf (.ofSeconds 3) (revising "9")).caller := by
      unfold callOf
      rw [hheaders, hpeer]
    have hempty := hdenied request 1 (.ofSeconds 3) .empty (service.after []).stores htargets
      hcaller (by decide +kernel)
    have hfirst := hdenied request 1 (.ofSeconds 3) margherita (service.after first).stores htargets
      hcaller (by decide +kernel)
    exact ⟨hempty.trans hfirst.symm,
      (congrArg Http.Response.status hfirst).trans (status_reply.trans hstatus)⟩
  have hrevises : ∀ user, Revises (revising user) 1 1 :=
    fun user => .of_path rfl (show "/api/restaurants/1/menu/1" = _ by decide +kernel)
  refine ⟨?_, ?_⟩
  · rw [List.forall_mem_cons, List.forall_mem_cons, List.forall_mem_singleton]
    exact ⟨hforeign listing _ (.listing_of_path rfl (by decide +kernel)) rfl rfl,
      hforeign adding _ (.addition_of_path rfl (by decide +kernel)) rfl rfl,
      hforeign (revising "9") _ (.revision 1 (hrevises "9")) rfl rfl⟩
  · obtain ⟨-, hlacking⟩ := foreign_looks_like_missing service
      (service.callOf (.ofSeconds 3) (revising "7")).caller
    obtain ⟨envelope, hstatus, hlacking⟩ := hlacking 1
    have hfirst := hlacking (revising "7") 1 (.ofSeconds 3) margherita first (hrevises "7") rfl
      (by decide +kernel) (by decide +kernel) (by decide +kernel)
    have hsecond := hlacking (revising "7") 1 (.ofSeconds 3) margherita second (hrevises "7") rfl
      (by decide +kernel) (by decide +kernel) (by decide +kernel)
    exact ⟨hfirst.trans hsecond.symm,
      (congrArg Http.Response.status hfirst).trans (status_reply.trans hstatus)⟩

end Service

end FoodOrdering
