import FoodOrdering.Identity.Guard
import FoodOrdering.Proofs.Service.Terms

/-!
# Who may change what

A caller is admitted before a change is made, and in between others may change the stores.  That
does no harm, since what the caller was admitted for cannot change: a restaurant stays, and stays
with its owner.
-/

namespace FoodOrdering

namespace Identity

/-- An administrator, or an owner to whom this restaurant belongs. -/
def Manages (identity : Identity) (stores : Stores) (restaurantId : Int64) : Prop :=
  identity.hasRole .admin = true ∨
    (identity.hasRole .owner = true ∧
      ∃ restaurant, stores.restaurants.find? restaurantId = some restaurant ∧
        restaurant.ownerId = identity.userId)

theorem Manages.later {identity : Identity} {before after : Stores} {restaurantId : Int64}
    (h : identity.Manages before restaurantId) (hkeeps : before.KeepsOwners after) :
    identity.Manages after restaurantId := by
  rcases h with hadmin | ⟨howner, restaurant, hfound, hsame⟩
  · exact Or.inl hadmin
  · obtain ⟨kept, hkept, hkeptOwner⟩ := hkeeps restaurantId restaurant hfound
    exact Or.inr ⟨howner, kept, hkept, hkeptOwner.trans hsame⟩

end Identity

/-- What a caller may change. -/
def Change.AuthorisedBy (identity : Identity) (stores : Stores) : Change → Prop
  | .restaurantAdded restaurant =>
      (identity.hasRole .owner = true ∨ identity.hasRole .admin = true) ∧
        restaurant.ownerId = identity.userId ∧ restaurant.status = .pending
  | .statusChanged _ _ => identity.hasRole .admin = true
  | .itemAdded item | .itemChanged item _ => identity.Manages stores item.restaurantId
  | .orderAdded order =>
      identity.hasRole .customer = true ∧ order.customerId = identity.userId ∧
        order.status = .pending

namespace Service

/-- Programs change the stores for their caller only. -/
def authority (caller : Option Identity) : Terms where
  sound := Stores.Numbered
  rely := Stores.KeepsOwners
  grants stores access := ∀ change, access.change? stores = some change →
    ∃ identity, caller = some identity ∧ change.AuthorisedBy identity stores
  rely_refl := Stores.KeepsOwners.refl
  rely_trans := Stores.KeepsOwners.trans

/-! ## Drafts -/

/-- What was judged and found good is what there was before it was judged. -/
theorem eq_of_finish {α : Type} {errors : FieldErrors} {value draft : α}
    (h : (do errors.finish; return value : Except Problem α) = .ok draft) : draft = value := by
  cases hjudge : errors.finish with
  | error problem =>
      rw [hjudge] at h
      cases h
  | ok done =>
      rw [hjudge] at h
      cases h
      rfl

theorem RestaurantRequest.of_toRestaurant {request : RestaurantRequest} {ownerId : Int64}
    {now : Instant} {draft : Restaurant} (h : request.toRestaurant ownerId now = .ok draft) :
    draft.ownerId = ownerId ∧ draft.status = .pending := by
  rw [eq_of_finish h]
  exact ⟨rfl, rfl⟩

theorem OrderRequest.of_toOrder {request : OrderRequest} {customerId : Int64} {now : Instant}
    {draft : Order} (h : request.toOrder customerId now = .ok draft) :
    draft.customerId = customerId ∧ draft.status = .pending := by
  rw [eq_of_finish h]
  exact ⟨rfl, rfl⟩

/-! ## Accesses on these terms -/

open Program

variable {α : Type} {caller : Option Identity} {stores : Stores} {post : Stores → α → Prop}

theorem obeys_read {step : Access} {next : step.Result → Program α}
    (hread : ∀ stores, step.change? stores = none)
    (h : ∀ later, later.Numbered → stores.KeepsOwners later →
      (next (step.run later).1).Obeys (authority caller) post later) :
    (Program.access step next).Obeys (authority caller) post stores := by
  intro later hnumbered hkeeps
  constructor
  · intro change hchange
    cases (hread later).symm.trans hchange
  · rw [Access.stores_run_of_none (hread later)]
    exact h later hnumbered hkeeps

theorem obeys_write {step : Access} {next : step.Result → Program α}
    (hgrants : ∀ later, stores.KeepsOwners later → (authority caller).grants later step)
    (h : ∀ later result, (next result).Obeys (authority caller) post later) :
    (Program.access step next).Obeys (authority caller) post stores := by
  intro later _ hkeeps
  exact ⟨hgrants later hkeeps, h _ _⟩

theorem of_permit {caller : Option Identity} {operation : Operation} {owner : Option Int64}
    (hpermit : authorize caller operation owner = .ok ())
    (hprotected : operation.isPublic = false) :
    ∃ identity, caller = some identity ∧
      (∃ role ∈ operation.roles, identity.hasRole role = true) ∧
      (operation.needsOwner = true →
        identity.hasRole .admin = true ∨ owner = some identity.userId) := by
  rcases authorize_eq_ok_iff.1 hpermit with hpublic | ⟨identity, hidentity, hroles, howner⟩
  · cases hpublic.symm.trans hprotected
  · exact ⟨identity, hidentity, List.any_eq_true.1 hroles, howner⟩

/-- The restaurant that a caller is admitted to is one that they manage. -/
theorem obeys_admitted {call : Call} {operation : Operation} {id : Int64}
    {post : Stores → Restaurant → Prop} (hroles : operation.roles = [.owner, .admin])
    (hneeds : operation.needsOwner = true)
    (h : ∀ later identity restaurant, call.caller = some identity →
      identity.Manages later restaurant.id → post later restaurant) :
    (admitted call operation id).Obeys (authority call.caller) post stores := by
  apply Obeys.bind
  apply obeys_read (fun _ => rfl)
  intro later hnumbered _
  apply Obeys.bind
  apply obeys_permit
  intro hpermit
  apply obeys_found
  intro restaurant hfound
  obtain ⟨identity, hidentity, ⟨role, hrole, hhas⟩, howner⟩ :=
    of_permit hpermit (by rw [Operation.isPublic, hroles]; rfl)
  apply h later identity restaurant hidentity
  rcases howner hneeds with hadmin | hsame
  · exact Or.inl hadmin
  · rw [hroles] at hrole
    have hpair : role = .owner ∨ role = .admin := by simpa using hrole
    rcases hpair with rfl | rfl
    -- The owner was read under the id in the path, and the record has that id itself.
    · obtain ⟨hid, _, _⟩ := hnumbered.restaurants id restaurant hfound
      rw [hfound] at hsame
      refine Or.inr ⟨hhas, restaurant, ?_, Option.some.inj hsame⟩
      rw [hid]
      exact hfound
    · exact Or.inl hhas

/-! ## What is served -/

variable (call : Call) (stores : Stores)

theorem obeys_registerRestaurant :
    (registerRestaurant call).Obeys (authority call.caller) anything stores := by
  apply Obeys.bind
  apply obeys_permit
  intro hpermit
  apply Obeys.bind
  apply obeys_identify
  intro identity hidentity
  apply Obeys.bind
  apply obeys_ofExcept
  intro request _
  apply Obeys.bind
  apply obeys_ofExcept
  intro draft hdraft
  apply Obeys.bind
  apply obeys_write
  · intro later _ change hchange
    cases hchange
    obtain ⟨howner, hstatus⟩ := RestaurantRequest.of_toRestaurant hdraft
    obtain ⟨caller, hcaller, ⟨role, hrole, hhas⟩, _⟩ := of_permit hpermit rfl
    cases hidentity.symm.trans hcaller
    refine ⟨identity, hidentity, ?_, howner, hstatus⟩
    have hpair : role = .owner ∨ role = .admin := by simpa [Operation.roles] using hrole
    rcases hpair with rfl | rfl
    · exact Or.inl hhas
    · exact Or.inr hhas
  · intro later restaurant
    exact trivial

theorem obeys_withMenus {caller : Option Identity} (restaurants : List Restaurant)
    (stores : Stores) : (withMenus restaurants).Obeys (authority caller) anything stores := by
  induction restaurants generalizing stores with
  | nil => exact trivial
  | cons restaurant rest ih =>
      unfold withMenus
      apply Obeys.bind
      apply obeys_read (fun _ => rfl)
      intro later _ _
      apply Obeys.bind
      exact ih later

theorem obeys_listRestaurants :
    (listRestaurants call).Obeys (authority call.caller) anything stores := by
  apply Obeys.bind
  apply obeys_permit
  intro _
  apply Obeys.bind
  apply obeys_read (fun _ => rfl)
  intro later _ _
  apply Obeys.bind
  exact obeys_withMenus _ later

theorem obeys_showRestaurant (part : String) :
    (showRestaurant part call).Obeys (authority call.caller) anything stores := by
  apply Obeys.bind
  apply obeys_permit
  intro _
  apply Obeys.bind
  apply obeys_ofExcept
  intro id _
  apply Obeys.bind
  apply obeys_read (fun _ => rfl)
  intro later _ _
  apply Obeys.bind
  apply obeys_found
  intro restaurant _
  apply Obeys.bind
  apply obeys_read (fun _ => rfl)
  intro latest _ _
  exact trivial

theorem obeys_showMenu (part : String) :
    (showMenu part call).Obeys (authority call.caller) anything stores := by
  apply Obeys.bind
  apply obeys_permit
  intro _
  apply Obeys.bind
  apply obeys_ofExcept
  intro id _
  apply Obeys.bind
  apply obeys_read (fun _ => rfl)
  intro later _ _
  apply Obeys.bind
  apply obeys_found
  intro restaurant _
  apply Obeys.bind
  apply obeys_read (fun _ => rfl)
  intro latest _ _
  exact trivial

theorem obeys_extendMenu (part : String) :
    (extendMenu part call).Obeys (authority call.caller) anything stores := by
  apply Obeys.bind
  apply obeys_ofExcept
  intro id _
  apply Obeys.bind
  apply obeys_admitted rfl rfl
  intro seen identity restaurant hidentity hmanages
  apply Obeys.bind
  apply obeys_ofExcept
  intro request _
  apply Obeys.bind
  apply obeys_ofExcept
  intro content _
  apply Obeys.bind
  apply obeys_write
  · intro later hkeeps change hchange
    obtain ⟨item, rfl, hitem⟩ := Access.of_change?_addMenuItem hchange
    refine ⟨identity, hidentity, ?_⟩
    show identity.Manages later item.restaurantId
    rw [hitem]
    exact hmanages.later hkeeps
  · intro later result
    apply obeys_ofExcept
    intro item _
    exact trivial

theorem obeys_reviseMenuItem (part itemPart : String) :
    (reviseMenuItem part itemPart call).Obeys (authority call.caller) anything stores := by
  apply Obeys.bind
  apply obeys_ofExcept
  rintro ⟨id, itemId⟩ _
  apply Obeys.bind
  apply obeys_admitted rfl rfl
  intro seen identity restaurant hidentity hmanages
  apply Obeys.bind
  apply obeys_ofExcept
  intro request _
  apply Obeys.bind
  apply obeys_ofExcept
  intro content _
  apply Obeys.bind
  apply obeys_write
  · intro later hkeeps change hchange
    obtain ⟨item, rfl, hitem⟩ := Access.of_change?_updateMenuItem hchange
    refine ⟨identity, hidentity, ?_⟩
    show identity.Manages later item.restaurantId
    rw [hitem]
    exact hmanages.later hkeeps
  · intro later result
    apply obeys_ofExcept
    intro item _
    exact trivial

theorem obeys_changeStatus (part : String) :
    (changeStatus part call).Obeys (authority call.caller) anything stores := by
  apply Obeys.bind
  apply obeys_permit
  intro hpermit
  apply Obeys.bind
  apply obeys_ofExcept
  intro id _
  apply Obeys.bind
  apply obeys_ofExcept
  intro request _
  apply Obeys.bind
  apply obeys_ofExcept
  intro status _
  apply Obeys.bind
  apply obeys_write
  · intro later _ change hchange
    obtain ⟨restaurant, rfl⟩ := Access.of_change?_setStatus hchange
    obtain ⟨identity, hidentity, ⟨role, hrole, hhas⟩, _⟩ := of_permit hpermit rfl
    refine ⟨identity, hidentity, ?_⟩
    cases List.mem_singleton.1 hrole
    exact hhas
  · intro later result
    apply obeys_ofExcept
    intro restaurant _
    apply Obeys.bind
    apply obeys_read (fun _ => rfl)
    intro latest _ _
    exact trivial

theorem obeys_placeOrder :
    (placeOrder call).Obeys (authority call.caller) anything stores := by
  apply Obeys.bind
  apply obeys_permit
  intro hpermit
  apply Obeys.bind
  apply obeys_identify
  intro identity hidentity
  apply Obeys.bind
  apply obeys_ofExcept
  intro request _
  apply Obeys.bind
  apply obeys_ofExcept
  intro draft hdraft
  apply Obeys.bind
  apply obeys_read (fun _ => rfl)
  intro seen _ _
  apply Obeys.bind
  apply obeys_found
  intro restaurant _
  apply Obeys.bind
  apply obeys_write
  · intro later _ change hchange
    cases hchange
    obtain ⟨hcustomer, hstatus⟩ := OrderRequest.of_toOrder hdraft
    obtain ⟨caller, hcaller, ⟨role, hrole, hhas⟩, _⟩ := of_permit hpermit rfl
    cases hidentity.symm.trans hcaller
    cases List.mem_singleton.1 hrole
    exact ⟨identity, hidentity, hhas, hcustomer, hstatus⟩
  · intro later order
    exact trivial

theorem obeys_listOwnOrders :
    (listOwnOrders call).Obeys (authority call.caller) anything stores := by
  apply Obeys.bind
  apply obeys_permit
  intro _
  apply Obeys.bind
  apply obeys_identify
  intro identity _
  apply Obeys.bind
  apply obeys_read (fun _ => rfl)
  intro later _ _
  exact trivial

theorem obeys_listRestaurantOrders (part : String) :
    (listRestaurantOrders part call).Obeys (authority call.caller) anything stores := by
  apply Obeys.bind
  apply obeys_ofExcept
  intro id _
  apply Obeys.bind
  apply obeys_admitted rfl rfl
  intro seen identity restaurant _ _
  apply Obeys.bind
  apply obeys_read (fun _ => rfl)
  intro later _ _
  exact trivial

/-- Whatever is asked, nothing is changed but for the caller. -/
theorem obeys_envelope {action : Action} {program : Call → Program Envelope}
    (h : action.envelope? = some program) :
    (program call).Obeys (authority call.caller) anything stores := by
  cases action with
  | showHealth => cases h
  | listRestaurants =>
      cases h
      exact obeys_listRestaurants call stores
  | registerRestaurant =>
      cases h
      exact obeys_registerRestaurant call stores
  | showRestaurant id =>
      cases h
      exact obeys_showRestaurant call stores id
  | showMenu id =>
      cases h
      exact obeys_showMenu call stores id
  | extendMenu id =>
      cases h
      exact obeys_extendMenu call stores id
  | reviseMenuItem id itemId =>
      cases h
      exact obeys_reviseMenuItem call stores id itemId
  | changeStatus id =>
      cases h
      exact obeys_changeStatus call stores id
  | listOwnOrders =>
      cases h
      exact obeys_listOwnOrders call stores
  | placeOrder =>
      cases h
      exact obeys_placeOrder call stores
  | listRestaurantOrders id =>
      cases h
      exact obeys_listRestaurantOrders call stores id

theorem obeys_programOf : (programOf call).Obeys (authority call.caller) anything stores := by
  unfold programOf
  split
  next => exact trivial
  next resource _ =>
    split
    next => exact trivial
    next action _ =>
      unfold Action.program
      split
      next => exact trivial
      next program hprogram =>
        apply Obeys.bind
        exact obeys_envelope call stores hprogram

theorem obeys_answer (service : Service) (now : Instant) (request : Http.Request) :
    (service.answer now request).Obeys (authority (service.callOf now request).caller) anything
      stores := by
  unfold answer
  split
  next => exact trivial
  next =>
    apply Obeys.performing
    apply Obeys.settle
    exact obeys_programOf (service.callOf now request) stores

end Service

end FoodOrdering
