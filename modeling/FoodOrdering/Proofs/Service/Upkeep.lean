import FoodOrdering.Proofs.Service.Judgement
import FoodOrdering.Proofs.Service.OnlyReads
import FoodOrdering.Proofs.Service.Writes
import FoodOrdering.Proofs.Store.WellFormed

/-!
# Upkeep of the stores

What a request makes of the stores is proper: a record has passed judgement before it comes in, and
an order is stored only after its restaurant was found.  It may have been found a while ago, but it
has stayed.  Main statement: in every run the stores hold well-formed records only.
-/

namespace FoodOrdering.Service

/-- Programs make proper changes only. -/
def upkeep : Terms where
  sound := Stores.Numbered
  rely := Stores.KeepsOwners
  grants stores access := ∀ change, access.change? stores = some change → change.Proper stores
  rely_refl := Stores.KeepsOwners.refl
  rely_trans := Stores.KeepsOwners.trans

namespace Program

variable {α β : Type} {stores : Stores} {post : Stores → α → Prop}

/-- Whoever changes nothing makes no change that is not proper. -/
theorem OnlyReads.obeys_upkeep {program : Program α} (h : program.OnlyReads)
    (hpost : ∀ value later, post later value) : program.Obeys upkeep post stores := by
  induction program generalizing stores with
  | done outcome =>
      cases outcome with
      | ok value => exact hpost value stores
      | error problem => exact trivial
  | access step next ih =>
      intro later _ _
      refine ⟨?_, ih (step.run later).1 (h.2 _)⟩
      intro change hchange
      cases (h.1 later).symm.trans hchange
  | perform effect next ih => exact ih h.2

/-- Go on behind a program that changes nothing. -/
theorem OnlyReads.obeys_bind {program : Program α} {next : α → Program β}
    (h : program.OnlyReads) (hnext : ∀ value later, (next value).Obeys upkeep anything later) :
    (program >>= next).Obeys upkeep anything stores :=
  Obeys.bind (h.obeys_upkeep hnext)

/-- An access may be made whose change is proper whenever it is made. -/
theorem obeys_upkeep_change {step : Access} {next : step.Result → Program α}
    (hproper : ∀ later, stores.KeepsOwners later →
      ∀ change, step.change? later = some change → change.Proper later)
    (hnext : ∀ result later, (next result).Obeys upkeep anything later) :
    (Program.access step next).Obeys upkeep anything stores := by
  intro later _ hkeeps
  exact ⟨hproper later hkeeps, hnext _ _⟩

end Program

open Program

/-! ## What is served -/

variable (call : Call) (stores : Stores)

theorem upkeep_registerRestaurant :
    (registerRestaurant call).Obeys upkeep anything stores := by
  apply (onlyReads_permit call .createRestaurant none).obeys_bind
  intro _ stores
  apply (onlyReads_identify call).obeys_bind
  intro user stores
  apply (onlyReads_ofExcept _ _).obeys_bind
  intro request stores
  apply Obeys.bind
  apply obeys_ofExcept
  intro draft hdraft
  apply obeys_upkeep_change
  · intro later _ change hchange
    cases hchange
    exact { RestaurantRequest.wellFormed_of_toRestaurant user.userId_pos hdraft with }
  · intro restaurant later
    exact trivial

theorem upkeep_extendMenu (part : String) :
    (extendMenu part call).Obeys upkeep anything stores := by
  apply (onlyReads_ofExcept _ _).obeys_bind
  intro id stores
  apply (onlyReads_admitted call .addMenuItem id).obeys_bind
  intro restaurant stores
  apply (onlyReads_ofExcept _ _).obeys_bind
  intro request stores
  apply Obeys.bind
  apply obeys_ofExcept
  intro content hcontent
  apply obeys_upkeep_change
  · intro later _ change hchange
    simp only [Access.change?] at hchange
    split at hchange
    next =>
      cases hchange
      exact MenuItemRequest.wellFormed_of_toContent hcontent
    next => cases hchange
  · intro result later
    exact (onlyReads_ofExcept _ result).obeys_bind fun _ _ => trivial

theorem upkeep_reviseMenuItem (part itemPart : String) :
    (reviseMenuItem part itemPart call).Obeys upkeep anything stores := by
  apply (onlyReads_ofExcept _ _).obeys_bind
  intro ids stores
  apply (onlyReads_admitted call .updateMenuItem ids.1).obeys_bind
  intro restaurant stores
  apply (onlyReads_ofExcept _ _).obeys_bind
  intro request stores
  apply Obeys.bind
  apply obeys_ofExcept
  intro content hcontent
  apply obeys_upkeep_change
  · intro later _ change hchange
    obtain ⟨item, rfl, _⟩ := Access.of_change?_updateMenuItem hchange
    exact MenuItemRequest.wellFormed_of_toContent hcontent
  · intro result later
    exact (onlyReads_ofExcept _ result).obeys_bind fun _ _ => trivial

theorem upkeep_changeStatus (part : String) :
    (changeStatus part call).Obeys upkeep anything stores := by
  apply (onlyReads_permit call .changeRestaurantStatus none).obeys_bind
  intro _ stores
  apply (onlyReads_ofExcept _ _).obeys_bind
  intro id stores
  apply (onlyReads_ofExcept _ _).obeys_bind
  intro request stores
  apply (onlyReads_ofExcept _ _).obeys_bind
  intro status stores
  apply obeys_upkeep_change
  · intro later _ change hchange
    obtain ⟨restaurant, rfl⟩ := Access.of_change?_setStatus hchange
    exact trivial
  · intro result later
    apply (onlyReads_ofExcept _ result).obeys_bind
    intro restaurant stores
    exact (onlyReads_menu id).obeys_bind fun _ _ => trivial

theorem upkeep_placeOrder : (placeOrder call).Obeys upkeep anything stores := by
  apply (onlyReads_permit call .placeOrder none).obeys_bind
  intro _ stores
  apply (onlyReads_identify call).obeys_bind
  intro user stores
  apply (onlyReads_ofExcept _ _).obeys_bind
  intro request stores
  apply Obeys.bind
  apply obeys_ofExcept
  intro draft hdraft
  apply Obeys.bind
  intro seen _ _
  -- The restaurant is found here, and the order is stored some time later.
  refine ⟨nofun, ?_⟩
  show (found draft.restaurantId (seen.restaurants.find? draft.restaurantId) >>= _).Obeys upkeep
    anything seen
  apply Obeys.bind
  apply obeys_found
  intro restaurant hfound
  have hrestaurant : seen.HasRestaurant draft.restaurantId := ⟨restaurant, hfound⟩
  apply obeys_upkeep_change
  · intro later hkeeps change hchange
    cases hchange
    exact ⟨{ OrderRequest.wellFormed_of_toOrder user.userId_pos hdraft with },
      hrestaurant.later hkeeps⟩
  · intro order later
    exact trivial

theorem upkeep_envelope {action : Action} {program : Call → Program Envelope}
    (h : action.envelope? = some program) : (program call).Obeys upkeep anything stores := by
  cases action with
  | showHealth => cases h
  | listRestaurants =>
      cases h
      exact (onlyReads_listRestaurants call).obeys_upkeep fun _ _ => trivial
  | registerRestaurant =>
      cases h
      exact upkeep_registerRestaurant call stores
  | showRestaurant part =>
      cases h
      exact (onlyReads_showRestaurant part call).obeys_upkeep fun _ _ => trivial
  | showMenu part =>
      cases h
      exact (onlyReads_showMenu part call).obeys_upkeep fun _ _ => trivial
  | extendMenu part =>
      cases h
      exact upkeep_extendMenu call stores part
  | reviseMenuItem part itemPart =>
      cases h
      exact upkeep_reviseMenuItem call stores part itemPart
  | changeStatus part =>
      cases h
      exact upkeep_changeStatus call stores part
  | listOwnOrders =>
      cases h
      exact (onlyReads_listOwnOrders call).obeys_upkeep fun _ _ => trivial
  | placeOrder =>
      cases h
      exact upkeep_placeOrder call stores
  | listRestaurantOrders part =>
      cases h
      exact (onlyReads_listRestaurantOrders part call).obeys_upkeep fun _ _ => trivial

theorem upkeep_answer (service : Service) (now : Instant) (request : Http.Request) :
    (service.answer now request).Obeys upkeep anything stores := by
  unfold answer
  split
  next => exact trivial
  next =>
    apply Obeys.performing
    apply Obeys.settle
    unfold programOf
    split
    next => exact trivial
    next resource _ =>
      split
      next => exact trivial
      next action _ =>
        unfold Action.program
        split
        next => exact trivial
        next program hprogram =>
          apply Obeys.bind
          exact upkeep_envelope _ stores hprogram

/-! ## Runs -/

namespace Pool

/-- Every record is fit, and what is left of the tasks makes proper changes only. -/
structure Upkept (pool : Pool) : Prop where
  fit : pool.stores.Fit
  obeys : ∀ task ∈ pool.tasks, task.rest.Obeys upkeep anything pool.stores

variable {service : Service} {pool : Pool}

theorem upkept_empty : empty.Upkept :=
  ⟨Stores.fit_empty, nofun⟩

theorem Upkept.obeys_set (h : pool.Upkept) {stores : Stores} {index : Nat} {task : Task}
    {rest : Program Http.Response} (hkeeps : pool.stores.KeepsOwners stores)
    (hrest : rest.Obeys upkeep anything stores) :
    ∀ other ∈ pool.tasks.set index { task with rest },
      other.rest.Obeys upkeep anything stores := by
  intro other hother
  rcases List.mem_or_eq_of_mem_set hother with hold | rfl
  · exact (h.obeys other hold).later hkeeps
  · exact hrest

theorem Upkept.advance (h : pool.Upkept) (hguarded : pool.Guarded service) (index : Nat)
    (hroom : (pool.advance index).inserts < idLimit) : (pool.advance index).Upkept := by
  have hkeeps := (hguarded.advance index hroom).2
  rcases pool.advance_cases index with hsame | ⟨task, effect, next, htask, hrest, hnext⟩ |
    ⟨task, step, next, htask, hrest, hnext⟩
  · rw [hsame]
    exact h
  · have hobeys := h.obeys task (List.mem_of_getElem? htask)
    rw [hrest] at hobeys
    rw [hnext] at hkeeps ⊢
    exact ⟨h.fit, h.obeys_set hkeeps hobeys⟩
  · have hobeys := h.obeys task (List.mem_of_getElem? htask)
    rw [hrest] at hobeys
    obtain ⟨hproper, hleft⟩ :=
      hobeys pool.stores hguarded.numbered (Stores.KeepsOwners.refl pool.stores)
    rw [hnext] at hkeeps ⊢
    refine ⟨?_, h.obeys_set hkeeps hleft⟩
    dsimp only at hkeeps ⊢
    cases hchange : step.change? pool.stores with
    | none =>
        rw [Access.stores_run_of_none hchange]
        exact h.fit
    | some change =>
        obtain ⟨hrun, hfits⟩ := Access.stores_run_of_some hguarded.numbered hchange
        rw [hrun] at hkeeps ⊢
        exact Change.fit_apply h.fit hkeeps hfits (hproper change hchange)

theorem Upkept.step (h : pool.Upkept) (hguarded : pool.Guarded service) (move : Move)
    (hroom : (pool.step service move).inserts < idLimit) : (pool.step service move).Upkept := by
  cases move with
  | turn index => exact h.advance hguarded index hroom
  | arrive now request =>
      refine ⟨h.fit, ?_⟩
      intro task htask
      rcases List.mem_append.1 htask with hold | hnew
      · exact h.obeys task hold
      · cases List.mem_singleton.1 hnew
        exact upkeep_answer pool.stores service now request

theorem Upkept.foldl (moves : List Move) {pool : Pool} (h : pool.Upkept)
    (hguarded : pool.Guarded service)
    (hroom : (moves.foldl (Pool.step service) pool).inserts < idLimit) :
    (moves.foldl (Pool.step service) pool).Upkept := by
  induction moves generalizing pool with
  | nil => exact h
  | cons move rest ih =>
      have hnext := Nat.lt_of_le_of_lt (inserts_le_foldl service rest (pool.step service move)) hroom
      exact ih (h.step hguarded move hnext) (hguarded.step move hnext).1 hroom

end Pool

/-- Whatever is asked by whom, and however the requests fall between one another, the stores hold
well-formed records only. -/
theorem stored_data_is_well_formed (service : Service) (moves : List Move)
    (hroom : (service.after moves).inserts < idLimit) :
    (service.after moves).stores.WellFormed := by
  have hupkept := Pool.upkept_empty.foldl moves (Pool.guarded_empty service) hroom
  exact hupkept.fit.wellFormed (guarded_after service moves hroom).numbered

/-- Two owners register at the same time, one of them without a description, and an administrator
opens the restaurant that is there. -/
theorem restaurants_among_owners_are_well_formed :
    let service : FoodOrdering.Service := { zone := .privateNetwork }
    let request (user role method path body : String) : Http.Request :=
      { method, target := ⟨path, none⟩, body := body.toUTF8, peer := some (.v4 ⟨10, 0, 0, 7⟩)
        headers := .ofList [("X-User-Id", Text.utf8 user), ("X-User-Role", Text.utf8 role),
          ("Content-Type", Text.utf8 "application/json")] }
    let registering (user name description : String) : Move :=
      .arrive (.ofSeconds 0) (request user "OWNER" "POST" "/api/restaurants"
        ("[\"" ++ name ++ "\",\"" ++ description ++ "\",\"Rome\",null,\" \",null]"))
    let moves : List Move :=
      [registering "7" "Vito" "Pizza", registering "9" "Anna" " ",
        .arrive (.ofSeconds 5)
          (request "1" "ADMIN" "PATCH" "/api/restaurants/1/status" "[\"ACTIVE\"]"),
        .turn 1, .turn 0, .turn 2]
    let stores := (service.after moves).stores
    (stores.restaurants.all.map fun restaurant =>
        (restaurant.name, restaurant.phoneNumber, restaurant.status)) =
        [("Vito", none, .active)] ∧
      (service.after moves).inserts < idLimit ∧ stores.WellFormed := by
  intro service request registering moves stores
  have hroom : (service.after moves).inserts < idLimit := by decide +kernel
  exact ⟨by decide +kernel, hroom, stored_data_is_well_formed service moves hroom⟩

end FoodOrdering.Service
