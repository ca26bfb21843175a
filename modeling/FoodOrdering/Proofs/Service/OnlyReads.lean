import FoodOrdering.Proofs.Service.Interleaving

/-!
# Programs that only read

A program whose accesses are all readings leaves the stores as they are, whatever it finds in them
and whatever the others do.  Nor does it count or announce an order.
-/

namespace FoodOrdering.Service

/-- Something other than an order was counted. -/
def Effect.Idle : Effect → Prop
  | .counted counter => counter ≠ .orderCommitted
  | .announced _ => False

/-- It is no order that is counted of a caller. -/
theorem idle_of_mem_callerEffects {call : Call} {effect : Effect}
    (h : effect ∈ callerEffects call) : effect.Idle := by
  unfold callerEffects at h
  split at h
  · cases List.mem_singleton.1 h
    exact nofun
  · cases h

namespace Program

variable {α β : Type}

/-- No access of the program changes the stores, whatever the accesses before it gave. -/
def OnlyReads : Program α → Prop
  | .done _ => True
  | .access step next =>
      (∀ stores, step.change? stores = none) ∧ ∀ result, (next result).OnlyReads
  | .perform effect next => effect.Idle ∧ next.OnlyReads

theorem OnlyReads.stores_run {program : Program α} (h : program.OnlyReads) (stores : Stores) :
    (program.run stores).stores = stores := by
  induction program generalizing stores with
  | done outcome => rfl
  | access step next ih =>
      show ((next (step.run stores).1).run (step.run stores).2).stores = stores
      rw [Access.stores_run_of_none (h.1 stores)]
      exact ih _ (h.2 _) stores
  | perform effect next ih => exact ih h.2 stores

theorem OnlyReads.bind {program : Program α} {next : α → Program β} (h : program.OnlyReads)
    (hnext : ∀ value, (next value).OnlyReads) : (program >>= next).OnlyReads := by
  induction program with
  | done outcome =>
      cases outcome with
      | ok value => exact hnext value
      | error problem => exact trivial
  | access step rest ih => exact ⟨h.1, fun result => ih result (h.2 result)⟩
  | perform effect rest ih => exact ⟨h.1, ih h.2⟩

theorem onlyReads_ofExcept {ε : Type} (problem : ε → Problem) (source : Except ε α) :
    (ofExcept problem source).OnlyReads := by
  cases source with
  | ok value => exact trivial
  | error fault => exact trivial

theorem onlyReads_permit (call : Call) (operation : Operation) (owner : Option Int64) :
    (permit call operation owner).OnlyReads := by
  unfold permit
  split
  · exact trivial
  · exact ⟨nofun, trivial⟩

theorem onlyReads_identify (call : Call) : (identify call).OnlyReads := by
  unfold identify
  split
  · exact trivial
  · exact trivial

theorem onlyReads_found (id : Int64) (result : Option Restaurant) : (found id result).OnlyReads := by
  cases result with
  | some restaurant => exact trivial
  | none => exact trivial

theorem onlyReads_findRestaurant? (id : Int64) : (findRestaurant? id).OnlyReads :=
  ⟨fun _ => rfl, fun _ => trivial⟩

theorem onlyReads_menu (restaurantId : Int64) : (menu restaurantId).OnlyReads :=
  ⟨fun _ => rfl, fun _ => trivial⟩

/-- What a program gives goes into a form; all else stays as it was. -/
theorem run_bind_done (convert : α → β) (program : Program α) (stores : Stores) :
    (program >>= fun value => (.done (.ok (convert value)) : Program β)).run stores =
      { outcome := (program.run stores).outcome.map convert
        stores := (program.run stores).stores
        effects := (program.run stores).effects } := by
  induction program generalizing stores with
  | done outcome =>
      cases outcome with
      | ok value => rfl
      | error problem => rfl
  | access step next ih => exact ih (step.run stores).1 (step.run stores).2
  | perform effect next ih =>
      show (Program.perform effect (next >>= _)).run stores = _
      rw [run_perform, run_perform, ih]

end Program

open Program

/-! ## Reading handlers -/

theorem onlyReads_admitted (call : Call) (operation : Operation) (id : Int64) :
    (admitted call operation id).OnlyReads :=
  (onlyReads_findRestaurant? id).bind fun restaurant =>
    (onlyReads_permit call operation (restaurant.map Restaurant.ownerId)).bind fun _ =>
      onlyReads_found id restaurant

theorem onlyReads_withMenus (restaurants : List Restaurant) : (withMenus restaurants).OnlyReads := by
  induction restaurants with
  | nil => exact trivial
  | cons restaurant rest ih =>
      exact (onlyReads_menu restaurant.id).bind fun _ => ih.bind fun _ => trivial

theorem onlyReads_listRestaurants (call : Call) : (listRestaurants call).OnlyReads :=
  (onlyReads_permit call .readListings none).bind fun _ =>
    OnlyReads.bind ⟨fun _ => rfl, fun _ => trivial⟩ fun restaurants =>
      (onlyReads_withMenus restaurants).bind fun _ => trivial

theorem onlyReads_showRestaurant (part : String) (call : Call) :
    (showRestaurant part call).OnlyReads :=
  (onlyReads_permit call .readListings none).bind fun _ =>
    (onlyReads_ofExcept .path (pathId part)).bind fun id =>
      (onlyReads_findRestaurant? id).bind fun restaurant =>
        (onlyReads_found id restaurant).bind fun _ => (onlyReads_menu id).bind fun _ => trivial

theorem onlyReads_showMenu (part : String) (call : Call) : (showMenu part call).OnlyReads :=
  (onlyReads_permit call .readListings none).bind fun _ =>
    (onlyReads_ofExcept .path (pathId part)).bind fun id =>
      (onlyReads_findRestaurant? id).bind fun restaurant =>
        (onlyReads_found id restaurant).bind fun _ => (onlyReads_menu id).bind fun _ => trivial

theorem onlyReads_listOwnOrders (call : Call) : (listOwnOrders call).OnlyReads :=
  (onlyReads_permit call .listOwnOrders none).bind fun _ =>
    (onlyReads_identify call).bind fun _ =>
      OnlyReads.bind ⟨fun _ => rfl, fun _ => trivial⟩ fun _ => trivial

theorem onlyReads_listRestaurantOrders (part : String) (call : Call) :
    (listRestaurantOrders part call).OnlyReads :=
  (onlyReads_ofExcept .path (pathId part)).bind fun id =>
    (onlyReads_admitted call .listRestaurantOrders id).bind fun _ =>
      OnlyReads.bind ⟨fun _ => rfl, fun _ => trivial⟩ fun _ => trivial

end FoodOrdering.Service
