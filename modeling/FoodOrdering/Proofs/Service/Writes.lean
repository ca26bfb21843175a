import FoodOrdering.Proofs.Service.Authority

/-!
# Writes of requests in turns

Whatever requests come in, from whomever, and however their accesses fall between one another: each
change of the stores is made for a caller who may make it in the stores as they are at that moment.
-/

namespace FoodOrdering.Service

namespace Pool

/-- The stores are in order, and what is left of every task keeps to what its caller may do. -/
structure Guarded (service : Service) (pool : Pool) : Prop where
  numbered : pool.stores.Numbered
  counts : pool.stores.Counts pool.inserts
  obeys : ∀ task ∈ pool.tasks,
    task.rest.Obeys (authority (task.caller service)) anything pool.stores

/-- What a move did to the stores: nothing, or one change for the caller of the task that had the
turn. -/
def WrittenFor (service : Service) (move : Move) (before next : Pool) : Prop :=
  (next.stores = before.stores ∧ next.history = before.history) ∨
    ∃ index task identity change, move = .turn index ∧ before.tasks[index]? = some task ∧
      task.caller service = some identity ∧ change.Fits before.stores ∧
      change.AuthorisedBy identity before.stores ∧
      next.stores = change.apply before.stores ∧ next.history = before.history ++ [change]

variable {service : Service} {pool : Pool}

theorem guarded_empty (service : Service) : empty.Guarded service := by
  refine ⟨Stores.numbered_empty, Stores.counts_empty, ?_⟩
  intro task htask
  cases htask

/-- The tasks go on as they were, but for the one that had the turn. -/
theorem Guarded.obeys_set (h : pool.Guarded service) {stores : Stores} {index : Nat} {task : Task}
    {rest : Program Http.Response} (hkeeps : pool.stores.KeepsOwners stores)
    (hrest : rest.Obeys (authority (task.caller service)) anything stores) :
    ∀ other ∈ pool.tasks.set index { task with rest },
      other.rest.Obeys (authority (other.caller service)) anything stores := by
  intro other hother
  rcases List.mem_or_eq_of_mem_set hother with hold | rfl
  · exact (h.obeys other hold).later hkeeps
  · exact hrest

theorem Guarded.advance (h : pool.Guarded service) (index : Nat)
    (hroom : (pool.advance index).inserts < idLimit) :
    (pool.advance index).Guarded service ∧ pool.stores.KeepsOwners (pool.advance index).stores := by
  rcases pool.advance_cases index with hsame | ⟨task, effect, next, htask, hrest, hnext⟩ |
    ⟨task, step, next, htask, hrest, hnext⟩
  · rw [hsame]
    exact ⟨h, Stores.KeepsOwners.refl pool.stores⟩
  · have hobeys := h.obeys task (List.mem_of_getElem? htask)
    rw [hrest] at hobeys
    rw [hnext]
    refine ⟨⟨h.numbered, h.counts, ?_⟩, Stores.KeepsOwners.refl pool.stores⟩
    exact h.obeys_set (Stores.KeepsOwners.refl pool.stores) hobeys
  · have hobeys := h.obeys task (List.mem_of_getElem? htask)
    rw [hrest] at hobeys
    obtain ⟨_, hleft⟩ := hobeys pool.stores h.numbered (Stores.KeepsOwners.refl pool.stores)
    have hinserts : (pool.advance index).inserts =
        pool.inserts + Change.insertsOf (step.change? pool.stores).toList := by
      rw [hnext]
      exact Change.insertsOf_append _ _
    rw [hinserts] at hroom
    obtain ⟨hnumbered, hcounts, hkeeps⟩ := Access.keeps_run h.numbered h.counts hroom
    rw [← hinserts] at hcounts
    rw [hnext] at hcounts ⊢
    exact ⟨⟨hnumbered, hcounts, h.obeys_set hkeeps hleft⟩, hkeeps⟩

/-- One move keeps the pool guarded, and every restaurant with its owner. -/
theorem Guarded.step (h : pool.Guarded service) (move : Move)
    (hroom : (pool.step service move).inserts < idLimit) :
    (pool.step service move).Guarded service ∧
      pool.stores.KeepsOwners (pool.step service move).stores := by
  cases move with
  | arrive now request =>
      refine ⟨⟨h.numbered, h.counts, ?_⟩, Stores.KeepsOwners.refl pool.stores⟩
      intro task htask
      rcases List.mem_append.1 htask with hold | hnew
      · exact h.obeys task hold
      · cases List.mem_singleton.1 hnew
        exact obeys_answer pool.stores service now request
  | turn index => exact h.advance index hroom

/-- Any moves keep the pool guarded, and every restaurant with its owner. -/
theorem Guarded.foldl (moves : List Move) {pool : Pool} (h : pool.Guarded service)
    (hroom : (moves.foldl (Pool.step service) pool).inserts < idLimit) :
    (moves.foldl (Pool.step service) pool).Guarded service ∧
      pool.stores.KeepsOwners (moves.foldl (Pool.step service) pool).stores := by
  induction moves generalizing pool with
  | nil => exact ⟨h, Stores.KeepsOwners.refl pool.stores⟩
  | cons move rest ih =>
      have hnext := h.step move
        (Nat.lt_of_le_of_lt (inserts_le_foldl service rest (pool.step service move)) hroom)
      obtain ⟨hguarded, hkeeps⟩ := ih hnext.1 hroom
      exact ⟨hguarded, hnext.2.trans hkeeps⟩

theorem Guarded.writtenFor (h : pool.Guarded service) (move : Move) :
    WrittenFor service move pool (pool.step service move) := by
  cases move with
  | arrive now request => exact Or.inl ⟨rfl, rfl⟩
  | turn index =>
      show WrittenFor service (.turn index) pool (pool.advance index)
      rcases pool.advance_cases index with hsame | ⟨task, effect, next, htask, hrest, hnext⟩ |
        ⟨task, step, next, htask, hrest, hnext⟩
      · rw [hsame]
        exact Or.inl ⟨rfl, rfl⟩
      · rw [hnext]
        exact Or.inl ⟨rfl, rfl⟩
      · rw [hnext]
        cases hchange : step.change? pool.stores with
        | none =>
            left
            exact ⟨Access.stores_run_of_none hchange, List.append_nil _⟩
        | some change =>
            right
            have hobeys := h.obeys task (List.mem_of_getElem? htask)
            rw [hrest] at hobeys
            obtain ⟨hgrants, _⟩ :=
              hobeys pool.stores h.numbered (Stores.KeepsOwners.refl pool.stores)
            obtain ⟨identity, hidentity, hauthorised⟩ := hgrants change hchange
            obtain ⟨hrun, hfits⟩ := Access.stores_run_of_some h.numbered hchange
            exact ⟨index, task, identity, change, rfl, htask, hidentity, hfits, hauthorised, hrun,
              rfl⟩

end Pool

theorem guarded_after (service : Service) (moves : List Move)
    (hroom : (service.after moves).inserts < idLimit) : (service.after moves).Guarded service :=
  (Pool.Guarded.foldl moves (Pool.guarded_empty service) hroom).1

/-- Every write is authorised at the moment it is made, and no restaurant ever changes hands. -/
theorem every_write_is_authorised (service : Service) (earlier later : List Move) (move : Move)
    (hroom : (service.after (earlier ++ move :: later)).inserts < idLimit) :
    Pool.WrittenFor service move (service.after earlier) (service.after (earlier ++ [move])) ∧
      (service.after earlier).stores.KeepsOwners
        (service.after (earlier ++ move :: later)).stores := by
  have hguarded := guarded_after service earlier
    (Nat.lt_of_le_of_lt (inserts_after_le service earlier (move :: later)) hroom)
  constructor
  · rw [after_append]
    exact hguarded.writtenFor move
  · rw [after_append] at hroom ⊢
    exact (Pool.Guarded.foldl (move :: later) hguarded hroom).2

/-- Two owners register at the same time, and an administrator opens one of the restaurants. -/
theorem administrator_writes_among_owners :
    let service : FoodOrdering.Service := { zone := .privateNetwork }
    let request (user role method path body : String) : Http.Request :=
      { method, target := ⟨path, none⟩, body := body.toUTF8, peer := some (.v4 ⟨10, 0, 0, 7⟩)
        headers := .ofList [("X-User-Id", Text.utf8 user), ("X-User-Role", Text.utf8 role),
          ("Content-Type", Text.utf8 "application/json")] }
    let registered (user name : String) : Move :=
      .arrive (.ofSeconds 0) (request user "OWNER" "POST" "/api/restaurants"
        ("[\"" ++ name ++ "\",\"Pizza\",\"Rome\",null,null,null]"))
    let earlier : List Move :=
      [registered "7" "Vito", registered "9" "Anna", .turn 1, .turn 0,
        .arrive (.ofSeconds 5)
          (request "1" "ADMIN" "PATCH" "/api/restaurants/2/status" "[\"ACTIVE\"]")]
    let later : List Move := [.turn 2]
    let restaurants := (service.after (earlier ++ [.turn 2])).stores.restaurants.all
    (restaurants.map fun restaurant => (restaurant.id, restaurant.ownerId, restaurant.status)) =
        [(1, 9, .pending), (2, 7, .active)] ∧
      (service.after (earlier ++ .turn 2 :: later)).inserts = 2 ∧
      Pool.WrittenFor service (.turn 2) (service.after earlier)
        (service.after (earlier ++ [.turn 2])) ∧
      (service.after earlier).stores.KeepsOwners
        (service.after (earlier ++ .turn 2 :: later)).stores := by
  intro service request registered earlier later restaurants
  have hinserts : (service.after (earlier ++ .turn 2 :: later)).inserts = 2 := by decide +kernel
  exact ⟨by decide +kernel, hinserts, every_write_is_authorised service earlier later (.turn 2)
    (by rw [hinserts]; decide)⟩

end FoodOrdering.Service
