import FoodOrdering.Proofs.Service.Progress
import FoodOrdering.Proofs.Service.Writes
import FoodOrdering.Proofs.Store.Records

/-!
# The history of orders

The store of orders holds every order that came in, from first to last, under the ids from one on.
Each of them is pending, as it was placed.
-/

namespace FoodOrdering

namespace Service.Pool

/-- The store holds the orders that came in, and all of them are pending. -/
structure Recorded (pool : Pool) : Prop where
  holds : pool.stores.orders.Holds (Change.orders pool.history)
  pending : ∀ order ∈ Change.orders pool.history, order.status = .pending

variable {service : Service} {pool next : Pool}

theorem recorded_empty : empty.Recorded :=
  ⟨OrderStore.holds_empty, nofun⟩

/-- No more orders come in than records. -/
theorem length_orders_le (changes : List Change) :
    (Change.orders changes).length ≤ Change.insertsOf changes := by
  induction changes with
  | nil => exact Nat.le_refl 0
  | cons change rest ih =>
      cases change with
      | orderAdded order =>
          show (Change.orders rest).length + 1 ≤ 1 + Change.insertsOf rest
          omega
      | restaurantAdded restaurant => exact Nat.le_trans ih (Nat.le_add_left _ _)
      | statusChanged restaurant status => exact Nat.le_trans ih (Nat.le_add_left _ _)
      | itemAdded item => exact Nat.le_trans ih (Nat.le_add_left _ _)
      | itemChanged item content => exact Nat.le_trans ih (Nat.le_add_left _ _)

theorem Recorded.of_writtenFor (h : pool.Recorded) {move : Move}
    (hwritten : WrittenFor service move pool next) (hroom : next.inserts < idLimit) :
    next.Recorded := by
  obtain ⟨hstores, hhistory⟩ | ⟨_, _, identity, change, _, _, _, hfits, hauthorised, hstores,
    hhistory⟩ := hwritten
  · constructor
    · rw [hstores, hhistory]
      exact h.holds
    · rw [hhistory]
      exact h.pending
  · have hsame : ∀ {change : Change}, Change.orders [change] = [] →
        (change.apply pool.stores).orders = pool.stores.orders →
        next.stores = change.apply pool.stores → next.history = pool.history ++ [change] →
        next.Recorded := by
      intro change hnone hkept hstores hhistory
      constructor
      · rw [hstores, hhistory, Change.orders_append, hnone, List.append_nil, hkept]
        exact h.holds
      · rw [hhistory, Change.orders_append, hnone, List.append_nil]
        exact h.pending
    cases change with
    | restaurantAdded restaurant => exact hsame rfl rfl hstores hhistory
    | statusChanged restaurant status => exact hsame rfl rfl hstores hhistory
    | itemAdded item => exact hsame rfl rfl hstores hhistory
    | itemChanged item content => exact hsame rfl rfl hstores hhistory
    | orderAdded order =>
        have hcount : (Change.orders pool.history).length + 1 ≤ next.inserts := by
          have hle := length_orders_le next.history
          rwa [hhistory, Change.orders_append, List.length_append, ← hhistory] at hle
        constructor
        · rw [hstores, hhistory, Change.orders_append]
          exact h.holds.insert hfits (Nat.lt_of_le_of_lt hcount hroom)
        · rw [hhistory, Change.orders_append]
          intro other hother
          rcases List.mem_append.1 hother with hold | hnew
          · exact h.pending other hold
          · cases List.mem_singleton.1 hnew
            exact hauthorised.2.2

theorem Recorded.foldl (moves : List Move) {pool : Pool} (h : pool.Recorded)
    (hguarded : pool.Guarded service)
    (hroom : (moves.foldl (Pool.step service) pool).inserts < idLimit) :
    (moves.foldl (Pool.step service) pool).Recorded := by
  induction moves generalizing pool with
  | nil => exact h
  | cons move rest ih =>
      have hnext := Nat.lt_of_le_of_lt (inserts_le_foldl service rest (pool.step service move)) hroom
      exact ih (h.of_writtenFor (hguarded.writtenFor move) hnext) (hguarded.step move hnext).1 hroom

/-! ## Announced orders -/

theorem filterMap_told?_sublist (stages : List Stage) :
    (stages.filterMap Stage.told?).Sublist (stages.filterMap Stage.order?) := by
  induction stages with
  | nil => exact .slnil
  | cons stage rest ih =>
      cases stage with
      | elsewhere changed => exact ih
      | ordering => exact ih
      | stored order => exact ih.cons order
      | counted order => exact ih.cons order
      | told order => exact ih.cons_cons order

/-- An order that was announced is in the store. -/
theorem Recorded.of_announced {stages : List Stage} (h : pool.Recorded)
    (hstaged : pool.Staged stages) {order : Order} (horder : order ∈ announcements pool.effects) :
    order ∈ pool.stores.orders.orders.values ∧ order.status = .pending := by
  have hhistory : order ∈ Change.orders pool.history :=
    hstaged.stored.symm.subset
      ((filterMap_told?_sublist stages).subset (hstaged.told.subset horder))
  rw [h.holds.values_eq]
  exact ⟨hhistory, h.pending order hhistory⟩

/-- No two orders that were announced have one id. -/
theorem Recorded.nodup_announced {stages : List Stage} (h : pool.Recorded)
    (hstaged : pool.Staged stages) :
    ((announcements pool.effects).map Order.id).Nodup := by
  have hstored : ((stages.filterMap Stage.order?).map Order.id).Nodup :=
    ((hstaged.stored.map Order.id).nodup_iff).1 h.holds.nodup_ids
  have htold := hstored.sublist ((filterMap_told?_sublist stages).map Order.id)
  exact ((hstaged.told.map Order.id).nodup_iff).2 htold

end Service.Pool

/-- In every run the store of orders is the history of the orders that were placed. -/
theorem Service.recorded_after (service : Service) (moves : List Move)
    (hroom : (service.after moves).inserts < idLimit) : (service.after moves).Recorded :=
  Pool.recorded_empty.foldl moves (Pool.guarded_empty service) hroom

end FoodOrdering
