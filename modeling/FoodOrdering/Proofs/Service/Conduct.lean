import FoodOrdering.Proofs.Http.Response
import FoodOrdering.Proofs.Service.OnlyReads

/-!
# How far a request has come

A request to place an order stores it, counts it, announces it and is answered, in this turn and
once each.  Every other request changes one record at most.  A request that is refused has changed
nothing: nothing that can fail comes behind a change.
-/

namespace FoodOrdering

def Change.isOrder : Change → Bool
  | .orderAdded _ => true
  | _ => false

namespace Service

/-- How far a request has come. -/
inductive Stage where
  /-- No order is to be placed; something else has been changed, or nothing yet. -/
  | elsewhere (changed : Bool)
  /-- An order is to be placed. -/
  | ordering
  | stored (order : Order)
  | counted (order : Order)
  | told (order : Order)

namespace Stage

/-- The request is not yet all done. -/
def Going : Stage → Prop
  | .told _ => False
  | _ => True

/-- An access that makes this change, or none, leads from one stage to another. -/
inductive Leads : Stage → Option Change → Stage → Prop
  | read {stage : Stage} (h : stage.Going) : Leads stage none stage
  | change {change : Change} (h : change.isOrder = false) :
      Leads (.elsewhere false) (some change) (.elsewhere true)
  | order (order : Order) : Leads .ordering (some (.orderAdded order)) (.stored order)

/-- An effect leads from one stage to another. -/
inductive Performs : Stage → Effect → Stage → Prop
  | idle {stage : Stage} {effect : Effect} (h : stage.Going) (hidle : effect.Idle) :
      Performs stage effect stage
  | counted (order : Order) :
      Performs (.stored order) (.counted .orderCommitted) (.counted order)
  | told (order : Order) : Performs (.counted order) (.announced order) (.told order)

/-- Nothing has been changed, so that the request may still be refused. -/
def Untouched : Stage → Prop
  | .elsewhere false | .ordering => True
  | _ => False

theorem Untouched.going {stage : Stage} (h : stage.Untouched) : stage.Going := by
  cases stage with
  | told order => exact h
  | _ => exact trivial

end Stage

namespace Program

variable {α β : Type} {post : Stage → α → Prop} {stage : Stage}

/-- The program goes from stage to stage, whatever it finds in the stores; it fails at a stage
where nothing has been changed, and a value that it ends with fits the stage. -/
def Conducts (post : Stage → α → Prop) : Program α → Stage → Prop
  | .done (.ok value), stage => post stage value
  | .done (.error _), stage => stage.Untouched
  | .access step next, stage =>
      ∀ stores, ∃ after, stage.Leads (step.change? stores) after ∧
        (next (step.run stores).1).Conducts post after
  | .perform effect next, stage =>
      ∃ after, stage.Performs effect after ∧ next.Conducts post after

theorem Conducts.mono {program : Program α} {weaker : Stage → α → Prop}
    (h : program.Conducts post stage) (hpost : ∀ stage value, post stage value → weaker stage value) :
    program.Conducts weaker stage := by
  induction program generalizing stage with
  | done outcome =>
      cases outcome with
      | ok value => exact hpost stage value h
      | error problem => exact h
  | access step next ih =>
      intro stores
      obtain ⟨after, hleads, hnext⟩ := h stores
      exact ⟨after, hleads, ih (step.run stores).1 hnext⟩
  | perform effect next ih =>
      obtain ⟨after, hperforms, hnext⟩ := h
      exact ⟨after, hperforms, ih hnext⟩

theorem Conducts.bind {program : Program α} {next : α → Program β} {post : Stage → β → Prop}
    (h : program.Conducts (fun stage value => (next value).Conducts post stage) stage) :
    (program >>= next).Conducts post stage := by
  induction program generalizing stage with
  | done outcome =>
      cases outcome with
      | ok value => exact h
      | error problem => exact h
  | access step rest ih =>
      intro stores
      obtain ⟨after, hleads, hrest⟩ := h stores
      exact ⟨after, hleads, ih (step.run stores).1 hrest⟩
  | perform effect rest ih =>
      obtain ⟨after, hperforms, hrest⟩ := h
      exact ⟨after, hperforms, ih hrest⟩

theorem Conducts.settle {program : Program α} {close : Except Problem α → β}
    {last : Stage → β → Prop} (h : program.Conducts post stage)
    (hok : ∀ stage value, post stage value → last stage (close (.ok value)))
    (herror : ∀ stage problem, stage.Untouched → last stage (close (.error problem))) :
    (program.settle close).Conducts last stage := by
  induction program generalizing stage with
  | done outcome =>
      cases outcome with
      | ok value => exact hok stage value h
      | error problem => exact herror stage problem h
  | access step next ih =>
      intro stores
      obtain ⟨after, hleads, hnext⟩ := h stores
      exact ⟨after, hleads, ih (step.run stores).1 hnext⟩
  | perform effect next ih =>
      obtain ⟨after, hperforms, hnext⟩ := h
      exact ⟨after, hperforms, ih hnext⟩

theorem Conducts.performing {program : Program α} {effects : List Effect}
    (h : program.Conducts post stage) (hgoing : stage.Going)
    (hidle : ∀ effect ∈ effects, effect.Idle) :
    (program.performing effects).Conducts post stage := by
  induction effects with
  | nil => exact h
  | cons effect rest ih =>
      exact ⟨stage, .idle hgoing (hidle effect List.mem_cons_self),
        ih fun other hother => hidle other (List.mem_cons_of_mem effect hother)⟩

/-- A program that only reads stays where it is. -/
theorem OnlyReads.conducts {program : Program α} (h : program.OnlyReads)
    (huntouched : stage.Untouched) (hpost : ∀ value, post stage value) :
    program.Conducts post stage := by
  induction program with
  | done outcome =>
      cases outcome with
      | ok value => exact hpost value
      | error problem => exact huntouched
  | access step next ih =>
      intro stores
      rw [h.1 stores]
      exact ⟨stage, .read huntouched.going, ih (step.run stores).1 (h.2 _)⟩
  | perform effect next ih => exact ⟨stage, .idle huntouched.going h.1, ih h.2⟩

/-- Behind the announcement there is nothing left to do. -/
theorem Conducts.of_told {program : Program α} {order : Order}
    (h : program.Conducts post (.told order)) :
    ∃ value, program = .done (.ok value) ∧ post (.told order) value := by
  cases program with
  | done outcome =>
      cases outcome with
      | ok value => exact ⟨value, rfl, h⟩
      | error problem => exact h.elim
  | access step next =>
      obtain ⟨after, hleads, _⟩ := h .empty
      generalize step.change? .empty = change at hleads
      cases hleads with
      | read hgoing => exact hgoing.elim
  | perform effect next =>
      obtain ⟨after, hperforms, _⟩ := h
      cases hperforms with
      | idle hgoing _ => exact hgoing.elim

theorem conducts_ofExcept {ε : Type} {problem : ε → Problem} {source : Except ε α}
    (huntouched : stage.Untouched) (h : ∀ value, source = .ok value → post stage value) :
    (ofExcept problem source).Conducts post stage := by
  cases source with
  | ok value => exact h value rfl
  | error fault => exact huntouched

/-! ## Accesses that change something -/

theorem conducts_createRestaurant {post : Stage → Restaurant → Prop} (draft : Restaurant)
    (h : ∀ restaurant, post (.elsewhere true) restaurant) :
    (createRestaurant draft).Conducts post (.elsewhere false) :=
  fun _ => ⟨.elsewhere true, .change rfl, h _⟩

theorem conducts_setStatus {post : Stage → Restaurant → Prop} (id : Int64)
    (status : Restaurant.Status) (h : ∀ restaurant, post (.elsewhere true) restaurant) :
    (setStatus id status).Conducts post (.elsewhere false) := by
  intro stores
  dsimp only [Access.change?, Access.run, RestaurantStore.setStatus]
  cases stores.restaurants.restaurants.find? id with
  | none => exact ⟨.elsewhere false, .read trivial, trivial⟩
  | some restaurant => exact ⟨.elsewhere true, .change rfl, h _⟩

theorem conducts_addMenuItem {post : Stage → MenuItem → Prop} (draft : MenuItem)
    (h : ∀ item, post (.elsewhere true) item) :
    (addMenuItem draft).Conducts post (.elsewhere false) := by
  intro stores
  dsimp only [Access.change?, Access.run, RestaurantStore.addMenuItem]
  split
  · exact ⟨.elsewhere true, .change rfl, h _⟩
  · exact ⟨.elsewhere false, .read trivial, trivial⟩

theorem conducts_updateMenuItem {post : Stage → MenuItem → Prop} (restaurantId itemId : Int64)
    (content : MenuItem.Content) (h : ∀ item, post (.elsewhere true) item) :
    (updateMenuItem restaurantId itemId content).Conducts post (.elsewhere false) := by
  intro stores
  dsimp only [Access.change?, Access.run, RestaurantStore.updateMenuItem]
  cases (stores.restaurants.menuItems.find? itemId).filter fun item =>
    item.restaurantId == restaurantId with
  | none => exact ⟨.elsewhere false, .read trivial, trivial⟩
  | some item => exact ⟨.elsewhere true, .change rfl, h _⟩

theorem conducts_menu {post : Stage → List MenuItem → Prop} (restaurantId : Int64)
    (hgoing : stage.Going) (h : ∀ items, post stage items) :
    (menu restaurantId).Conducts post stage :=
  fun _ => ⟨stage, .read hgoing, h _⟩

/-- An order is stored, counted and announced before anything else happens. -/
theorem conducts_createOrder {next : Order → Program α} (draft : Order)
    (h : ∀ order, (next order).Conducts post (.told order)) :
    (createOrder draft >>= fun order => count .orderCommitted >>= fun _ =>
      announce order >>= fun _ => next order).Conducts post .ordering :=
  fun _ => ⟨_, .order _, _, .counted _, _, .told _, h _⟩

end Program

open Program

/-! ## Handlers -/

/-- What a request is answered with when it has come this far. -/
def Stage.Closes : Stage → Envelope → Prop
  | .elsewhere false, _ => True
  | .elsewhere true, envelope => envelope.status = 200 ∨ envelope.status = 201
  | .told order, envelope => envelope = .created "Order placed successfully" (orderView order)
  | .ordering, _ | .stored _, _ | .counted _, _ => False

theorem conducts_registerRestaurant (call : Call) :
    (registerRestaurant call).Conducts Stage.Closes (.elsewhere false) := by
  refine Conducts.bind ((onlyReads_permit call .createRestaurant none).conducts trivial fun _ => ?_)
  refine Conducts.bind ((onlyReads_identify call).conducts trivial fun user => ?_)
  refine Conducts.bind (conducts_ofExcept trivial fun request _ => ?_)
  refine Conducts.bind (conducts_ofExcept trivial fun draft _ => ?_)
  exact Conducts.bind (conducts_createRestaurant draft fun _ => .inr rfl)

theorem conducts_extendMenu (part : String) (call : Call) :
    (extendMenu part call).Conducts Stage.Closes (.elsewhere false) := by
  refine Conducts.bind (conducts_ofExcept trivial fun id _ => ?_)
  refine Conducts.bind ((onlyReads_admitted call .addMenuItem id).conducts trivial fun _ => ?_)
  refine Conducts.bind (conducts_ofExcept trivial fun request _ => ?_)
  refine Conducts.bind (conducts_ofExcept trivial fun content _ => ?_)
  exact Conducts.bind (conducts_addMenuItem _ fun _ => .inl rfl)

theorem conducts_reviseMenuItem (part itemPart : String) (call : Call) :
    (reviseMenuItem part itemPart call).Conducts Stage.Closes (.elsewhere false) := by
  refine Conducts.bind (conducts_ofExcept trivial fun ids _ => ?_)
  refine Conducts.bind
    ((onlyReads_admitted call .updateMenuItem ids.1).conducts trivial fun _ => ?_)
  refine Conducts.bind (conducts_ofExcept trivial fun request _ => ?_)
  refine Conducts.bind (conducts_ofExcept trivial fun content _ => ?_)
  exact Conducts.bind (conducts_updateMenuItem _ _ _ fun _ => .inl rfl)

theorem conducts_changeStatus (part : String) (call : Call) :
    (changeStatus part call).Conducts Stage.Closes (.elsewhere false) := by
  refine Conducts.bind
    ((onlyReads_permit call .changeRestaurantStatus none).conducts trivial fun _ => ?_)
  refine Conducts.bind (conducts_ofExcept trivial fun id _ => ?_)
  refine Conducts.bind (conducts_ofExcept trivial fun request _ => ?_)
  refine Conducts.bind (conducts_ofExcept trivial fun status _ => ?_)
  refine Conducts.bind (conducts_setStatus id status fun restaurant => ?_)
  exact Conducts.bind (conducts_menu id trivial fun _ => .inl rfl)

theorem conducts_placeOrder (call : Call) : (placeOrder call).Conducts Stage.Closes .ordering := by
  refine Conducts.bind ((onlyReads_permit call .placeOrder none).conducts trivial fun _ => ?_)
  refine Conducts.bind ((onlyReads_identify call).conducts trivial fun user => ?_)
  refine Conducts.bind (conducts_ofExcept trivial fun request _ => ?_)
  refine Conducts.bind (conducts_ofExcept trivial fun draft _ => ?_)
  refine Conducts.bind
    ((onlyReads_findRestaurant? draft.restaurantId).conducts trivial fun restaurant => ?_)
  refine Conducts.bind
    ((onlyReads_found draft.restaurantId restaurant).conducts trivial fun _ => ?_)
  exact conducts_createOrder draft fun _ => rfl

/-- The stage at which a request for an action begins. -/
def Action.stage : Action → Stage
  | .placeOrder => .ordering
  | _ => .elsewhere false

theorem conducts_envelope {action : Action} {program : Call → Program Envelope}
    (h : action.envelope? = some program) (call : Call) :
    (program call).Conducts Stage.Closes action.stage := by
  cases action with
  | showHealth => cases h
  | listRestaurants =>
      cases h
      exact (onlyReads_listRestaurants call).conducts trivial fun _ => trivial
  | registerRestaurant =>
      cases h
      exact conducts_registerRestaurant call
  | showRestaurant part =>
      cases h
      exact (onlyReads_showRestaurant part call).conducts trivial fun _ => trivial
  | showMenu part =>
      cases h
      exact (onlyReads_showMenu part call).conducts trivial fun _ => trivial
  | extendMenu part =>
      cases h
      exact conducts_extendMenu part call
  | reviseMenuItem part itemPart =>
      cases h
      exact conducts_reviseMenuItem part itemPart call
  | changeStatus part =>
      cases h
      exact conducts_changeStatus part call
  | listOwnOrders =>
      cases h
      exact (onlyReads_listOwnOrders call).conducts trivial fun _ => trivial
  | placeOrder =>
      cases h
      exact conducts_placeOrder call
  | listRestaurantOrders part =>
      cases h
      exact (onlyReads_listRestaurantOrders part call).conducts trivial fun _ => trivial

/-! ## Requests -/

/-- The request asks to place an order. -/
def IsPlacing (request : Http.Request) : Prop :=
  request.method = "POST" ∧ Resource.ofPath? request.target.path = some .orders

instance (request : Http.Request) : Decidable (IsPlacing request) :=
  inferInstanceAs (Decidable (_ ∧ _))

/-- The stage at which a request begins. -/
def Stage.start (request : Http.Request) : Stage :=
  if IsPlacing request then .ordering else .elsewhere false

/-- What goes out when this order has been placed. -/
def placedResponse (now : Instant) (request : Http.Request) (order : Order) : Http.Response :=
  sent request (Http.CrossOrigin.opened
    ((Envelope.created "Order placed successfully" (orderView order)).response now))

/-- What goes out for a request that has come this far. -/
def Stage.Sends (now : Instant) (request : Http.Request) : Stage → Http.Response → Prop
  | .elsewhere false, _ => True
  | .elsewhere true, response => response.status = 200 ∨ response.status = 201
  | .ordering, response => 400 ≤ response.status
  | .told order, response => response = placedResponse now request order
  | .stored _, _ | .counted _, _ => False

theorem le_status (problem : Problem) : 400 ≤ problem.status := by
  cases problem <;> exact Nat.le_of_ble_eq_true rfl

theorem status_sent (request : Http.Request) (response : Http.Response) :
    (sent request (Http.CrossOrigin.opened response)).status = response.status := by
  rw [sent, Http.status_finished, Http.CrossOrigin.status_opened]

theorem sends_of_closes {now : Instant} {request : Http.Request} {stage : Stage}
    {envelope : Envelope} (h : stage.Closes envelope) :
    stage.Sends now request (sent request (Http.CrossOrigin.opened (envelope.response now))) := by
  cases stage with
  | elsewhere changed =>
      cases changed with
      | false => exact trivial
      | true =>
          rw [Stage.Sends, status_sent]
          exact h
  | told order =>
      cases h
      exact rfl
  | ordering => exact h.elim
  | stored order => exact h.elim
  | counted order => exact h.elim

theorem sends_of_untouched {now : Instant} {request : Http.Request} {stage : Stage}
    (h : stage.Untouched) (problem : Problem) :
    stage.Sends now request
      (sent request (Http.CrossOrigin.opened ((Envelope.ofProblem problem).response now))) := by
  cases stage with
  | elsewhere changed =>
      cases changed with
      | false => exact trivial
      | true => exact h.elim
  | ordering =>
      rw [Stage.Sends, status_sent]
      exact le_status problem
  | told order => exact h.elim
  | stored order => exact h.elim
  | counted order => exact h.elim

/-- Placing an order is asked for in one way only. -/
theorem action?_eq_placeOrder_iff {resource : Resource} {method : String} :
    resource.action? method = some .placeOrder ↔ resource = .orders ∧ method = "POST" := by
  unfold Resource.action?
  constructor
  · intro h
    split at h
    · cases resource <;> simp [Resource.reading?] at h
    · cases resource <;> simp [Resource.writing?] at h
      exact ⟨rfl, h⟩
  · rintro ⟨rfl, rfl⟩
    rfl

theorem stage_of_action? {request : Http.Request} {resource : Resource} {action : Action}
    (hresource : Resource.ofPath? request.target.path = some resource)
    (haction : resource.action? request.method = some action) :
    action.stage = Stage.start request := by
  unfold Stage.start
  by_cases hplacing : IsPlacing request
  · obtain ⟨hmethod, horders⟩ := hplacing
    cases horders.symm.trans hresource
    rw [if_pos ⟨hmethod, horders⟩]
    cases haction.symm.trans (action?_eq_placeOrder_iff.2 ⟨rfl, hmethod⟩)
    rfl
  · rw [if_neg hplacing]
    unfold Action.stage
    split
    next =>
      obtain ⟨rfl, hmethod⟩ := action?_eq_placeOrder_iff.1 haction
      exact absurd ⟨hmethod, hresource⟩ hplacing
    next => rfl

theorem start_of_ofPath?_ne {request : Http.Request}
    (h : Resource.ofPath? request.target.path ≠ some .orders) :
    Stage.start request = .elsewhere false :=
  if_neg fun hplacing => h hplacing.2

theorem conducts_programOf (call : Call) :
    ((programOf call).settle fun outcome =>
        sent call.request (Http.CrossOrigin.opened (outcomeResponse call.now outcome))).Conducts
      (Stage.Sends call.now call.request) (Stage.start call.request) := by
  unfold programOf
  split
  next hnone =>
    rw [start_of_ofPath?_ne (by rw [hnone]; exact nofun)]
    exact trivial
  next resource hresource =>
    split
    next hnone =>
      have hother : ¬ IsPlacing call.request := by
        rintro ⟨hmethod, horders⟩
        cases horders.symm.trans hresource
        cases hnone.symm.trans (action?_eq_placeOrder_iff.2 ⟨rfl, hmethod⟩)
      rw [Stage.start, if_neg hother]
      exact trivial
    next action haction =>
      rw [← stage_of_action? hresource haction]
      unfold Action.program
      split
      next hhealth =>
        cases action <;> cases hhealth
        exact trivial
      next program hprogram =>
        have henvelope : Program.Conducts
            (fun stage response =>
              ∃ envelope : Envelope, stage.Closes envelope ∧ response = envelope.response call.now)
            (program call >>= fun envelope => .done (.ok (envelope.response call.now)))
            action.stage :=
          Conducts.bind ((conducts_envelope hprogram call).mono
            fun _ envelope hcloses => ⟨envelope, hcloses, rfl⟩)
        refine henvelope.settle ?_ ?_
        · rintro stage _ ⟨envelope, hcloses, rfl⟩
          exact sends_of_closes hcloses
        · intro stage problem huntouched
          exact sends_of_untouched huntouched problem

theorem conducts_answer (service : Service) (now : Instant) (request : Http.Request) :
    (service.answer now request).Conducts (Stage.Sends now request) (Stage.start request) := by
  unfold answer
  split
  next hquestion =>
    have hother : ¬ IsPlacing request := by
      rintro ⟨hmethod, _⟩
      exact absurd (hquestion.symm.trans hmethod) (by decide)
    rw [Stage.start, if_neg hother]
    exact trivial
  next =>
    apply Conducts.performing
    · exact conducts_programOf (service.callOf now request)
    · unfold Stage.start
      split
      · exact trivial
      · exact trivial
    · exact fun _ => idle_of_mem_callerEffects

end Service

end FoodOrdering
