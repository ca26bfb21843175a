import FoodOrdering.Proofs.Service.Progress
import FoodOrdering.Proofs.Service.Timeless

/-!
# Requests at other times

The same requests may come in at other times.  What is done about them, in the same turns, is the
same: it leaves the same records, and the same goes out but for the time stamps.
-/

namespace FoodOrdering.Service

/-- What is counted or announced, without times. -/
def Effect.timeless : Effect → Effect
  | .counted counter => .counted counter
  | .announced order => .announced order.timeless

namespace Program

variable {α β γ δ : Type}

/-- The programs do the same but for the times in what they store and announce, as long as their
accesses give the same but for the times, and they end with values that are related. -/
inductive Alike (related : α → β → Prop) : Program α → Program β → Prop
  | value {first : α} {second : β} (h : related first second) :
      Alike related (.done (.ok first)) (.done (.ok second))
  | problem (problem : Problem) :
      Alike related (.done (.error problem)) (.done (.error problem))
  | access {step other : Access} {next : step.Result → Program α}
      {rest : other.Result → Program β} (hstep : step.timeless = other.timeless)
      (h : ∀ stores others : Stores, stores.timeless = others.timeless →
        Alike related (next (step.run stores).1) (rest (other.run others).1)) :
      Alike related (.access step next) (.access other rest)
  | perform {effect other : Effect} {next : Program α} {rest : Program β}
      (heffect : effect.timeless = other.timeless) (h : Alike related next rest) :
      Alike related (.perform effect next) (.perform other rest)

theorem Alike.bind {earlier : α → β → Prop} {related : γ → δ → Prop} {program : Program α}
    {other : Program β} {next : α → Program γ} {rest : β → Program δ}
    (h : program.Alike earlier other)
    (hnext : ∀ first second, earlier first second → (next first).Alike related (rest second)) :
    (program >>= next).Alike related (other >>= rest) := by
  induction h with
  | value h => exact hnext _ _ h
  | problem problem => exact .problem problem
  | access hstep _ ih => exact .access hstep ih
  | perform heffect _ ih => exact .perform heffect ih

/-- Go on from what is the same on both sides. -/
theorem Alike.bind_of_eq {related : γ → δ → Prop} {program other : Program α}
    {next : α → Program γ} {rest : α → Program δ} (h : program.Alike Eq other)
    (hnext : ∀ value, (next value).Alike related (rest value)) :
    (program >>= next).Alike related (other >>= rest) := by
  refine h.bind fun value _ heq => ?_
  subst heq
  exact hnext value

theorem Alike.settle {earlier : α → β → Prop} {related : γ → δ → Prop} {program : Program α}
    {other : Program β} {close : Except Problem α → γ} {finish : Except Problem β → δ}
    (h : program.Alike earlier other)
    (hok : ∀ first second, earlier first second → related (close (.ok first)) (finish (.ok second)))
    (herror : ∀ problem, related (close (.error problem)) (finish (.error problem))) :
    (program.settle close).Alike related (other.settle finish) := by
  induction h with
  | value h => exact .value (hok _ _ h)
  | problem problem => exact .value (herror problem)
  | access hstep _ ih => exact .access hstep ih
  | perform heffect _ ih => exact .perform heffect ih

theorem Alike.performing {related : α → β → Prop} {program : Program α} {other : Program β}
    (h : program.Alike related other) (effects : List Effect) :
    (program.performing effects).Alike related (other.performing effects) := by
  induction effects with
  | nil => exact h
  | cons effect rest ih => exact .perform rfl ih

/-- What can be told of the one outcome can be told of the other. -/
theorem alike_ofExcept {ε : Type} {problem : ε → Problem} {source : Except ε α}
    {other : Except ε β} {view : α → γ} {another : β → γ}
    (h : source.map view = other.map another) :
    (ofExcept problem source).Alike (fun first second => view first = another second)
      (ofExcept problem other) := by
  cases source with
  | ok value =>
      cases other with
      | ok value => exact .value (Except.ok.inj h)
      | error fault => cases h
  | error fault =>
      cases other with
      | ok value => cases h
      | error fault =>
          cases h
          exact .problem _

theorem alike_ofExcept_self {ε : Type} (problem : ε → Problem) (source : Except ε α) :
    (ofExcept problem source).Alike Eq (ofExcept problem source) := by
  cases source with
  | ok value => exact .value rfl
  | error fault => exact .problem _

theorem alike_permit (call : Call) (later : Instant) (operation : Operation)
    (owner : Option Int64) :
    (permit call operation owner).Alike Eq
      (permit { call with now := later } operation owner) := by
  unfold permit
  dsimp only
  split
  · exact .value rfl
  · exact .perform rfl (.problem _)

theorem alike_identify (call : Call) (later : Instant) :
    (identify call).Alike Eq (identify { call with now := later }) := by
  unfold identify
  dsimp only
  split
  · exact .value rfl
  · exact .problem _

theorem alike_found (id : Int64) {result other : Option Restaurant}
    (h : result.map Restaurant.timeless = other.map Restaurant.timeless) :
    (found id result).Alike (fun first second => first.timeless = second.timeless)
      (found id other) := by
  cases result with
  | none =>
      cases other with
      | none => exact .problem _
      | some restaurant => cases h
  | some restaurant =>
      cases other with
      | none => cases h
      | some restaurant => exact .value (Option.some.inj h)

/-! ## Accesses -/

/-- Without the times alike accesses to alike stores leave the same. -/
theorem stores_run_congr {step other : Access} (hstep : step.timeless = other.timeless)
    {stores others : Stores} (hstores : stores.timeless = others.timeless) :
    (step.run stores).2.timeless = (other.run others).2.timeless := by
  rw [step.timeless_run, other.timeless_run, hstep, hstores]

/-- The same access on both sides gives the same without the times. -/
theorem alike_access {related : α → β → Prop} (step : Access) {next : step.Result → Program α}
    {rest : step.Result → Program β}
    (h : ∀ first second, step.timelessResult first = step.timelessResult second →
      (next first).Alike related (rest second)) :
    (Program.access step next).Alike related (.access step rest) := by
  refine .access rfl fun stores others hstores => h _ _ ?_
  rw [step.timelessResult_run, step.timelessResult_run, hstores]

theorem alike_createRestaurant {draft other : Restaurant} (h : draft.timeless = other.timeless) :
    (createRestaurant draft).Alike (fun first second => first.timeless = second.timeless)
      (createRestaurant other) := by
  refine .access (congrArg Access.createRestaurant h) fun stores others hstores => .value ?_
  refine ((Access.createRestaurant draft).timelessResult_run stores).trans ?_
  refine Eq.trans ?_ ((Access.createRestaurant other).timelessResult_run others).symm
  dsimp only [Access.timeless]
  rw [h, hstores]

theorem alike_createOrder {draft other : Order} (h : draft.timeless = other.timeless) :
    (createOrder draft).Alike (fun first second => first.timeless = second.timeless)
      (createOrder other) := by
  refine .access (congrArg Access.createOrder h) fun stores others hstores => .value ?_
  refine ((Access.createOrder draft).timelessResult_run stores).trans ?_
  refine Eq.trans ?_ ((Access.createOrder other).timelessResult_run others).symm
  dsimp only [Access.timeless]
  rw [h, hstores]

theorem alike_findRestaurant? (id : Int64) :
    (findRestaurant? id).Alike
      (fun first second => first.map Restaurant.timeless = second.map Restaurant.timeless)
      (findRestaurant? id) :=
  alike_access (.findRestaurant id) fun _ _ hfound => .value hfound

theorem alike_allRestaurants :
    allRestaurants.Alike
      (fun first second => first.map Restaurant.timeless = second.map Restaurant.timeless)
      allRestaurants :=
  alike_access .allRestaurants fun _ _ hall => .value hall

theorem alike_setStatus (id : Int64) (status : Restaurant.Status) :
    (setStatus id status).Alike (fun first second => first.timeless = second.timeless)
      (setStatus id status) :=
  alike_access (.setStatus id status) fun _ _ hresult => alike_ofExcept hresult

theorem alike_addMenuItem (draft : MenuItem) :
    (addMenuItem draft).Alike Eq (addMenuItem draft) := by
  refine alike_access (.addMenuItem draft) fun first second hresult => ?_
  cases hresult
  exact alike_ofExcept_self _ _

theorem alike_updateMenuItem (restaurantId itemId : Int64) (content : MenuItem.Content) :
    (updateMenuItem restaurantId itemId content).Alike Eq
      (updateMenuItem restaurantId itemId content) := by
  refine alike_access (.updateMenuItem restaurantId itemId content) fun first second hresult => ?_
  cases hresult
  exact alike_ofExcept_self _ _

theorem alike_ordersOfCustomer (customerId : Int64) :
    (ordersOfCustomer customerId).Alike
      (fun first second => first.map Order.timeless = second.map Order.timeless)
      (ordersOfCustomer customerId) :=
  alike_access (.ordersOfCustomer customerId) fun _ _ horders => .value horders

theorem alike_ordersAtRestaurant (restaurantId : Int64) :
    (ordersAtRestaurant restaurantId).Alike
      (fun first second => first.map Order.timeless = second.map Order.timeless)
      (ordersAtRestaurant restaurantId) :=
  alike_access (.ordersAtRestaurant restaurantId) fun _ _ horders => .value horders

theorem alike_menu (restaurantId : Int64) : (menu restaurantId).Alike Eq (menu restaurantId) :=
  alike_access (.menu restaurantId) fun _ _ hitems => .value hitems

end Program

open Program

/-! ## Handlers -/

/-- The program ends with the same envelope at another time, but for time stamps. -/
def KeepsTime (program : Call → Program Envelope) : Prop :=
  ∀ (call : Call) (later : Instant),
    (program call).Alike (fun first second => first.timeless = second.timeless)
      (program { call with now := later })

theorem Envelope.timeless_congr (status : Nat) (message : String) {data other : Json}
    (h : data.timeless = other.timeless) :
    Envelope.timeless { status, message, data } = Envelope.timeless { status, message, data := other } :=
  congrArg (Envelope.mk status message) h

theorem RestaurantRequest.map_toRestaurant (request : RestaurantRequest) (ownerId : Int64)
    (now later : Instant) :
    (request.toRestaurant ownerId now).map Restaurant.timeless =
      (request.toRestaurant ownerId later).map Restaurant.timeless := by
  unfold toRestaurant
  cases request.judge.finish with
  | ok done => rfl
  | error problem => rfl

theorem OrderRequest.map_toOrder (request : OrderRequest) (customerId : Int64)
    (now later : Instant) :
    (request.toOrder customerId now).map Order.timeless =
      (request.toOrder customerId later).map Order.timeless := by
  unfold toOrder
  cases request.judge.finish with
  | ok done => rfl
  | error problem => rfl

theorem alike_admitted (call : Call) (later : Instant) (operation : Operation) (id : Int64) :
    (admitted call operation id).Alike (fun first second => first.timeless = second.timeless)
      (admitted { call with now := later } operation id) := by
  refine (alike_findRestaurant? id).bind fun first second hfound => ?_
  have howner : first.map Restaurant.ownerId = second.map Restaurant.ownerId := by
    have hmap := congrArg (Option.map Restaurant.ownerId) hfound
    rwa [Option.map_map, Option.map_map] at hmap
  rw [howner]
  exact (alike_permit call later operation _).bind_of_eq fun _ => alike_found id hfound

theorem keepsTime_registerRestaurant : KeepsTime registerRestaurant := by
  intro call later
  refine (alike_permit call later _ _).bind_of_eq fun _ => ?_
  refine (alike_identify call later).bind_of_eq fun user => ?_
  refine (alike_ofExcept_self _ _).bind_of_eq fun request => ?_
  refine (alike_ofExcept (request.map_toRestaurant user.userId call.now later)).bind
    fun draft other hdraft => ?_
  refine (alike_createRestaurant hdraft).bind fun first second hstored => .value ?_
  exact Envelope.timeless_congr _ _ (restaurantView_congr hstored [])

theorem alike_withMenus {restaurants others : List Restaurant}
    (h : restaurants.map Restaurant.timeless = others.map Restaurant.timeless) :
    (withMenus restaurants).Alike
      (fun first second => first.map Json.timeless = second.map Json.timeless)
      (withMenus others) := by
  induction restaurants generalizing others with
  | nil =>
      cases List.map_eq_nil_iff.1 h.symm
      exact .value rfl
  | cons restaurant rest ih =>
      obtain ⟨other, more, rfl, hother, hmore⟩ := List.map_eq_cons_iff.1 h.symm
      have hid : other.id = restaurant.id := Restaurant.id_congr hother
      unfold withMenus
      rw [hid]
      refine (alike_menu restaurant.id).bind_of_eq fun items => ?_
      refine (ih hmore.symm).bind fun first second hviews => .value ?_
      rw [List.map_cons, List.map_cons, hviews, restaurantView_congr hother.symm]

theorem keepsTime_listRestaurants : KeepsTime listRestaurants := by
  intro call later
  refine (alike_permit call later _ _).bind_of_eq fun _ => ?_
  refine alike_allRestaurants.bind fun first second hall => ?_
  refine (alike_withMenus hall).bind fun views others hviews => .value ?_
  apply Envelope.timeless_congr
  rw [Json.timeless_list, Json.timeless_list, hviews]

theorem keepsTime_showRestaurant (part : String) : KeepsTime (showRestaurant part) := by
  intro call later
  refine (alike_permit call later _ _).bind_of_eq fun _ => ?_
  refine (alike_ofExcept_self _ _).bind_of_eq fun id => ?_
  refine (alike_findRestaurant? id).bind fun first second hfound => ?_
  refine (alike_found id hfound).bind fun restaurant other hrestaurant => ?_
  refine (alike_menu id).bind_of_eq fun items => .value ?_
  exact Envelope.timeless_congr _ _ (restaurantView_congr hrestaurant items)

theorem keepsTime_showMenu (part : String) : KeepsTime (showMenu part) := by
  intro call later
  refine (alike_permit call later _ _).bind_of_eq fun _ => ?_
  refine (alike_ofExcept_self _ _).bind_of_eq fun id => ?_
  refine (alike_findRestaurant? id).bind fun first second hfound => ?_
  refine (alike_found id hfound).bind fun _ _ _ => ?_
  refine (alike_menu id).bind_of_eq fun items => .value rfl

theorem keepsTime_extendMenu (part : String) : KeepsTime (extendMenu part) := by
  intro call later
  refine (alike_ofExcept_self _ _).bind_of_eq fun id => ?_
  refine (alike_admitted call later _ id).bind fun restaurant other hrestaurant => ?_
  have hid : restaurant.id = other.id := Restaurant.id_congr hrestaurant
  rw [hid]
  refine (alike_ofExcept_self _ _).bind_of_eq fun request => ?_
  refine (alike_ofExcept_self _ _).bind_of_eq fun content => ?_
  refine (alike_addMenuItem _).bind_of_eq fun item => .value rfl

theorem keepsTime_reviseMenuItem (part itemPart : String) :
    KeepsTime (reviseMenuItem part itemPart) := by
  intro call later
  refine (alike_ofExcept_self _ _).bind_of_eq fun ids => ?_
  refine (alike_admitted call later _ ids.1).bind fun restaurant other hrestaurant => ?_
  have hid : restaurant.id = other.id := Restaurant.id_congr hrestaurant
  rw [hid]
  refine (alike_ofExcept_self _ _).bind_of_eq fun request => ?_
  refine (alike_ofExcept_self _ _).bind_of_eq fun content => ?_
  refine (alike_updateMenuItem _ _ _).bind_of_eq fun item => .value rfl

theorem keepsTime_changeStatus (part : String) : KeepsTime (changeStatus part) := by
  intro call later
  refine (alike_permit call later _ _).bind_of_eq fun _ => ?_
  refine (alike_ofExcept_self _ _).bind_of_eq fun id => ?_
  refine (alike_ofExcept_self _ _).bind_of_eq fun request => ?_
  refine (alike_ofExcept_self _ _).bind_of_eq fun status => ?_
  refine (alike_setStatus id status).bind fun restaurant other hrestaurant => ?_
  refine (alike_menu id).bind_of_eq fun items => .value ?_
  exact Envelope.timeless_congr _ _ (restaurantView_congr hrestaurant items)

theorem keepsTime_placeOrder : KeepsTime placeOrder := by
  intro call later
  refine (alike_permit call later _ _).bind_of_eq fun _ => ?_
  refine (alike_identify call later).bind_of_eq fun user => ?_
  refine (alike_ofExcept_self _ _).bind_of_eq fun request => ?_
  refine (alike_ofExcept (request.map_toOrder user.userId call.now later)).bind
    fun draft other hdraft => ?_
  have hid : draft.restaurantId = other.restaurantId := Order.restaurantId_congr hdraft
  rw [hid]
  refine (alike_findRestaurant? _).bind fun first second hfound => ?_
  refine (alike_found _ hfound).bind fun _ _ _ => ?_
  refine (alike_createOrder hdraft).bind fun order another hstored => ?_
  refine .perform rfl (.perform (congrArg Effect.announced hstored) (.value ?_))
  exact Envelope.timeless_congr _ _ (orderView_congr hstored)

theorem keepsTime_listOwnOrders : KeepsTime listOwnOrders := by
  intro call later
  refine (alike_permit call later _ _).bind_of_eq fun _ => ?_
  refine (alike_identify call later).bind_of_eq fun user => ?_
  refine (alike_ordersOfCustomer _).bind fun orders others horders => .value ?_
  exact Envelope.timeless_congr _ _ (ordersView_congr horders)

theorem keepsTime_listRestaurantOrders (part : String) : KeepsTime (listRestaurantOrders part) := by
  intro call later
  refine (alike_ofExcept_self _ _).bind_of_eq fun id => ?_
  refine (alike_admitted call later _ id).bind fun restaurant other hrestaurant => ?_
  have hid : restaurant.id = other.id := Restaurant.id_congr hrestaurant
  rw [hid]
  refine (alike_ordersAtRestaurant _).bind fun orders others horders => .value ?_
  exact Envelope.timeless_congr _ _ (ordersView_congr horders)

theorem keepsTime_envelope {action : Action} {program : Call → Program Envelope}
    (h : action.envelope? = some program) : KeepsTime program := by
  cases action with
  | showHealth => cases h
  | listRestaurants =>
      cases h
      exact keepsTime_listRestaurants
  | registerRestaurant =>
      cases h
      exact keepsTime_registerRestaurant
  | showRestaurant part =>
      cases h
      exact keepsTime_showRestaurant part
  | showMenu part =>
      cases h
      exact keepsTime_showMenu part
  | extendMenu part =>
      cases h
      exact keepsTime_extendMenu part
  | reviseMenuItem part itemPart =>
      cases h
      exact keepsTime_reviseMenuItem part itemPart
  | changeStatus part =>
      cases h
      exact keepsTime_changeStatus part
  | listOwnOrders =>
      cases h
      exact keepsTime_listOwnOrders
  | placeOrder =>
      cases h
      exact keepsTime_placeOrder
  | listRestaurantOrders part =>
      cases h
      exact keepsTime_listRestaurantOrders part

/-! ## Requests -/

theorem keepsTime_programOf (call : Call) (later : Instant) :
    (programOf call).Alike Http.Response.Alike (programOf { call with now := later }) := by
  unfold programOf
  dsimp only
  split
  next => exact .value (.refl _)
  next resource _ =>
    split
    next => exact .value (.refl _)
    next action _ =>
      unfold Action.program
      split
      next => exact .value (Health.answer_alike _ _ _)
      next program hprogram =>
        exact (keepsTime_envelope hprogram call later).bind fun _ _ henvelope =>
          .value (Envelope.response_alike henvelope _ _)

theorem alike_answer (service : Service) (now later : Instant) (request : Http.Request) :
    (service.answer now request).Alike Http.Response.Alike (service.answer later request) := by
  unfold answer
  split
  · exact .value (.refl _)
  · refine Alike.performing ?_ (callerEffects (service.callOf now request))
    refine (keepsTime_programOf (service.callOf now request) later).settle ?_ ?_
    · intro first second hresponse
      exact hresponse.sent request
    · intro problem
      exact (Envelope.response_alike rfl now later).sent request

/-! ## Runs -/

/-- The same request under way at another time. -/
structure Task.Alike (task other : Task) : Prop where
  request : task.request = other.request
  rest : task.rest.Alike Http.Response.Alike other.rest

/-- The response that went out for the request, if one did. -/
def Task.response? (task : Task) : Option Http.Response :=
  match task.rest with
  | .done (.ok response) => some response
  | _ => none

/-- What went out is the same but for time stamps. -/
theorem Task.Alike.rel_response? {task other : Task} (h : task.Alike other) :
    Option.Rel Http.Response.Alike task.response? other.response? := by
  obtain ⟨now, request, rest⟩ := task
  obtain ⟨later, _, remaining⟩ := other
  have hrest := h.rest
  dsimp only at hrest
  cases hrest with
  | value hresponse => exact .some hresponse
  | problem problem => exact .none
  | access _ _ => exact .none
  | perform _ _ => exact .none

/-- The same move, if a request may come in at another time. -/
inductive Move.Alike : Move → Move → Prop
  | arrive (now later : Instant) (request : Http.Request) :
      Alike (.arrive now request) (.arrive later request)
  | turn (index : Nat) : Alike (.turn index) (.turn index)

namespace Pool

/-- The stores, the tasks and what was counted and announced are the same but for times. -/
structure Alike (pool other : Pool) : Prop where
  stores : pool.stores.timeless = other.stores.timeless
  tasks : List.Forall₂ Task.Alike pool.tasks other.tasks
  effects : pool.effects.map Effect.timeless = other.effects.map Effect.timeless

variable {pool other : Pool}

theorem alike_empty : empty.Alike empty :=
  ⟨rfl, .nil, rfl⟩

theorem advance_of_done {index : Nat} {task : Task} {outcome : Except Problem Http.Response}
    (htask : pool.tasks[index]? = some task) (hrest : task.rest = .done outcome) :
    pool.advance index = pool := by
  rw [advance, htask]
  dsimp only
  rw [hrest]

theorem Alike.advance (h : pool.Alike other) (index : Nat) :
    (pool.advance index).Alike (other.advance index) := by
  cases htask : pool.tasks[index]? with
  | none =>
      have hnone : other.tasks[index]? = none := by
        rw [List.getElem?_eq_none_iff, ← h.tasks.length_eq]
        exact List.getElem?_eq_none_iff.1 htask
      rw [Pool.advance, Pool.advance, htask, hnone]
      exact h
  | some task =>
      obtain ⟨second, hsecond, halike⟩ := exists_of_forall₂_getElem? h.tasks htask
      obtain ⟨now, request, rest⟩ := task
      obtain ⟨later, _, remaining⟩ := second
      obtain ⟨hrequest, hrest⟩ := halike
      dsimp only at hrequest hrest
      subst hrequest
      cases hrest with
      | value _ =>
          rw [advance_of_done htask rfl, advance_of_done hsecond rfl]
          exact h
      | problem problem =>
          rw [advance_of_done htask rfl, advance_of_done hsecond rfl]
          exact h
      | access hstep hnext =>
          rw [advance_of_access htask rfl, advance_of_access hsecond rfl]
          exact ⟨Program.stores_run_congr hstep h.stores,
            forall₂_set h.tasks index ⟨rfl, hnext _ _ h.stores⟩, h.effects⟩
      | perform heffect hnext =>
          rw [advance_of_perform htask rfl, advance_of_perform hsecond rfl]
          refine ⟨h.stores, forall₂_set h.tasks index ⟨rfl, hnext⟩, ?_⟩
          dsimp only
          rw [List.map_append, List.map_append, h.effects, List.map_singleton, List.map_singleton,
            heffect]

theorem Alike.step (h : pool.Alike other) (service : Service) {move another : Move}
    (hmove : move.Alike another) :
    (pool.step service move).Alike (other.step service another) := by
  cases hmove with
  | turn index => exact h.advance index
  | arrive now later request =>
      refine ⟨h.stores, ?_, h.effects⟩
      exact List.rel_append h.tasks (.cons ⟨rfl, alike_answer service now later request⟩ .nil)

end Pool

/-- The same requests at other times, in the same turns, come to the same but for the times. -/
theorem alike_after (service : Service) {moves others : List Move}
    (h : List.Forall₂ Move.Alike moves others) :
    (service.after moves).Alike (service.after others) := by
  suffices hfold : ∀ pool other : Pool, pool.Alike other →
      (moves.foldl (Pool.step service) pool).Alike (others.foldl (Pool.step service) other) from
    hfold .empty .empty Pool.alike_empty
  induction h with
  | nil => exact fun _ _ hpools => hpools
  | cons hmove _ ih => exact fun _ _ hpools => ih _ _ (hpools.step service hmove)

end FoodOrdering.Service
