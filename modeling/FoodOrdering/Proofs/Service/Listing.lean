import FoodOrdering.Proofs.Exchange
import FoodOrdering.Proofs.Service.Authority
import FoodOrdering.Proofs.Service.Commits
import FoodOrdering.Proofs.Service.Reply
import FoodOrdering.Proofs.Store.WellFormed

/-!
# Lists of orders

Whoever lists orders reads the store once.  The list shows the orders that had been committed by
then, in the order of their commits, and each of them as whoever placed it was shown it.  Main
statement: over every run the answers to placing and to listing tell one history of orders.
-/

namespace FoodOrdering.Service

variable {service : Service} {now : Instant} {request : Http.Request} {identity : Identity}

/-! ## What readers do -/

theorem action?_of_isReading (h : request.IsReading) (resource : Resource) :
    resource.action? request.method = resource.reading? :=
  if_pos h

theorem ne_question_of_isReading (h : request.IsReading) :
    request.method ≠ Http.CrossOrigin.question := by
  rcases h with hget | hhead
  · rw [hget]
    decide
  · rw [hhead]
    decide

theorem callerEffects_of_some {call : Call} (h : call.caller = some identity) :
    callerEffects call = [] := by
  rw [callerEffects, h]
  rfl

theorem permit_eq_done {call : Call} {operation : Operation} {owner : Option Int64}
    (h : authorize call.caller operation owner = .ok ()) :
    Program.permit call operation owner = .done (.ok ()) := by
  rw [Program.permit, h]

/-- A customer who lists their orders reads the store once. -/
theorem answer_listOwnOrders (hreading : request.IsReading)
    (hpath : Resource.ofPath? request.target.path = some .orders)
    (hcaller : (service.callOf now request).caller = some identity)
    (hcustomer : identity.hasRole .customer = true) :
    service.answer now request =
      .access (.ordersOfCustomer identity.userId) fun orders =>
        .done (.ok (reply now request (.ok "Customer orders retrieved" (ordersView orders)))) := by
  have hpermit : authorize (service.callOf now request).caller .listOwnOrders none = .ok () := by
    refine authorize_eq_ok_iff.2 (.inr ⟨identity, hcaller, ?_, nofun⟩)
    exact List.any_eq_true.2 ⟨.customer, List.mem_singleton_self _, hcustomer⟩
  have hidentify : Program.identify (service.callOf now request) = .done (.ok identity) := by
    rw [Program.identify, hcaller]
  rw [service.answer_eq_of_action now (ne_question_of_isReading hreading) hpath
    (action?_of_isReading hreading _) rfl, callerEffects_of_some hcaller]
  unfold listOwnOrders
  rw [permit_eq_done hpermit, hidentify]
  rfl

/-- Whoever manages a restaurant that is there may list its orders. -/
theorem authorize_listRestaurantOrders {stores : Stores} {id : Int64} {restaurant : Restaurant}
    (hmanages : identity.Manages stores id)
    (hfound : stores.restaurants.find? id = some restaurant) :
    authorize (some identity) .listRestaurantOrders (some restaurant.ownerId) = .ok () := by
  refine authorize_eq_ok_iff.2 (.inr ⟨identity, rfl, ?_, fun _ => ?_⟩)
  · rcases hmanages with hadmin | ⟨howner, _⟩
    · exact List.any_eq_true.2 ⟨.admin, by simp [Operation.roles], hadmin⟩
    · exact List.any_eq_true.2 ⟨.owner, by simp [Operation.roles], howner⟩
  · rcases hmanages with hadmin | ⟨_, other, hother, hsame⟩
    · exact Or.inl hadmin
    · cases hfound.symm.trans hother
      exact Or.inr (congrArg some hsame)

/-- Whoever lists the orders of a restaurant looks it up, and once they are admitted they read the
orders that were placed there. -/
theorem answer_listRestaurantOrders {part : String} {id : Int64} (hreading : request.IsReading)
    (hpath : Resource.ofPath? request.target.path = some (.restaurantOrders part))
    (hid : pathId part = .ok id)
    (hcaller : (service.callOf now request).caller = some identity) :
    ∃ next : Option Restaurant → Program Http.Response,
      service.answer now request = .access (.findRestaurant id) next ∧
      ∀ restaurant,
        authorize (some identity) .listRestaurantOrders (some restaurant.ownerId) = .ok () →
          next (some restaurant) = .access (.ordersAtRestaurant restaurant.id) fun orders =>
            .done (.ok (reply now request
              (.ok "Orders for restaurant retrieved" (ordersView orders)))) := by
  rw [service.answer_eq_of_action now (ne_question_of_isReading hreading) hpath
    (action?_of_isReading hreading _) rfl, callerEffects_of_some hcaller]
  have hread : Program.readId part = .done (.ok id) := by
    rw [Program.readId, hid]
    rfl
  unfold listRestaurantOrders
  rw [hread]
  refine ⟨_, rfl, ?_⟩
  intro restaurant hpermit
  have hadmitted : Program.permit (service.callOf now request) .listRestaurantOrders
      (some restaurant.ownerId) = .done (.ok ()) := permit_eq_done (by rwa [hcaller])
  show ((Program.permit (service.callOf now request) .listRestaurantOrders
    (some restaurant.ownerId) >>= fun _ => Program.found id (some restaurant)) >>= _).settle _ = _
  rw [hadmitted]
  rfl

/-! ## What they are answered -/

/-- The request was answered with this envelope. -/
def Task.IsAnswered (task : Task) (envelope : Envelope) : Prop :=
  task.rest = .done (.ok (reply task.now task.request envelope))

theorem Task.IsAnswered.status?_eq {task : Task} {envelope : Envelope}
    (h : task.IsAnswered envelope) : task.status? = some envelope.status := by
  rw [Task.status?, h]
  exact congrArg some status_reply

/-- The wanted ones of the orders that were committed by the visits of a journal. -/
def committed (journal : List (Nat × Visit)) (wanted : Order → Bool) : List Order :=
  ((commits journal).map Prod.snd).filter wanted

/-- After some accesses a task made a last one, and was answered with the wanted ones of all orders
that had been committed before that; their ids ascend. -/
def Lists (journal : List (Nat × Visit)) (index : Nat) (task : Task) (earlier : List Access)
    (last : Access) (message : String) (wanted : Order → Bool) : Prop :=
  ∃ before visit after, journal = before ++ (index, visit) :: after ∧ visit.access = last ∧
    (visitsOf index before).map Visit.access = earlier ∧ visitsOf index after = [] ∧
    task.IsAnswered (.ok message (ordersView (committed before wanted))) ∧
    ((committed before wanted).map fun order => order.id.toInt).Pairwise (· < ·)

variable {moves : List Move}

/-- At a visit the store held the orders that had been committed before it. -/
theorem values_of_journal {before after : List (Nat × Visit)} {entry : Nat × Visit}
    (h : service.journal moves = before ++ entry :: after)
    (hroom : (service.after moves).inserts < idLimit) :
    entry.2.stores.orders.orders.values = (commits before).map Prod.snd := by
  obtain ⟨earlier, later, rfl, rfl, hstores⟩ := exists_earlier_of_journal h
  have hearlier := Nat.lt_of_le_of_lt (inserts_after_le service earlier _) hroom
  rw [← hstores, (service.recorded_after earlier hearlier).holds.values_eq, commits_journal]

/-- At a visit the records lay under their ids. -/
theorem numbered_of_journal {before after : List (Nat × Visit)} {entry : Nat × Visit}
    (h : service.journal moves = before ++ entry :: after)
    (hroom : (service.after moves).inserts < idLimit) : entry.2.stores.Numbered := by
  obtain ⟨earlier, later, rfl, _, hstores⟩ := exists_earlier_of_journal h
  have hearlier := Nat.lt_of_le_of_lt (inserts_after_le service earlier _) hroom
  rw [← hstores]
  exact (guarded_after service earlier hearlier).numbered

/-- The ids of orders ascend in the order of their commits. -/
theorem ascending_committed {before after : List (Nat × Visit)}
    (h : service.journal moves = before ++ after)
    (hroom : (service.after moves).inserts < idLimit) (wanted : Order → Bool) :
    ((committed before wanted).map fun order => order.id.toInt).Pairwise (· < ·) := by
  have hids := (service.recorded_after moves hroom).holds.ids
  have hall : ((Change.orders (service.after moves).history).map fun order =>
      order.id.toInt).Pairwise (· < ·) := by
    rw [hids, List.pairwise_map]
    exact List.pairwise_lt_range.imp fun hlt => by omega
  rw [← commits_journal, h, commits_append, List.map_append] at hall
  have hsublist : (committed before wanted).Sublist
      ((commits before).map Prod.snd ++ (commits after).map Prod.snd) :=
    List.filter_sublist.trans (List.sublist_append_left _ _)
  exact hall.sublist (hsublist.map _)

/-- A task that ends with reading a list from the store shows what was committed before. -/
theorem lists_of_reads {index : Nat} {task : Task} {access : Access} {message : String}
    (earlier : List Visit) {stores : Stores} {orders : List Order} {wanted : Order → Bool}
    (hroom : (service.after moves).inserts < idLimit)
    (hvisits : visitsOf index (service.journal moves) = earlier ++ [⟨access, stores⟩])
    (horders : orders = stores.orders.orders.values.filter wanted)
    (hanswered : task.IsAnswered (.ok message (ordersView orders))) :
    Lists (service.journal moves) index task (earlier.map Visit.access) access message wanted := by
  obtain ⟨before, after, hjournal, hbefore, hafter⟩ := exists_of_visitsOf_eq_append hvisits
  have hcommitted : orders = committed before wanted := by
    rw [horders, committed, ← values_of_journal hjournal hroom]
  rw [hcommitted] at hanswered
  refine ⟨before, _, after, hjournal, rfl, ?_, hafter, hanswered,
    ascending_committed hjournal hroom wanted⟩
  rw [hbefore]

/-- Whoever asked for the orders of a customer is shown all that were committed before they read
the store. -/
theorem lists_own_orders {index : Nat} {task : Task} {outcome : Except Problem Http.Response}
    (hroom : (service.after moves).inserts < idLimit)
    (htask : (service.after moves).tasks[index]? = some task)
    (hreading : task.request.IsReading)
    (hpath : Resource.ofPath? task.request.target.path = some .orders)
    (hcaller : task.caller service = some identity) (hcustomer : identity.hasRole .customer = true)
    (hdone : task.rest = .done outcome) :
    Lists (service.journal moves) index task [] (.ordersOfCustomer identity.userId)
      "Customer orders retrieved" fun order => order.customerId == identity.userId := by
  have hreaches := reaches_after moves htask
  rw [answer_listOwnOrders hreading hpath hcaller hcustomer, hdone] at hreaches
  obtain ⟨stores, others, hvisits, hrest⟩ := hreaches.of_access_done
  obtain ⟨rfl, hreply⟩ := hrest.of_done
  exact lists_of_reads [] hroom hvisits rfl (hdone.trans hreply)

/-- Whoever asked for the orders of a restaurant has looked it up, and if it was there and they
manage it they are shown all that were committed before they read the store. -/
theorem lists_restaurant_orders {index : Nat} {task : Task} {part : String} {id : Int64}
    {outcome : Except Problem Http.Response} (hroom : (service.after moves).inserts < idLimit)
    (htask : (service.after moves).tasks[index]? = some task)
    (hreading : task.request.IsReading)
    (hpath : Resource.ofPath? task.request.target.path = some (.restaurantOrders part))
    (hid : pathId part = .ok id) (hcaller : task.caller service = some identity)
    (hdone : task.rest = .done outcome) :
    ∃ seen,
      (visitsOf index (service.journal moves)).head? =
        some { access := .findRestaurant id, stores := seen } ∧
      (seen.HasRestaurant id → identity.Manages seen id →
        Lists (service.journal moves) index task [.findRestaurant id] (.ordersAtRestaurant id)
          "Orders for restaurant retrieved" fun order => order.restaurantId == id) := by
  obtain ⟨next, hanswer, hnext⟩ := answer_listRestaurantOrders hreading hpath hid hcaller
  have hreaches := reaches_after moves htask
  rw [hanswer, hdone] at hreaches
  obtain ⟨seen, others, hvisits, hrest⟩ := hreaches.of_access_done
  refine ⟨seen, by rw [hvisits]; rfl, ?_⟩
  rintro ⟨restaurant, hfound⟩ hmanages
  have hfirst : visitsOf index (service.journal moves) =
      [] ++ ⟨.findRestaurant id, seen⟩ :: others := hvisits
  obtain ⟨before, after, hjournal, _⟩ := exists_of_visitsOf_eq_append hfirst
  obtain ⟨rfl, _, _⟩ := (numbered_of_journal hjournal hroom).restaurants id restaurant hfound
  have hlookup : ((Access.findRestaurant restaurant.id).run seen).1 = some restaurant := hfound
  rw [hlookup, hnext restaurant (authorize_listRestaurantOrders hmanages hfound)] at hrest
  obtain ⟨stores, last, rfl, hlast⟩ := hrest.of_access_done
  obtain ⟨rfl, hreply⟩ := hlast.of_done
  exact lists_of_reads [⟨.findRestaurant restaurant.id, seen⟩] hroom hvisits rfl
    (hdone.trans hreply)

/-! ## One history -/

/-- All that is answered about orders tells one history of them. -/
structure TellsOneHistory (service : Service) (moves : List Move) : Prop where
  /-- In the order of their commits the orders have the ids one, two, three and so on. -/
  ids : (commits (service.journal moves)).map (fun commit => commit.2.id.toInt) =
    (List.range (commits (service.journal moves)).length).map fun count : Nat => (count : Int) + 1
  /-- No request commits twice. -/
  once : ((commits (service.journal moves)).map Prod.fst).Nodup
  /-- An order was committed for a request to place one, which is answered with 201 and shown this
  order once it is answered at all. -/
  shown : ∀ index order, (index, order) ∈ commits (service.journal moves) →
    ∃ task, (service.after moves).tasks[index]? = some task ∧ IsPlacing task.request ∧
      ∀ outcome, task.rest = .done outcome → task.hasPlaced = true ∧
        task.IsAnswered (.created "Order placed successfully" (orderView order))
  /-- A request to place an order that was answered with 201 has committed the one it is shown. -/
  placed : ∀ index task, (service.after moves).tasks[index]? = some task → task.hasPlaced = true →
    ∃ order, (index, order) ∈ commits (service.journal moves) ∧
      task.IsAnswered (.created "Order placed successfully" (orderView order))
  /-- A customer is shown the orders of theirs that were committed before the store was read. -/
  ofCustomer : ∀ index task identity outcome, (service.after moves).tasks[index]? = some task →
    task.request.IsReading → Resource.ofPath? task.request.target.path = some .orders →
    task.caller service = some identity → identity.hasRole .customer = true →
    task.rest = .done outcome →
    Lists (service.journal moves) index task [] (.ordersOfCustomer identity.userId)
      "Customer orders retrieved" fun order => order.customerId == identity.userId
  /-- Whoever manages the restaurant, as it is when it is looked up, is shown the orders at the
  restaurant that were committed before the store was read. -/
  atRestaurant : ∀ index task part id identity outcome,
    (service.after moves).tasks[index]? = some task → task.request.IsReading →
    Resource.ofPath? task.request.target.path = some (.restaurantOrders part) →
    pathId part = .ok id → task.caller service = some identity → task.rest = .done outcome →
    ∃ seen,
      (visitsOf index (service.journal moves)).head? =
        some { access := .findRestaurant id, stores := seen } ∧
      (seen.HasRestaurant id → identity.Manages seen id →
        Lists (service.journal moves) index task [.findRestaurant id] (.ordersAtRestaurant id)
          "Orders for restaurant retrieved" fun order => order.restaurantId == id)

/-- Whatever is asked by whom, and however the requests fall between one another, what is answered
to placing orders and to listing them tells one history. -/
theorem order_history_is_exact (service : Service) (moves : List Move)
    (hroom : (service.after moves).inserts < idLimit) : TellsOneHistory service moves where
  ids := ids_commits moves hroom
  once := nodup_map_fst_commits service moves
  shown index order hcommit := by
    obtain ⟨task, htask, hplacing, hshows⟩ := exists_task_of_mem_commits hcommit
    refine ⟨task, htask, hplacing, fun outcome hdone => ?_⟩
    have hanswered : task.IsAnswered (.created "Order placed successfully" (orderView order)) :=
      hshows outcome hdone
    exact ⟨decide_eq_true ⟨hplacing, hanswered.status?_eq⟩, hanswered⟩
  placed index task htask hplaced := exists_commit_of_hasPlaced htask hplaced
  ofCustomer _ _ _ _ htask hreading hpath hcaller hcustomer hdone :=
    lists_own_orders hroom htask hreading hpath hcaller hcustomer hdone
  atRestaurant _ _ _ _ _ _ htask hreading hpath hid hcaller hdone :=
    lists_restaurant_orders hroom htask hreading hpath hid hcaller hdone

open Exchange in
/-- The dinner is ordered while its customer lists their orders, and its price is taken to pass and
to fail in turn. -/
theorem dinner_is_listed :
    let listing : Http.Request :=
      { Dinner.ordering with method := "GET" }
    let earlier : List Move :=
      [.arrive (.ofSeconds 0) Dinner.registration, .turn 0, .arrive (.ofSeconds 2) listing]
    let later : List Move := [.turn 2, .turn 2, .turn 1, .turn 2, .turn 2]
    let moves := earlier ++ .arrive Dinner.now Dinner.ordering :: later
    ((commits (Dinner.service.journal moves)).map fun commit => (commit.1, commit.2.id)) ∈
        [[(2, 1)], []] ∧
      (Dinner.service.after moves).inserts < idLimit ∧
      TellsOneHistory Dinner.service moves := by
  intro listing earlier later moves
  have hroom : (Dinner.service.after moves).inserts < idLimit :=
    Nat.lt_of_le_of_lt (inserts_le_length Dinner.service moves) (by decide)
  refine ⟨?_, hroom, order_history_is_exact Dinner.service moves hroom⟩
  have hjournal : Dinner.service.journal moves =
      Dinner.service.journal earlier ++
        Pool.journal Dinner.service
          { Dinner.service.after earlier with
            tasks := (Dinner.service.after earlier).tasks ++
              [{ now := Dinner.now, request := Dinner.ordering
                 rest := Dinner.answering
                  (Dinner.outcomeOf (OrderRequest.priceFault? (some Dinner.price))) }] } later := by
    rw [← Dinner.answer_ordering]
    exact Pool.journal_append Dinner.service earlier _ .empty
  rw [hjournal]
  rcases Dinner.priceFault?_price with hprice | hprice
  · rw [hprice]
    decide +kernel
  · rw [hprice]
    decide +kernel

end FoodOrdering.Service
