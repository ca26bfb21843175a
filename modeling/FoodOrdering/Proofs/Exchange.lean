import FoodOrdering.Events.Announcement
import FoodOrdering.Events.Broker
import FoodOrdering.Proofs.Events.Broker
import FoodOrdering.Proofs.Events.Listener
import FoodOrdering.Proofs.Events.Notification
import FoodOrdering.Proofs.Service.OrderHistory
import Mathlib.Data.List.Induction
import Mathlib.Data.List.Perm.Basic

/-!
# From orders to notifications

Behind the service stand the tasks that publish the events of its orders, the broker, and a listener
who was subscribed before the first request.  Each of them takes its turn whenever it likes.  Main
statement: once nothing is on its way any more, each order that was answered for has been notified
once, and nothing else has.
-/

namespace FoodOrdering

/-! ## Listening -/

namespace Listener

/-- The events with these keys were notified, and no others are known. -/
def Knows (listener : Listener) (keys : List DeliveryKey) : Prop :=
  ∀ key, listener.contains key = true → key ∈ keys

theorem knows_fresh : fresh.Knows [] := by
  intro key hkey
  cases (contains_fresh key).symm.trans hkey

theorem Knows.push {listener : Listener} {keys : List DeliveryKey} (h : listener.Knows keys)
    (key : DeliveryKey) : Knows (listener.push memory key) (keys ++ [key]) := by
  intro other hother
  rcases Window.contains_of_push hother with hsame | hknown
  · exact List.mem_append_right keys (List.mem_singleton.2 (eq_of_beq hsame).symm)
  · exact List.mem_append_left _ (h other hknown)

/-- An event that is not known yet is notified, and known from then on. -/
theorem handle_payload {listener : Listener} {keys : List DeliveryKey} (h : listener.Knows keys)
    {event : OrderPlaced} (hnew : event.key ∉ keys) :
    listener.handle event.payload =
      { notification := some (Notification.ofEvent event), counters := [.consumed]
        listener := listener.push memory event.key } := by
  have hunknown : listener.contains event.key = false :=
    Bool.eq_false_iff.2 fun hknown => hnew (h event.key hknown)
  rw [handle_of_ok (OrderPlaced.ofPayload_payload event), handleEvent_of_new hunknown]

end Listener

/-! ## Taking turns -/

/-- The service with what stands behind it. -/
structure Exchange where
  pool : Service.Pool
  /-- The orders that were announced and whose events are still to be published. -/
  waiting : List Order
  broker : Broker
  /-- The subscription of the listener. -/
  subscription : Nat
  listener : Listener
  notifications : List Notification
  counters : List EventCounter
  /-- How many records the listener has lost by lagging behind. -/
  lost : Nat

inductive Turn where
  | serve (move : Service.Move)
  /-- One of the events that wait is published. -/
  | publish (index : Nat)
  /-- The listener asks for the next record. -/
  | receive

namespace Exchange

open Service

/-- Before the first request, with a fresh listener subscribed to a topic. -/
def start (capacity : Nat) (topic : String) : Exchange :=
  let (subscription, broker) := (Broker.create capacity).subscribe topic
  { pool := .empty, waiting := [], broker, subscription, listener := .fresh
    notifications := [], counters := [], lost := 0 }

/-- The service makes a move, and what it announces starts to wait. -/
def serve (service : Service) (exchange : Exchange) (move : Move) : Exchange :=
  let pool := exchange.pool.step service move
  { exchange with
    pool
    waiting := exchange.waiting ++
      announcements (pool.effects.drop exchange.pool.effects.length) }

def publish (topic : String) (exchange : Exchange) (index : Nat) : Exchange :=
  match exchange.waiting[index]? with
  | none => exchange
  | some order =>
      let announcement := Announcement.ofOrder topic order
      let (receivers, broker) := exchange.broker.publish announcement.topic announcement.payload
      { exchange with
        waiting := exchange.waiting.eraseIdx index
        broker
        counters := exchange.counters ++ [Announcement.counter topic (.ok receivers)] }

def receive (exchange : Exchange) : Exchange :=
  match exchange.broker.receive exchange.subscription with
  | (some (.record _ payload), broker) =>
      let handled := exchange.listener.handle payload
      { exchange with
        broker
        listener := handled.listener
        notifications := exchange.notifications ++ handled.notification.toList
        counters := exchange.counters ++ handled.counters }
  | (some (.lagged lost), broker) => { exchange with broker, lost := exchange.lost + lost }
  | (_, broker) => { exchange with broker }

def step (service : Service) (topic : String) (exchange : Exchange) : Turn → Exchange
  | .serve move => exchange.serve service move
  | .publish index => exchange.publish topic index
  | .receive => exchange.receive

/-- What has come of some turns, from the first one on. -/
def after (service : Service) (topic : String) (capacity : Nat) (turns : List Turn) : Exchange :=
  turns.foldl (step service topic) (start capacity topic)

/-- What the listener makes of an order. -/
def notificationOf (order : Order) : Notification :=
  .ofEvent (.ofOrder order)

def keyOf (order : Order) : DeliveryKey :=
  (OrderPlaced.ofOrder order).key

/-- These orders were published, and the listener has received the first of them up to a position:
all of these, if nothing was lost. -/
structure Carries (exchange : Exchange) (topic : String) (published : List Order)
    (position : Nat) : Prop where
  announced : (announcements exchange.pool.effects).Perm (published ++ exchange.waiting)
  follows : exchange.broker.Follows exchange.subscription topic
    (published.map fun order => (OrderPlaced.ofOrder order).payload) position
  notified : exchange.lost = 0 →
    exchange.notifications = (published.take position).map notificationOf
  knows : exchange.lost = 0 → exchange.listener.Knows ((published.take position).map keyOf)
  counters : exchange.lost = 0 → ∀ counter ∈ exchange.counters,
    counter ≠ .duplicateDropped ∧ counter ≠ .malformed

variable {service : Service} {topic : String} {capacity : Nat} {exchange : Exchange}
  {published : List Order} {position : Nat}

theorem carries_start (capacity : Nat) (topic : String) :
    (start capacity topic).Carries topic [] 0 where
  announced := .nil
  follows := Broker.follows_create capacity topic
  notified _ := rfl
  knows _ := Listener.knows_fresh
  counters _ := nofun

/-- A move adds to what was counted and announced. -/
theorem exists_effects_step (service : Service) (pool : Pool) (move : Move) :
    ∃ more, (pool.step service move).effects = pool.effects ++ more := by
  cases move with
  | arrive now request => exact ⟨[], (List.append_nil _).symm⟩
  | turn index =>
      show ∃ more, (pool.advance index).effects = pool.effects ++ more
      rcases pool.advance_cases index with hsame | ⟨task, effect, next, _, _, hnext⟩ |
        ⟨task, step, next, _, _, hnext⟩
      · exact ⟨[], by rw [hsame, List.append_nil]⟩
      · exact ⟨[effect], by rw [hnext]⟩
      · exact ⟨[], by rw [hnext, List.append_nil]⟩

/-- What was announced up to a move, and what the move announces. -/
theorem announcements_step (service : Service) (pool : Pool) (move : Move) :
    announcements (pool.step service move).effects =
      announcements pool.effects ++
        announcements ((pool.step service move).effects.drop pool.effects.length) := by
  obtain ⟨more, hmore⟩ := exists_effects_step service pool move
  rw [hmore, List.drop_left, announcements_append]

/-- An entry in front of the others. -/
theorem cons_eraseIdx_perm {α : Type} {xs : List α} {index : Nat} {x : α}
    (h : xs[index]? = some x) : (x :: xs.eraseIdx index).Perm xs := by
  obtain ⟨hindex, rfl⟩ := List.getElem?_eq_some_iff.1 h
  exact List.getElem_cons_eraseIdx_perm hindex

theorem Carries.serve (h : exchange.Carries topic published position) (move : Move) :
    (exchange.serve service move).Carries topic published position := by
  refine ⟨?_, h.follows, h.notified, h.knows, h.counters⟩
  show (announcements (exchange.pool.step service move).effects).Perm
    (published ++ (exchange.waiting ++ announcements
      ((exchange.pool.step service move).effects.drop exchange.pool.effects.length)))
  rw [announcements_step, ← List.append_assoc]
  exact h.announced.append_right _

theorem Carries.publish (h : exchange.Carries topic published position) (index : Nat) :
    ∃ others, (exchange.publish topic index).Carries topic (published ++ others) position := by
  unfold Exchange.publish
  split
  next => exact ⟨[], by rw [List.append_nil]; exact h⟩
  next order horder =>
    have htake : (published ++ [order]).take position = published.take position := by
      have hle := h.follows.position_le
      rw [List.length_map] at hle
      exact List.take_append_of_le_length hle
    refine ⟨[order], ?_, ?_, ?_, ?_, ?_⟩
    · dsimp only
      rw [List.append_assoc]
      exact h.announced.trans ((cons_eraseIdx_perm horder).symm.append_left published)
    · rw [List.map_append]
      exact h.follows.publish _
    · rw [htake]
      exact h.notified
    · rw [htake]
      exact h.knows
    · intro hlost counter hcounter
      rcases List.mem_append.1 hcounter with hold | hnew
      · exact h.counters hlost counter hold
      · cases List.mem_singleton.1 hnew
        exact ⟨nofun, nofun⟩

/-- An order that was published once has a key of its own among those published before it. -/
theorem Carries.key_notMem (h : exchange.Carries topic published position)
    (hdistinct : ((announcements exchange.pool.effects).map Order.id).Nodup)
    (hlt : position < published.length) :
    keyOf published[position] ∉ (published.take position).map keyOf := by
  have hids : ((published ++ exchange.waiting).map Order.id).Nodup :=
    ((h.announced.map Order.id).nodup_iff).1 hdistinct
  rw [List.map_append] at hids
  have hpublished := (List.nodup_append.1 hids).1
  have htaken : ((published.take position ++ [published[position]]).map Order.id).Nodup := by
    rw [List.take_append_getElem hlt]
    exact hpublished.sublist ((List.take_sublist _ published).map Order.id)
  rw [List.map_append, List.map_singleton] at htaken
  intro hkey
  obtain ⟨earlier, hearlier, hsame⟩ := List.mem_map.1 hkey
  have hid : earlier.id = published[position].id := congrArg Prod.fst hsame
  exact (List.nodup_append.1 htaken).2.2 _ (List.mem_map_of_mem hearlier) _
    List.mem_cons_self hid

/-- The listener has never heard of the order whose event it receives, since every order was
announced once. -/
theorem Carries.receive (h : exchange.Carries topic published position)
    (hdistinct : ((announcements exchange.pool.effects).map Order.id).Nodup) :
    ∃ next, exchange.receive.Carries topic published next := by
  obtain ⟨delivery, hdelivery, hcases⟩ := h.follows.receive
  have hpair : exchange.broker.receive exchange.subscription =
      (some delivery, (exchange.broker.receive exchange.subscription).2) :=
    Prod.ext hdelivery rfl
  generalize (exchange.broker.receive exchange.subscription).2 = broker at hpair hcases
  unfold Exchange.receive
  rw [hpair]
  obtain ⟨_, rfl | rfl, hfollows⟩ | ⟨hlt, rfl, hfollows⟩ | ⟨lost, hpositive, rfl, hfollows⟩ :=
    hcases
  · exact ⟨position, h.announced, hfollows, h.notified, h.knows, h.counters⟩
  · exact ⟨position, h.announced, hfollows, h.notified, h.knows, h.counters⟩
  · rw [List.length_map] at hlt
    have htake := List.take_append_getElem hlt
    have hnew := h.key_notMem hdistinct hlt
    have hhandle : exchange.lost = 0 → exchange.listener.handle
        (OrderPlaced.ofOrder published[position]).payload =
          { notification := some (notificationOf published[position]), counters := [.consumed]
            listener := exchange.listener.push Listener.memory (keyOf published[position]) } :=
      fun hlost => Listener.handle_payload (h.knows hlost) hnew
    rw [List.getElem_map]
    refine ⟨position + 1, h.announced, hfollows, ?_, ?_, ?_⟩
    · intro hlost
      dsimp only at hlost ⊢
      rw [hhandle hlost, h.notified hlost, ← htake, List.map_append]
      rfl
    · intro hlost
      dsimp only at hlost ⊢
      rw [hhandle hlost, ← htake, List.map_append]
      exact (h.knows hlost).push _
    · intro hlost counter hcounter
      dsimp only at hlost hcounter
      rw [hhandle hlost] at hcounter
      rcases List.mem_append.1 hcounter with hold | hconsumed
      · exact h.counters hlost counter hold
      · cases List.mem_singleton.1 hconsumed
        exact ⟨nofun, nofun⟩
  · -- A listener that has lost records is not asked what it has heard.
    have hlost : ¬ exchange.lost + lost = 0 := by omega
    exact ⟨position + lost, h.announced, hfollows, fun hzero => absurd hzero hlost,
      fun hzero => absurd hzero hlost, fun hzero => absurd hzero hlost⟩

/-! ## Runs -/

theorem after_concat (turns : List Turn) (turn : Turn) :
    after service topic capacity (turns ++ [turn]) =
      step service topic (after service topic capacity turns) turn :=
  List.foldl_concat ..

/-- The pool goes its way as if nothing stood behind it. -/
theorem exists_moves (service : Service) (topic : String) (capacity : Nat) (turns : List Turn) :
    ∃ moves, (after service topic capacity turns).pool = service.after moves := by
  induction turns using List.reverseRecOn with
  | nil => exact ⟨[], rfl⟩
  | append_singleton turns turn ih =>
      obtain ⟨moves, hmoves⟩ := ih
      rw [after_concat]
      cases turn with
      | serve move =>
          refine ⟨moves ++ [move], ?_⟩
          rw [Service.after_append, ← hmoves]
          rfl
      | publish index =>
          refine ⟨moves, ?_⟩
          show (Exchange.publish topic _ index).pool = _
          unfold Exchange.publish
          split
          · exact hmoves
          · exact hmoves
      | receive =>
          refine ⟨moves, ?_⟩
          show (Exchange.receive _).pool = _
          unfold Exchange.receive
          split
          · exact hmoves
          · exact hmoves
          · exact hmoves

theorem inserts_le_step (exchange : Exchange) (turn : Turn) :
    exchange.pool.inserts ≤ (exchange.step service topic turn).pool.inserts := by
  cases turn with
  | serve move => exact Pool.inserts_le_step service exchange.pool move
  | publish index =>
      show _ ≤ (exchange.publish topic index).pool.inserts
      unfold Exchange.publish
      split
      · exact Nat.le_refl _
      · exact Nat.le_refl _
  | receive =>
      show _ ≤ exchange.receive.pool.inserts
      unfold Exchange.receive
      split
      · exact Nat.le_refl _
      · exact Nat.le_refl _
      · exact Nat.le_refl _

theorem exists_carries (service : Service) (topic : String) (capacity : Nat) (turns : List Turn)
    (hroom : (after service topic capacity turns).pool.inserts < idLimit) :
    ∃ published position,
      (after service topic capacity turns).Carries topic published position := by
  induction turns using List.reverseRecOn with
  | nil => exact ⟨[], 0, carries_start capacity topic⟩
  | append_singleton turns turn ih =>
      rw [after_concat] at hroom ⊢
      have hbefore := Nat.lt_of_le_of_lt (inserts_le_step _ turn) hroom
      obtain ⟨published, position, hcarries⟩ := ih hbefore
      cases turn with
      | serve move => exact ⟨published, position, hcarries.serve move⟩
      | publish index =>
          obtain ⟨others, hnext⟩ := hcarries.publish index
          exact ⟨published ++ others, position, hnext⟩
      | receive =>
          obtain ⟨moves, hmoves⟩ := exists_moves service topic capacity turns
          obtain ⟨stages, hstaged⟩ := staged_after service moves
          rw [hmoves] at hbefore
          have hdistinct := (recorded_after service moves hbefore).nodup_announced hstaged
          rw [← hmoves] at hdistinct
          obtain ⟨next, hnext⟩ := hcarries.receive hdistinct
          exact ⟨published, next, hnext⟩

/-- Nothing is on its way: every event that was announced has been published, and the listener has
received all there is for it and never lost any. -/
structure Settled (exchange : Exchange) : Prop where
  waiting : exchange.waiting = []
  pending : exchange.broker.pending exchange.subscription = 0
  lost : exchange.lost = 0

/-- The requests to place an order that were answered with 201 show these orders, one each.  They
lie in the store under ids of their own and are pending, and each of them has been notified once:
nothing else was, nothing was taken for a repetition, and no record was no event. -/
structure NotifiedOnce (exchange : Exchange) (orders : List Order) : Prop where
  answered : List.Forall₂ Task.Shows (exchange.pool.tasks.filter Task.hasPlaced) orders
  distinct : (orders.map Order.id).Nodup
  stored : ∀ order ∈ orders, order ∈ exchange.pool.stores.orders.orders.values
  pending : ∀ order ∈ orders, order.status = .pending
  notified : exchange.notifications.Perm (orders.map notificationOf)
  clean : ∀ counter ∈ exchange.counters, counter ≠ .duplicateDropped ∧ counter ≠ .malformed

/-- Each order that was answered for has been notified once, whatever was asked by whom, however
the requests fell between one another, and in whatever order their events were published. -/
theorem each_order_is_notified_once (service : Service) (topic : String) (capacity : Nat)
    (turns : List Turn) (hroom : (after service topic capacity turns).pool.inserts < idLimit)
    (hsettled : (after service topic capacity turns).Settled) :
    ∃ orders, (after service topic capacity turns).NotifiedOnce orders := by
  obtain ⟨published, position, hcarries⟩ := exists_carries service topic capacity turns hroom
  obtain ⟨moves, hmoves⟩ := exists_moves service topic capacity turns
  obtain ⟨stages, hstaged⟩ := staged_after service moves
  rw [hmoves] at hroom
  have hrecorded := recorded_after service moves hroom
  rw [← hmoves] at hstaged hrecorded
  have hannounced := hcarries.announced
  rw [hsettled.waiting, List.append_nil] at hannounced
  have hall : published.take position = published := by
    have hrest := hcarries.follows.pending_eq
    rw [hsettled.pending, List.length_map] at hrest
    exact List.take_of_length_le (by omega)
  have hnotified := hcarries.notified hsettled.lost
  rw [hall] at hnotified
  have hstored := fun order (horder : order ∈ stages.filterMap Stage.told?) =>
    hrecorded.of_announced hstaged (hstaged.told.symm.subset horder)
  exact ⟨stages.filterMap Stage.told?, {
    answered := shows_of_at hstaged.tasks
    distinct := ((hstaged.told.map Order.id).nodup_iff).1 (hrecorded.nodup_announced hstaged)
    stored := fun order horder => (hstored order horder).1
    pending := fun order horder => (hstored order horder).2
    notified := by
      rw [hnotified]
      exact (hannounced.symm.trans hstaged.told).map notificationOf
    clean := hcarries.counters hsettled.lost }⟩

end Exchange

/-! ## A run

A restaurant is registered, and a dinner is ordered there.  Proofs do not evaluate doubles, so that
the price is taken to pass and to fail in turn. -/

namespace Exchange.Dinner

open Service

def service : FoodOrdering.Service :=
  { zone := .privateNetwork }

def request (user role path body : String) : Http.Request :=
  { method := "POST", target := ⟨path, none⟩, body := body.toUTF8
    peer := some (.v4 ⟨10, 0, 0, 7⟩)
    headers := .ofList [("X-User-Id", Text.utf8 user), ("X-User-Role", Text.utf8 role),
      ("Content-Type", Text.utf8 "application/json")] }

def registration : Http.Request :=
  request "7" "OWNER" "/api/restaurants" "[\"Vito\",\"Pizza\",\"Rome\",null,null,null]"

def ordering : Http.Request :=
  request "9" "CUSTOMER" "/api/orders" "[1,[[\"Pizza\",2,9]]]"

def now : Instant := .ofSeconds 1

def price : Float := .ofNat 9

def earlier : List Turn :=
  [.serve (.arrive (.ofSeconds 0) registration), .serve (.turn 0)]

def later : List Turn :=
  [.serve (.turn 1), .serve (.turn 1), .serve (.turn 1), .serve (.turn 1), .publish 0, .receive]

def turns : List Turn :=
  earlier ++ .serve (.arrive now ordering) :: later

def asked : OrderRequest :=
  { restaurantId := some 1
    items := some [{ name := some "Pizza", quantity := some 2, price := some price }] }

theorem readBody_ordering : readBody OrderRequest.reader ordering = .ok asked := by
  with_unfolding_all rfl

/-- What the judgement of a price comes to in an order. -/
def outcomeOf : Option String → Except Problem Order
  | none => .ok (.pending 9 1 [{ name := "Pizza", quantity := 2, price }] now)
  | some fault => .error (.invalid (FieldErrors.empty.add "items[0].price" fault))

theorem toOrder_asked :
    asked.toOrder 9 now = outcomeOf (OrderRequest.priceFault? (some price)) := by
  unfold OrderRequest.toOrder OrderRequest.judge
  dsimp only [asked]
  unfold OrderRequest.judgeItems OrderRequest.judgeItems OrderRequest.Item.judge
  dsimp only
  generalize OrderRequest.priceFault? (some price) = fault?
  cases fault? with
  | none => with_unfolding_all rfl
  | some fault => with_unfolding_all rfl

/-- What is done about the order once it has been judged. -/
def placing (outcome : Except Problem Order) : Program Envelope := do
  let draft ← Program.ofExcept (fun problem => problem) outcome
  let _ ← Program.found draft.restaurantId (← Program.findRestaurant? draft.restaurantId)
  let order ← Program.createOrder draft
  Program.count .orderCommitted
  Program.announce order
  return .created "Order placed successfully" (orderView order)

/-- The same up to what goes out. -/
def answering (outcome : Except Problem Order) : Program Http.Response :=
  (placing outcome >>= fun envelope => .done (.ok (envelope.response now))).settle fun outcome =>
    sent ordering (Http.CrossOrigin.opened (outcomeResponse now outcome))

theorem answer_ordering :
    service.answer now ordering =
      answering (outcomeOf (OrderRequest.priceFault? (some price))) := by
  let call := service.callOf now ordering
  obtain ⟨user, hcaller, huser⟩ : ∃ user, call.caller = some user ∧ user.userId = 9 := by
    have hsome : call.caller.isSome = true := by decide +kernel
    have huser : call.caller.map Identity.userId = some 9 := by decide +kernel
    obtain ⟨user, hcaller⟩ := Option.isSome_iff_exists.1 hsome
    rw [hcaller] at huser
    exact ⟨user, hcaller, Option.some.inj huser⟩
  have hpermit : Program.permit call .placeOrder none = .done (.ok ()) := by
    have hauthorized : (authorize call.caller .placeOrder none).isOk = true := by decide +kernel
    unfold Program.permit
    match authorize call.caller .placeOrder none, hauthorized with
    | .ok (), _ => rfl
  have hplace : placeOrder call = placing (asked.toOrder 9 now) := by
    unfold placeOrder Program.identify
    rw [hpermit, hcaller]
    show (Program.ofExcept .body (readBody OrderRequest.reader ordering) >>= fun request =>
      placing (request.toOrder user.userId now)) = _
    rw [readBody_ordering, huser]
    rfl
  have hprogram : programOf call =
      (placeOrder call >>= fun envelope => .done (.ok (envelope.response now))) := by
    have hresource : Resource.ofPath? call.request.target.path = some .orders := by decide +kernel
    unfold programOf
    rw [hresource]
    rfl
  have hcounted : callerEffects call = [] := by
    unfold callerEffects
    rw [hcaller]
    rfl
  unfold Service.answer
  rw [if_neg (by decide)]
  show Program.performing (callerEffects call) ((programOf call).settle _) = _
  rw [hcounted, hprogram, hplace, toOrder_asked]
  rfl

/-- An exchange at which a request has just arrived. -/
def joined (exchange : Exchange) (task : Task) : Exchange :=
  { exchange with pool := { exchange.pool with tasks := exchange.pool.tasks ++ [task] } }

theorem after_turns (topic : String) (capacity : Nat) :
    after service topic capacity turns =
      later.foldl (step service topic) (joined (after service topic capacity earlier)
        { now, request := ordering
          rest := answering (outcomeOf (OrderRequest.priceFault? (some price))) }) := by
  unfold after turns
  rw [List.foldl_append, List.foldl_cons]
  congr 1
  show Exchange.serve _ _ _ = _
  unfold Exchange.serve Pool.step joined
  dsimp only
  rw [List.drop_length, answer_ordering]
  simp [announcements]

theorem priceFault?_price :
    OrderRequest.priceFault? (some price) = none ∨
      OrderRequest.priceFault? (some price) = some "must be greater than or equal to 0" := by
  unfold OrderRequest.priceFault?
  dsimp only
  split
  · exact .inl rfl
  · exact .inr rfl

/-- Whether the order is placed or refused, the run comes to its end. -/
theorem settled_turns : (after service "orders" 4 turns).pool.inserts < idLimit ∧
    (after service "orders" 4 turns).Settled := by
  rw [after_turns]
  suffices h : ∀ exchange : Exchange, exchange.pool.inserts < idLimit ∧
      exchange.waiting.isEmpty = true ∧ exchange.broker.pending exchange.subscription = 0 ∧
      exchange.lost = 0 → exchange.pool.inserts < idLimit ∧ exchange.Settled from by
    apply h
    rcases priceFault?_price with hprice | hprice
    · rw [hprice]
      decide +kernel
    · rw [hprice]
      decide +kernel
  exact fun exchange ⟨hroom, hwaiting, hpending, hlost⟩ =>
    ⟨hroom, List.isEmpty_iff.1 hwaiting, hpending, hlost⟩

theorem dinner_is_notified_once :
    (after service "orders" 4 turns).pool.inserts < idLimit ∧
    (after service "orders" 4 turns).Settled ∧
    ∃ orders, (after service "orders" 4 turns).NotifiedOnce orders :=
  ⟨settled_turns.1, settled_turns.2,
    each_order_is_notified_once service "orders" 4 turns settled_turns.1 settled_turns.2⟩

end Exchange.Dinner

end FoodOrdering
