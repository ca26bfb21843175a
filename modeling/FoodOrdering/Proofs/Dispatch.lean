import FoodOrdering.Proofs.Exchange
import FoodOrdering.Proofs.Service.Clock
import FoodOrdering.Proofs.Service.Commits

/-!
# Dispatch to a publisher

Behind the service stand background tasks, one for each order that was announced.  Each of them makes
one attempt to publish, and the publisher answers it, refuses it or never comes back to it.  Main
statements: what the service does and answers has nothing to do with the publisher, and the attempts
are those for the orders that were committed.
-/

namespace FoodOrdering

/-- The service with its background tasks. -/
structure Dispatch where
  pool : Service.Pool
  /-- The orders whose tasks have not started yet. -/
  waiting : List Order
  /-- What was handed to the publisher, from first to last. -/
  attempts : List Announcement
  /-- The attempts that the publisher has not come back to. -/
  running : List Nat
  counters : List EventCounter

inductive Dispatch.Turn where
  | serve (move : Service.Move)
  /-- One of the tasks that wait starts, and makes its attempt. -/
  | start (index : Nat)
  /-- The publisher comes back to one of the attempts, if it ever does. -/
  | complete (index : Nat)

namespace Dispatch

open Service

def empty : Dispatch :=
  { pool := .empty, waiting := [], attempts := [], running := [], counters := [] }

/-- The service makes a move, and a task comes to wait for each order that it announces. -/
def serve (service : Service) (dispatch : Dispatch) (move : Move) : Dispatch :=
  let pool := dispatch.pool.step service move
  { dispatch with
    pool
    waiting := dispatch.waiting ++ announcements (pool.effects.drop dispatch.pool.effects.length) }

def start (topic : String) (dispatch : Dispatch) (index : Nat) : Dispatch :=
  match dispatch.waiting[index]? with
  | none => dispatch
  | some order =>
      { dispatch with
        waiting := dispatch.waiting.eraseIdx index
        attempts := dispatch.attempts ++ [.ofOrder topic order]
        running := dispatch.running ++ [dispatch.attempts.length] }

/-- What the publisher has to say to an attempt, counted from the first one on. -/
def answer? (publisher : Nat → Publisher) (dispatch : Dispatch) (attempt : Nat) :
    Option (Except PublishError Nat) :=
  dispatch.attempts[attempt]?.bind (publisher attempt)

def complete (topic : String) (publisher : Nat → Publisher) (dispatch : Dispatch) (index : Nat) :
    Dispatch :=
  match dispatch.running[index]? with
  | none => dispatch
  | some attempt =>
      match dispatch.answer? publisher attempt with
      | none => dispatch
      | some answer =>
          { dispatch with
            running := dispatch.running.eraseIdx index
            counters := dispatch.counters ++ [Announcement.counter topic answer] }

def step (service : Service) (topic : String) (publisher : Nat → Publisher)
    (dispatch : Dispatch) : Turn → Dispatch
  | .serve move => dispatch.serve service move
  | .start index => dispatch.start topic index
  | .complete index => dispatch.complete topic publisher index

/-- What has come of some turns, from the first one on. -/
def after (service : Service) (topic : String) (publisher : Nat → Publisher)
    (turns : List Turn) : Dispatch :=
  turns.foldl (step service topic publisher) empty

/-- The moves of the service among some turns. -/
def moves (turns : List Turn) : List Move :=
  turns.filterMap fun
    | .serve move => some move
    | .start _ | .complete _ => none

variable {service : Service} {topic : String} {publisher : Nat → Publisher} {dispatch : Dispatch}

/-! ## What the service does -/

theorem pool_start (index : Nat) : (dispatch.start topic index).pool = dispatch.pool := by
  unfold start
  split
  · rfl
  · rfl

theorem pool_complete (index : Nat) :
    (dispatch.complete topic publisher index).pool = dispatch.pool := by
  unfold complete
  split
  · rfl
  · split
    · rfl
    · rfl

theorem pool_foldl (turns : List Turn) (dispatch : Dispatch) :
    (turns.foldl (step service topic publisher) dispatch).pool =
      (moves turns).foldl (Pool.step service) dispatch.pool := by
  induction turns generalizing dispatch with
  | nil => rfl
  | cons turn rest ih =>
      rw [List.foldl_cons, ih]
      cases turn with
      | serve move => rfl
      | start index => exact congrArg ((moves rest).foldl (Pool.step service)) (pool_start index)
      | complete index =>
          exact congrArg ((moves rest).foldl (Pool.step service)) (pool_complete index)

/-- The service goes its way as if there were no publisher. -/
theorem pool_after (service : Service) (topic : String) (publisher : Nat → Publisher)
    (turns : List Turn) :
    (after service topic publisher turns).pool = service.after (moves turns) :=
  pool_foldl turns empty

/-! ## What is handed over -/

/-- The attempts are those for some orders that were announced, the other orders wait, and each
attempt that was completed has been counted as what it was answered with. -/
structure Accounts (topic : String) (publisher : Nat → Publisher) (dispatch : Dispatch)
    (started : List Order) (completed : List Nat) : Prop where
  announced : (announcements dispatch.pool.effects).Perm (started ++ dispatch.waiting)
  attempts : dispatch.attempts = started.map (Announcement.ofOrder topic)
  balanced : (completed ++ dispatch.running).Perm (List.range dispatch.attempts.length)
  counters : List.Forall₂ (fun attempt counter => ∃ answer,
    dispatch.answer? publisher attempt = some answer ∧
      counter = Announcement.counter topic answer) completed dispatch.counters

variable {started : List Order} {completed : List Nat}

theorem accounts_empty : empty.Accounts topic publisher [] [] :=
  ⟨.nil, rfl, .nil, .nil⟩

theorem Accounts.serve (h : dispatch.Accounts topic publisher started completed) (move : Move) :
    (dispatch.serve service move).Accounts topic publisher started completed := by
  refine ⟨?_, h.attempts, h.balanced, h.counters⟩
  show (announcements (dispatch.pool.step service move).effects).Perm
    (started ++ (dispatch.waiting ++ announcements
      ((dispatch.pool.step service move).effects.drop dispatch.pool.effects.length)))
  rw [Exchange.announcements_step, ← List.append_assoc]
  exact h.announced.append_right _

/-- A task that starts has its order attempted, and all attempts before it stay what they were. -/
theorem Accounts.start (h : dispatch.Accounts topic publisher started completed) (index : Nat) :
    ∃ others, (dispatch.start topic index).Accounts topic publisher (started ++ others)
      completed := by
  unfold Dispatch.start
  split
  next => exact ⟨[], by rw [List.append_nil]; exact h⟩
  next order horder =>
    refine ⟨[order], ?_, ?_, ?_, ?_⟩
    · dsimp only
      rw [List.append_assoc]
      exact h.announced.trans ((Exchange.cons_eraseIdx_perm horder).symm.append_left started)
    · dsimp only
      rw [h.attempts, List.map_append, List.map_singleton]
    · dsimp only
      rw [List.length_append, List.length_singleton, List.range_succ, ← List.append_assoc]
      exact h.balanced.append_right _
    · refine h.counters.imp fun attempt counter ⟨answer, hanswer, hcounter⟩ =>
        ⟨answer, ?_, hcounter⟩
      obtain ⟨record, hrecord, hpublisher⟩ := Option.bind_eq_some_iff.1 hanswer
      have hbound := (List.getElem?_eq_some_iff.1 hrecord).1
      exact Option.bind_eq_some_iff.2
        ⟨record, (List.getElem?_append_left hbound).trans hrecord, hpublisher⟩

/-- An attempt that is completed is counted once. -/
theorem Accounts.complete (h : dispatch.Accounts topic publisher started completed)
    (index : Nat) :
    ∃ others, (dispatch.complete topic publisher index).Accounts topic publisher started
      (completed ++ others) := by
  unfold Dispatch.complete
  split
  next => exact ⟨[], by rw [List.append_nil]; exact h⟩
  next attempt hattempt =>
    split
    next => exact ⟨[], by rw [List.append_nil]; exact h⟩
    next answer hanswer =>
      refine ⟨[attempt], h.announced, h.attempts, ?_, ?_⟩
      · dsimp only
        rw [List.append_assoc]
        exact ((Exchange.cons_eraseIdx_perm hattempt).append_left completed).trans h.balanced
      · exact List.rel_append h.counters (.cons ⟨answer, hanswer, rfl⟩ .nil)

theorem exists_accounts (service : Service) (topic : String) (publisher : Nat → Publisher)
    (turns : List Turn) :
    ∃ started completed,
      (after service topic publisher turns).Accounts topic publisher started completed := by
  suffices hfold : ∀ (dispatch : Dispatch) (started : List Order) (completed : List Nat),
      dispatch.Accounts topic publisher started completed → ∃ started completed,
        (turns.foldl (step service topic publisher) dispatch).Accounts topic publisher started
          completed from
    hfold empty [] [] accounts_empty
  induction turns with
  | nil => exact fun _ started completed h => ⟨started, completed, h⟩
  | cons turn rest ih =>
      intro dispatch started completed h
      cases turn with
      | serve move => exact ih _ started completed (h.serve move)
      | start index =>
          obtain ⟨others, hnext⟩ := h.start index
          exact ih _ (started ++ others) completed hnext
      | complete index =>
          obtain ⟨others, hnext⟩ := h.complete index
          exact ih _ started (completed ++ others) hnext

/-! ## What comes of it -/

/-- No request to place an order is under way. -/
def Quiet (pool : Pool) : Prop :=
  ∀ task ∈ pool.tasks, IsPlacing task.request → ∃ outcome, task.rest = .done outcome

/-- A request that is done, or that does not ask for an order, has announced what it has stored. -/
theorem told?_eq_order? {task : Task} {stage : Stage} (h : task.At stage)
    (hdone : IsPlacing task.request → ∃ outcome, task.rest = .done outcome) :
    stage.told? = stage.order? := by
  cases horder : stage.order? with
  | none =>
      cases stage with
      | told order => cases horder
      | _ => rfl
  | some order =>
      obtain ⟨outcome, houtcome⟩ := hdone (h.placing_iff.1 (Stage.placing_of_order? horder))
      rw [h.eq_told_of_done horder houtcome]
      rfl

theorem filterMap_told?_of_quiet {tasks : List Task} {stages : List Stage}
    (h : List.Forall₂ Task.At tasks stages)
    (hquiet : ∀ task ∈ tasks, IsPlacing task.request → ∃ outcome, task.rest = .done outcome) :
    stages.filterMap Stage.told? = stages.filterMap Stage.order? := by
  induction h with
  | nil => rfl
  | @cons task stage _ _ hat _ ih =>
      obtain ⟨hfirst, hrest⟩ := List.forall_mem_cons.1 hquiet
      rw [List.filterMap_cons, List.filterMap_cons, told?_eq_order? hat hfirst, ih hrest]

/-- The requests to place an order that were answered with 201 show these orders, one each, and for
each of them one attempt has been made or a task still waits to make it; no other attempt was made.
Once all tasks have started and no request to place an order is under way, the attempts are those for
the orders that were committed.  Each attempt that is completed has been counted once, as what it was
answered with. -/
structure AttemptsOnce (topic : String) (publisher : Nat → Publisher) (dispatch : Dispatch)
    (orders : List Order) (completed : List Nat) : Prop where
  answered : List.Forall₂ Task.Shows (dispatch.pool.tasks.filter Task.hasPlaced) orders
  attempted : (dispatch.attempts ++ dispatch.waiting.map (Announcement.ofOrder topic)).Perm
    (orders.map (Announcement.ofOrder topic))
  committed : dispatch.waiting = [] → Quiet dispatch.pool → dispatch.attempts.Perm
    ((Change.orders dispatch.pool.history).map (Announcement.ofOrder topic))
  balanced : (completed ++ dispatch.running).Perm (List.range dispatch.attempts.length)
  counters : List.Forall₂ (fun attempt counter => ∃ answer,
    dispatch.answer? publisher attempt = some answer ∧
      counter = Announcement.counter topic answer) completed dispatch.counters

theorem exists_attemptsOnce (service : Service) (topic : String) (publisher : Nat → Publisher)
    (turns : List Turn) :
    ∃ orders completed,
      (after service topic publisher turns).AttemptsOnce topic publisher orders completed := by
  obtain ⟨started, completed, haccounts⟩ := exists_accounts service topic publisher turns
  obtain ⟨stages, hstaged⟩ := staged_after service (moves turns)
  rw [← pool_after service topic publisher] at hstaged
  have hstarted := haccounts.announced.symm.trans hstaged.told
  refine ⟨stages.filterMap Stage.told?, completed, shows_of_at hstaged.tasks, ?_, ?_,
    haccounts.balanced, haccounts.counters⟩
  · rw [haccounts.attempts, ← List.map_append]
    exact hstarted.map _
  · intro hwaiting hquiet
    rw [hwaiting, List.append_nil, filterMap_told?_of_quiet hstaged.tasks hquiet] at hstarted
    rw [haccounts.attempts]
    exact (hstarted.trans hstaged.stored.symm).map _

/-- The same requests were answered, in the same way but for time stamps, and the stores hold the
same restaurants, menu items and orders but for the times at which they were made. -/
structure SameService (pool other : Pool) : Prop where
  answers : List.Forall₂ (fun task another => task.request = another.request ∧
    Option.Rel Http.Response.Alike task.response? another.response?) pool.tasks other.tasks
  stores : pool.stores.timeless = other.stores.timeless

theorem sameService_of_alike {pool other : Pool} (h : pool.Alike other) :
    SameService pool other where
  answers := h.tasks.imp fun _ _ halike => ⟨halike.request, halike.rel_response?⟩
  stores := h.stores

/-- The publisher cannot affect the service.  Whatever two publishers do, the same requests in the
same turns come to the same, exactly so where they come in at the same times; and each committed
order is attempted once, whatever comes of the attempt. -/
theorem broker_cannot_affect_ordering (service : Service) (topic : String) :
    (∀ (publisher other : Nat → Publisher) (turns others : List Turn),
      List.Forall₂ Move.Alike (moves turns) (moves others) →
        SameService (after service topic publisher turns).pool
          (after service topic other others).pool ∧
        (moves turns = moves others →
          (after service topic publisher turns).pool = (after service topic other others).pool)) ∧
    ∀ (publisher : Nat → Publisher) (turns : List Turn), ∃ orders completed,
      (after service topic publisher turns).AttemptsOnce topic publisher orders completed := by
  constructor
  · intro publisher other turns others halike
    rw [pool_after, pool_after]
    exact ⟨sameService_of_alike (alike_after service halike), congrArg (Service.after service)⟩
  · exact exists_attemptsOnce service topic

/-- A request that comes in changes nothing but that it is under way. -/
theorem after_arrive (service : Service) (topic : String) (publisher : Nat → Publisher)
    (earlier later : List Turn) (now : Instant) (request : Http.Request) :
    after service topic publisher (earlier ++ .serve (.arrive now request) :: later) =
      later.foldl (step service topic publisher)
        { after service topic publisher earlier with
          pool := { (after service topic publisher earlier).pool with
            tasks := (after service topic publisher earlier).pool.tasks ++
              [{ now, request, rest := service.answer now request }] } } := by
  unfold after
  rw [List.foldl_append, List.foldl_cons]
  congr 1
  show Dispatch.serve _ _ _ = _
  unfold Dispatch.serve Pool.step
  dsimp only
  rw [List.drop_length]
  simp [announcements]

open Exchange in
/-- The dinner is ordered, and its price is taken to pass and to fail in turn: once with a publisher
that reaches three listeners, and once, at a later time, with one that refuses its first record and
never comes back to another. -/
theorem dinner_with_two_publishers :
    let accepting : Nat → Publisher := fun _ _ => some (.ok 3)
    let failing : Nat → Publisher := fun attempt _ =>
      if attempt = 0 then some (.error (.unavailable "down")) else none
    let earlier : List Turn :=
      [.serve (.arrive (.ofSeconds 0) Dinner.registration), .serve (.turn 0)]
    let later : List Turn :=
      [.serve (.turn 1), .serve (.turn 1), .serve (.turn 1), .serve (.turn 1), .start 0,
        .complete 0]
    let turns := earlier ++ .serve (.arrive Dinner.now Dinner.ordering) :: later
    let others : List Turn :=
      [.serve (.arrive (.ofSeconds 7) Dinner.registration), .serve (.turn 0), .complete 0,
        .serve (.arrive (.ofSeconds 9) Dinner.ordering), .serve (.turn 1), .serve (.turn 1),
        .serve (.turn 1), .start 0, .serve (.turn 1)]
    let run := after Dinner.service "orders" accepting turns
    let another := after Dinner.service "orders" failing others
    (run.attempts.length, run.counters) ∈ [(1, [.published "orders"]), (0, [])] ∧
      List.Forall₂ Move.Alike (moves turns) (moves others) ∧ SameService run.pool another.pool ∧
      (∃ orders completed, run.AttemptsOnce "orders" accepting orders completed) ∧
      ∃ orders completed, another.AttemptsOnce "orders" failing orders completed := by
  intro accepting failing earlier later turns others run another
  have halike : List.Forall₂ Move.Alike (moves turns) (moves others) :=
    .cons (.arrive ..) <| .cons (.turn 0) <| .cons (.arrive ..) <| .cons (.turn 1) <|
      .cons (.turn 1) <| .cons (.turn 1) <| .cons (.turn 1) .nil
  obtain ⟨hsame, honce⟩ := broker_cannot_affect_ordering Dinner.service "orders"
  refine ⟨?_, halike, (hsame accepting failing turns others halike).1, honce accepting turns,
    honce failing others⟩
  have hrun := after_arrive Dinner.service "orders" accepting earlier later Dinner.now
    Dinner.ordering
  rw [Dinner.answer_ordering] at hrun
  rw [show run = _ from hrun]
  rcases Dinner.priceFault?_price with hprice | hprice
  · rw [hprice]
    decide +kernel
  · rw [hprice]
    decide +kernel

end Dispatch

end FoodOrdering
