import FoodOrdering.Proofs.Store.Numbering
import FoodOrdering.Service.Basic

/-!
# Requests in turns

Many requests may be under way at once.  Each is a program, and whoever has the turn does the next
thing of it: one access to the stores, or one thing that is counted or announced.  A task that has
all the turns to itself runs straight through.
-/

namespace FoodOrdering.Service

namespace Program

variable {α β : Type}

/-- Go on from the outcome, whatever it is. -/
def settle (close : Except Problem α → β) : Program α → Program β
  | .done outcome => .done (.ok (close outcome))
  | .access step next => .access step fun result => (next result).settle close
  | .perform effect next => .perform effect (next.settle close)

/-- Perform some effects first. -/
def performing (effects : List Effect) (program : Program α) : Program α :=
  effects.foldr .perform program

theorem run_perform (effect : Effect) (next : Program α) (stores : Stores) :
    (Program.perform effect next).run stores =
      { next.run stores with effects := effect :: (next.run stores).effects } :=
  rfl

theorem run_settle (close : Except Problem α → β) (program : Program α) (stores : Stores) :
    (program.settle close).run stores =
      { outcome := .ok (close (program.run stores).outcome)
        stores := (program.run stores).stores
        effects := (program.run stores).effects } := by
  induction program generalizing stores with
  | done outcome => rfl
  | access step next ih => exact ih (step.run stores).1 (step.run stores).2
  | perform effect next ih =>
      rw [settle, run_perform, run_perform, ih]

theorem run_performing (effects : List Effect) (program : Program α) (stores : Stores) :
    (program.performing effects).run stores =
      { outcome := (program.run stores).outcome
        stores := (program.run stores).stores
        effects := effects ++ (program.run stores).effects } := by
  induction effects with
  | nil => rfl
  | cons effect rest ih =>
      show (Program.perform effect (program.performing rest)).run stores = _
      rw [run_perform, ih]
      rfl

end Program

/-- All that is done about a request, up to what goes out. -/
def answer (service : Service) (now : Instant) (request : Http.Request) : Program Http.Response :=
  if request.method = Http.CrossOrigin.question then
    .done (.ok (sent request Http.CrossOrigin.permission))
  else
    let call := service.callOf now request
    ((programOf call).settle fun outcome =>
      sent request (Http.CrossOrigin.opened (outcomeResponse now outcome))).performing
        (callerEffects call)

/-- Straight through, the answer is the one that the service gives. -/
theorem run_answer (service : Service) (now : Instant) (request : Http.Request) (stores : Stores) :
    (service.answer now request).run stores =
      { outcome := .ok (service.handle now stores request).response
        stores := (service.handle now stores request).stores
        effects := (service.handle now stores request).effects } := by
  unfold answer handle
  split
  · rfl
  · rw [Program.run_performing, Program.run_settle]

/-! ## Turns -/

/-- A request that is under way. -/
structure Task where
  now : Instant
  request : Http.Request
  /-- What is still to be done about it. -/
  rest : Program Http.Response

/-- Who the request of a task comes from. -/
def Task.caller (service : Service) (task : Task) : Option Identity :=
  (service.callOf task.now task.request).caller

/-- All that is under way, and what came of it so far. -/
structure Pool where
  stores : Stores
  /-- The requests in the order in which they arrived. -/
  tasks : List Task
  effects : List Effect
  /-- The changes that the stores went through, from first to last. -/
  history : List Change

inductive Move where
  | arrive (now : Instant) (request : Http.Request)
  /-- The turn goes to one of the tasks. -/
  | turn (index : Nat)

namespace Pool

def empty : Pool :=
  { stores := .empty, tasks := [], effects := [], history := [] }

/-- How many records came in. -/
def inserts (pool : Pool) : Nat :=
  Change.insertsOf pool.history

/-- One of the tasks does its next thing, if it has one left. -/
def advance (pool : Pool) (index : Nat) : Pool :=
  match pool.tasks[index]? with
  | none => pool
  | some task =>
      match task.rest with
      | .done _ => pool
      | .access step next =>
          { pool with
            stores := (step.run pool.stores).2
            tasks := pool.tasks.set index { task with rest := next (step.run pool.stores).1 }
            history := pool.history ++ (step.change? pool.stores).toList }
      | .perform effect next =>
          { pool with
            tasks := pool.tasks.set index { task with rest := next }
            effects := pool.effects ++ [effect] }

def step (service : Service) (pool : Pool) : Move → Pool
  | .arrive now request =>
      { pool with
        tasks := pool.tasks ++ [{ now, request, rest := service.answer now request }] }
  | .turn index => pool.advance index

theorem advance_of_access {pool : Pool} {index : Nat} {task : Task} {step : Access}
    {next : step.Result → Program Http.Response} (htask : pool.tasks[index]? = some task)
    (hrest : task.rest = .access step next) :
    pool.advance index =
      { pool with
        stores := (step.run pool.stores).2
        tasks := pool.tasks.set index { task with rest := next (step.run pool.stores).1 }
        history := pool.history ++ (step.change? pool.stores).toList } := by
  rw [advance, htask]
  dsimp only
  rw [hrest]

theorem advance_of_perform {pool : Pool} {index : Nat} {task : Task} {effect : Effect}
    {next : Program Http.Response} (htask : pool.tasks[index]? = some task)
    (hrest : task.rest = .perform effect next) :
    pool.advance index =
      { pool with
        tasks := pool.tasks.set index { task with rest := next }
        effects := pool.effects ++ [effect] } := by
  rw [advance, htask]
  dsimp only
  rw [hrest]

/-- All that a turn may do: nothing, an effect, or an access. -/
theorem advance_cases (pool : Pool) (index : Nat) :
    pool.advance index = pool ∨
      (∃ task effect next, pool.tasks[index]? = some task ∧ task.rest = .perform effect next ∧
        pool.advance index =
          { pool with
            tasks := pool.tasks.set index { task with rest := next }
            effects := pool.effects ++ [effect] }) ∨
      ∃ task step next, pool.tasks[index]? = some task ∧ task.rest = .access step next ∧
        pool.advance index =
          { pool with
            stores := (step.run pool.stores).2
            tasks := pool.tasks.set index { task with rest := next (step.run pool.stores).1 }
            history := pool.history ++ (step.change? pool.stores).toList } := by
  cases htask : pool.tasks[index]? with
  | none =>
      left
      rw [advance, htask]
  | some task =>
      cases hrest : task.rest with
      | done outcome =>
          left
          rw [advance, htask]
          dsimp only
          rw [hrest]
      | access step next =>
          exact Or.inr (Or.inr ⟨task, step, next, rfl, hrest, advance_of_access htask hrest⟩)
      | perform effect next =>
          exact Or.inr (Or.inl ⟨task, effect, next, rfl, hrest, advance_of_perform htask hrest⟩)

end Pool

/-- What came of some moves, from the first one on. -/
def after (service : Service) (moves : List Move) : Pool :=
  moves.foldl (Pool.step service) .empty

theorem after_append (service : Service) (earlier later : List Move) :
    service.after (earlier ++ later) = later.foldl (Pool.step service) (service.after earlier) :=
  List.foldl_append

/-! ## A task on its own -/

namespace Pool

/-- A task that has all the turns runs straight through. -/
theorem exists_turns (service : Service) (pool : Pool) {index : Nat} {task : Task}
    (htask : pool.tasks[index]? = some task) :
    ∃ count, ∃ history,
      (List.replicate count (Move.turn index)).foldl (step service) pool =
        { stores := (task.rest.run pool.stores).stores
          tasks := pool.tasks.set index
            { task with rest := .done (task.rest.run pool.stores).outcome }
          effects := pool.effects ++ (task.rest.run pool.stores).effects
          history } := by
  obtain ⟨now, request, rest⟩ := task
  induction rest generalizing pool with
  | done outcome =>
      refine ⟨0, pool.history, ?_⟩
      obtain ⟨hindex, hsame⟩ := List.getElem?_eq_some_iff.1 htask
      have htasks : pool.tasks.set index { now, request, rest := .done outcome } = pool.tasks := by
        rw [← hsame]
        exact List.set_getElem_self hindex
      show pool = _
      dsimp only [Program.run]
      rw [htasks, List.append_nil]
  | access step next ih =>
      have hindex := (List.getElem?_eq_some_iff.1 htask).1
      have hfirst := advance_of_access htask rfl
      obtain ⟨count, history, hturns⟩ := ih (step.run pool.stores).1 (pool.advance index)
        (by rw [hfirst]; exact List.getElem?_set_self hindex)
      refine ⟨count + 1, history, ?_⟩
      rw [List.replicate_succ, List.foldl_cons]
      refine hturns.trans ?_
      rw [hfirst]
      dsimp only
      rw [List.set_set]
      rfl
  | perform effect next ih =>
      have hindex := (List.getElem?_eq_some_iff.1 htask).1
      have hfirst := advance_of_perform htask rfl
      obtain ⟨count, history, hturns⟩ := ih (pool.advance index)
        (by rw [hfirst]; exact List.getElem?_set_self hindex)
      refine ⟨count + 1, history, ?_⟩
      rw [List.replicate_succ, List.foldl_cons]
      refine hturns.trans ?_
      rw [hfirst]
      dsimp only
      rw [List.set_set, List.append_assoc]
      rfl

end Pool

/-! ## Records that came in -/

namespace Pool

theorem inserts_le_advance (pool : Pool) (index : Nat) :
    pool.inserts ≤ (pool.advance index).inserts := by
  rcases pool.advance_cases index with hsame | ⟨task, effect, next, _, _, hnext⟩ |
    ⟨task, step, next, _, _, hnext⟩
  · exact Nat.le_of_eq (congrArg inserts hsame).symm
  · exact Nat.le_of_eq (congrArg inserts hnext).symm
  · rw [hnext]
    unfold inserts
    dsimp only
    rw [Change.insertsOf_append]
    exact Nat.le_add_right _ _

theorem inserts_le_step (service : Service) (pool : Pool) (move : Move) :
    pool.inserts ≤ (pool.step service move).inserts := by
  cases move with
  | arrive now request => exact Nat.le_refl _
  | turn index => exact pool.inserts_le_advance index

theorem inserts_le_foldl (service : Service) (moves : List Move) (pool : Pool) :
    pool.inserts ≤ (moves.foldl (step service) pool).inserts := by
  induction moves generalizing pool with
  | nil => exact Nat.le_refl _
  | cons move rest ih =>
      exact Nat.le_trans (pool.inserts_le_step service move) (ih (pool.step service move))

end Pool

/-- No record that came in is ever forgotten. -/
theorem inserts_after_le (service : Service) (earlier later : List Move) :
    (service.after earlier).inserts ≤ (service.after (earlier ++ later)).inserts := by
  rw [after_append]
  exact Pool.inserts_le_foldl service later (service.after earlier)

end FoodOrdering.Service
