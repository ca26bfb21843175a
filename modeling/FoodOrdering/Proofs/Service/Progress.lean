import FoodOrdering.Proofs.Lists
import FoodOrdering.Proofs.Service.Conduct
import Mathlib.Data.List.Forall2

/-!
# Orders under way

Each request that is under way is at a stage.  The orders that were stored are those of the requests
that have come to store one, and the orders that were announced are those of the requests that have
placed one and were answered for it.
-/

namespace FoodOrdering

/-- The orders that came in by some changes. -/
def Change.orders (changes : List Change) : List Order :=
  changes.filterMap fun
    | .orderAdded order => some order
    | _ => none

theorem Change.orders_append (first second : List Change) :
    orders (first ++ second) = orders first ++ orders second :=
  List.filterMap_append

namespace Service

theorem announcements_append (first second : List Effect) :
    announcements (first ++ second) = announcements first ++ announcements second :=
  List.filterMap_append

namespace Stage

/-- The order that has been stored. -/
def order? : Stage → Option Order
  | .stored order | .counted order | .told order => some order
  | .elsewhere _ | .ordering => none

/-- The order that has been announced. -/
def told? : Stage → Option Order
  | .told order => some order
  | _ => none

/-- The request asks to place an order. -/
def Placing : Stage → Prop
  | .elsewhere _ => False
  | _ => True

variable {before after : Stage}

theorem Leads.placing_iff {change : Option Change} (h : before.Leads change after) :
    after.Placing ↔ before.Placing := by
  cases h with
  | read hgoing => exact Iff.rfl
  | change hother => exact Iff.rfl
  | order order => exact Iff.rfl

theorem Leads.toList_order? {change : Option Change} (h : before.Leads change after) :
    after.order?.toList = before.order?.toList ++ Change.orders change.toList := by
  cases h with
  | read hgoing => exact (List.append_nil _).symm
  | order order => rfl
  | @change change hother =>
      cases change with
      | orderAdded order => cases hother
      | restaurantAdded restaurant => rfl
      | statusChanged restaurant status => rfl
      | itemAdded item => rfl
      | itemChanged item content => rfl

theorem Leads.told?_eq {change : Option Change} (h : before.Leads change after) :
    after.told? = before.told? := by
  cases h with
  | read hgoing => rfl
  | change hother => rfl
  | order order => rfl

theorem Performs.placing_iff {effect : Effect} (h : before.Performs effect after) :
    after.Placing ↔ before.Placing := by
  cases h with
  | idle hgoing hidle => exact Iff.rfl
  | counted order => exact Iff.rfl
  | told order => exact Iff.rfl

theorem Performs.order?_eq {effect : Effect} (h : before.Performs effect after) :
    after.order? = before.order? := by
  cases h with
  | idle hgoing hidle => rfl
  | counted order => rfl
  | told order => rfl

theorem Performs.toList_told? {effect : Effect} (h : before.Performs effect after) :
    after.told?.toList = before.told?.toList ++ announcements [effect] := by
  cases h with
  | idle hgoing hidle =>
      cases effect with
      | counted counter => exact (List.append_nil _).symm
      | announced order => exact hidle.elim
  | counted order => rfl
  | told order => rfl

end Stage

/-! ## Lists with one entry replaced -/

section

variable {α β : Type} {R : α → β → Prop} {f : α → Option β}

theorem exists_of_forall₂_getElem? {xs : List α} {ys : List β} (h : List.Forall₂ R xs ys)
    {index : Nat} {x : α} (hx : xs[index]? = some x) : ∃ y, ys[index]? = some y ∧ R x y := by
  induction h generalizing index with
  | nil => cases hx
  | @cons first second _ _ hfirst _ ih =>
      cases index with
      | zero =>
          cases hx
          exact ⟨second, rfl, hfirst⟩
      | succ index => exact ih hx

theorem forall₂_set {xs : List α} {ys : List β} (h : List.Forall₂ R xs ys) (index : Nat) {x : α}
    {y : β} (hxy : R x y) : List.Forall₂ R (xs.set index x) (ys.set index y) := by
  induction h generalizing index with
  | nil => exact .nil
  | cons hfirst hrest ih =>
      cases index with
      | zero => exact .cons hxy hrest
      | succ index => exact .cons hfirst (ih index)

/-- What is gathered from a list grows by what an entry gives more than the one before it. -/
theorem perm_filterMap_set {xs : List α} {index : Nat} {before after : α} {more : List β}
    (hbefore : xs[index]? = some before)
    (hmore : (f after).toList = (f before).toList ++ more) :
    ((xs.set index after).filterMap f).Perm (xs.filterMap f ++ more) := by
  induction xs generalizing index with
  | nil => cases hbefore
  | cons first rest ih =>
      cases index with
      | zero =>
          cases hbefore
          rw [List.set_cons_zero, filterMap_cons_eq, filterMap_cons_eq, hmore, List.append_assoc,
            List.append_assoc]
          exact (List.perm_append_comm).append_left _
      | succ index =>
          rw [List.set_cons_succ, filterMap_cons_eq, filterMap_cons_eq, List.append_assoc]
          exact (ih hbefore).append_left _

end

/-! ## Pools -/

/-- What is left of a task goes on from a stage. -/
structure Task.At (task : Task) (stage : Stage) : Prop where
  goes : task.rest.Conducts (Stage.Sends task.now task.request) stage
  placing_iff : stage.Placing ↔ IsPlacing task.request

theorem Task.at_start (service : Service) (now : Instant) (request : Http.Request) :
    Task.At { now, request, rest := service.answer now request } (Stage.start request) where
  goes := conducts_answer service now request
  placing_iff := by
    unfold Stage.start
    by_cases hplacing : IsPlacing request
    · rw [if_pos hplacing]
      exact iff_of_true trivial hplacing
    · rw [if_neg hplacing]
      exact iff_of_false id hplacing

namespace Pool

/-- The tasks are at these stages, and the orders that were stored and announced are theirs. -/
structure Staged (pool : Pool) (stages : List Stage) : Prop where
  tasks : List.Forall₂ Task.At pool.tasks stages
  stored : (Change.orders pool.history).Perm (stages.filterMap Stage.order?)
  told : (announcements pool.effects).Perm (stages.filterMap Stage.told?)

variable {pool : Pool} {stages : List Stage}

theorem staged_empty : empty.Staged [] :=
  ⟨.nil, .nil, .nil⟩

/-- Entries that give the same leave what is gathered as it is. -/
theorem perm_filterMap_set_same {α β : Type} {f : α → Option β} {xs : List α} {index : Nat}
    {before after : α} (hbefore : xs[index]? = some before) (hsame : f after = f before) :
    ((xs.set index after).filterMap f).Perm (xs.filterMap f) := by
  have hperm := @perm_filterMap_set _ _ f xs index before after [] hbefore
    (by rw [hsame, List.append_nil])
  rwa [List.append_nil] at hperm

theorem Staged.advance (h : pool.Staged stages) (index : Nat) :
    ∃ next, (pool.advance index).Staged next := by
  rcases pool.advance_cases index with hsame | ⟨task, effect, rest, htask, hrest, hnext⟩ |
    ⟨task, step, rest, htask, hrest, hnext⟩
  · rw [hsame]
    exact ⟨stages, h⟩
  · obtain ⟨before, hbefore, hat⟩ := exists_of_forall₂_getElem? h.tasks htask
    have hgoes := hat.goes
    rw [hrest] at hgoes
    obtain ⟨after, hperforms, hgoes⟩ := hgoes
    rw [hnext]
    refine ⟨stages.set index after, ?_, ?_, ?_⟩
    · exact forall₂_set h.tasks index ⟨hgoes, hperforms.placing_iff.trans hat.placing_iff⟩
    · exact h.stored.trans (perm_filterMap_set_same hbefore hperforms.order?_eq).symm
    · dsimp only
      rw [announcements_append]
      exact (h.told.append_right _).trans
        (perm_filterMap_set hbefore hperforms.toList_told?).symm
  · obtain ⟨before, hbefore, hat⟩ := exists_of_forall₂_getElem? h.tasks htask
    have hgoes := hat.goes
    rw [hrest] at hgoes
    obtain ⟨after, hleads, hgoes⟩ := hgoes pool.stores
    rw [hnext]
    refine ⟨stages.set index after, ?_, ?_, ?_⟩
    · exact forall₂_set h.tasks index ⟨hgoes, hleads.placing_iff.trans hat.placing_iff⟩
    · dsimp only
      rw [Change.orders_append]
      exact (h.stored.append_right _).trans
        (perm_filterMap_set hbefore hleads.toList_order?).symm
    · exact h.told.trans (perm_filterMap_set_same hbefore hleads.told?_eq).symm

theorem Staged.step (h : pool.Staged stages) (service : Service) (move : Move) :
    ∃ next, (pool.step service move).Staged next := by
  cases move with
  | turn index => exact h.advance index
  | arrive now request =>
      have hnone : (Stage.start request).order? = none ∧ (Stage.start request).told? = none := by
        unfold Stage.start
        split
        · exact ⟨rfl, rfl⟩
        · exact ⟨rfl, rfl⟩
      refine ⟨stages ++ [Stage.start request], ?_, ?_, ?_⟩
      · exact List.rel_append h.tasks (.cons (Task.at_start service now request) .nil)
      · rw [List.filterMap_append, List.filterMap_cons_none hnone.1, List.filterMap_nil,
          List.append_nil]
        exact h.stored
      · rw [List.filterMap_append, List.filterMap_cons_none hnone.2, List.filterMap_nil,
          List.append_nil]
        exact h.told

theorem Staged.foldl (service : Service) (moves : List Move) {pool : Pool} {stages : List Stage}
    (h : pool.Staged stages) : ∃ next, (moves.foldl (Pool.step service) pool).Staged next := by
  induction moves generalizing pool stages with
  | nil => exact ⟨stages, h⟩
  | cons move rest ih =>
      obtain ⟨next, hnext⟩ := h.step service move
      exact ih hnext

end Pool

/-- Whatever came in and whoever had the turns, every task is at a stage. -/
theorem staged_after (service : Service) (moves : List Move) :
    ∃ stages, (service.after moves).Staged stages :=
  Pool.Staged.foldl service moves Pool.staged_empty

/-! ## Placed orders -/

/-- The status with which a task was answered, if it was. -/
def Task.status? (task : Task) : Option Nat :=
  match task.rest with
  | .done (.ok response) => some response.status
  | _ => none

/-- The task was to place an order, and was answered that the order was created. -/
def Task.hasPlaced (task : Task) : Bool :=
  IsPlacing task.request ∧ task.status? = some 201

/-- The answer to the task shows this order. -/
def Task.Shows (task : Task) (order : Order) : Prop :=
  task.rest = .done (.ok (placedResponse task.now task.request order))

theorem status_placedResponse (now : Instant) (request : Http.Request) (order : Order) :
    (placedResponse now request order).status = 201 :=
  status_sent request _

theorem Task.At.shows {task : Task} {order : Order} (h : task.At (.told order)) :
    task.hasPlaced = true ∧ task.Shows order := by
  obtain ⟨response, hrest, hsends⟩ := h.goes.of_told
  cases hsends
  refine ⟨decide_eq_true ⟨h.placing_iff.1 trivial, ?_⟩, hrest⟩
  rw [Task.status?, hrest]
  exact congrArg some (status_placedResponse task.now task.request order)

/-- Whoever has not announced an order was not answered that one was created. -/
theorem Task.At.not_hasPlaced {task : Task} {stage : Stage} (h : task.At stage)
    (htold : stage.told? = none) : task.hasPlaced = false := by
  apply decide_eq_false
  rintro ⟨hplacing, hstatus⟩
  have hstage := h.placing_iff.2 hplacing
  have hgoes := h.goes
  unfold Task.status? at hstatus
  split at hstatus
  next response hrest =>
    rw [hrest] at hgoes
    cases stage with
    | elsewhere changed => exact hstage
    | told order => cases htold
    | stored order => exact hgoes
    | counted order => exact hgoes
    | ordering =>
        have hrefused : 400 ≤ response.status := hgoes
        rw [Option.some.inj hstatus] at hrefused
        exact absurd hrefused (by decide)
  next => cases hstatus

/-- The tasks that have placed an order show the orders that were announced. -/
theorem shows_of_at {tasks : List Task} {stages : List Stage}
    (h : List.Forall₂ Task.At tasks stages) :
    List.Forall₂ Task.Shows (tasks.filter Task.hasPlaced) (stages.filterMap Stage.told?) := by
  induction h with
  | nil => exact .nil
  | @cons task stage _ _ hat _ ih =>
      cases htold : stage.told? with
      | none =>
          rw [List.filter_cons_of_neg (by simp [hat.not_hasPlaced htold]),
            List.filterMap_cons_none htold]
          exact ih
      | some order =>
          cases stage with
          | told placed =>
              have hplaced : (Stage.told placed).told? = some placed := rfl
              rw [List.filter_cons_of_pos hat.shows.1, List.filterMap_cons_some hplaced]
              exact .cons hat.shows.2 ih
          | _ => cases htold

end Service

end FoodOrdering
