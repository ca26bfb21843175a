import FoodOrdering.Proofs.Service.Journal
import FoodOrdering.Proofs.Service.Progress

/-!
# Requests that leave no trace

Nothing that can fail comes behind a change, so that a request that is refused has changed nothing,
has announced no order and has counted none.  Nor does a request that only reads, whatever it is
answered with.  Both hold of a request on its own, and of every turn of a request among others.
-/

namespace FoodOrdering

namespace Http

/-- The status says that the request was served. -/
def Response.IsSuccess (response : Response) : Prop :=
  200 ≤ response.status ∧ response.status < 300

instance (response : Response) : Decidable response.IsSuccess :=
  inferInstanceAs (Decidable (_ ∧ _))

/-- The method asks for reading. -/
def Request.IsReading (request : Request) : Prop :=
  request.method = "GET" ∨ request.method = "HEAD"

end Http

namespace Service

/-- The stores are as they were, counters included; no order was announced, and none counted. -/
structure Traceless (before after : Stores) (effects : List Effect) : Prop where
  stores_eq : after = before
  idle : ∀ effect ∈ effects, effect.Idle

/-! ## From stage to stage -/

namespace Stage

variable {before after : Stage}

theorem Leads.eq_of_untouched {change : Option Change} (h : before.Leads change after)
    (huntouched : after.Untouched) : change = none ∧ after = before := by
  cases h with
  | read hgoing => exact ⟨rfl, rfl⟩
  | change hother => exact huntouched.elim
  | order order => exact huntouched.elim

theorem Performs.eq_of_untouched {effect : Effect} (h : before.Performs effect after)
    (huntouched : after.Untouched) : effect.Idle ∧ after = before := by
  cases h with
  | idle hgoing hidle => exact ⟨hidle, rfl⟩
  | counted order => exact huntouched.elim
  | told order => exact huntouched.elim

/-- Some visits may lead from one stage to another: they stored the orders that came in between,
and whoever has changed nothing afterwards had changed nothing before. -/
structure Passes (before : Stage) (visits : List Visit) (after : Stage) : Prop where
  orders : after.order?.toList =
    before.order?.toList ++ Change.orders (visits.filterMap Visit.change?)
  placing_iff : after.Placing ↔ before.Placing
  untouched : after.Untouched → before.Untouched

theorem Passes.refl (stage : Stage) : stage.Passes [] stage :=
  ⟨(List.append_nil _).symm, Iff.rfl, id⟩

theorem Passes.visit {middle : Stage} {visit : Visit} {visits : List Visit}
    (h : middle.Passes visits after) (hleads : before.Leads visit.change? middle) :
    before.Passes (visit :: visits) after where
  orders := by
    rw [h.orders, hleads.toList_order?, filterMap_cons_eq, Change.orders_append, List.append_assoc]
  placing_iff := h.placing_iff.trans hleads.placing_iff
  untouched hafter := by
    have hmiddle := h.untouched hafter
    rwa [(hleads.eq_of_untouched hmiddle).2] at hmiddle

theorem Passes.effect {middle : Stage} {effect : Effect} {visits : List Visit}
    (h : middle.Passes visits after) (hperforms : before.Performs effect middle) :
    before.Passes visits after where
  orders := by rw [h.orders, hperforms.order?_eq]
  placing_iff := h.placing_iff.trans hperforms.placing_iff
  untouched hafter := by
    have hmiddle := h.untouched hafter
    rwa [(hperforms.eq_of_untouched hmiddle).2] at hmiddle

end Stage

namespace Program

variable {α β : Type} {post : Stage → α → Prop} {stage : Stage} {program rest : Program α}

theorem Conducts.of_reaches {visits : List Visit} (hreaches : program.Reaches visits rest)
    (h : program.Conducts post stage) :
    ∃ after, rest.Conducts post after ∧ stage.Passes visits after := by
  induction hreaches generalizing stage with
  | here program => exact ⟨stage, h, .refl stage⟩
  | access stores _ ih =>
      obtain ⟨middle, hleads, hnext⟩ := h stores
      obtain ⟨after, hrest, hpasses⟩ := ih hnext
      exact ⟨after, hrest, hpasses.visit hleads⟩
  | perform _ ih =>
      obtain ⟨middle, hperforms, hnext⟩ := h
      obtain ⟨after, hrest, hpasses⟩ := ih hnext
      exact ⟨after, hrest, hpasses.effect hperforms⟩

/-- A program that ends where nothing has been changed has left no trace. -/
theorem Conducts.traceless_run (h : program.Conducts post stage) (stores : Stores) :
    ∃ last, (Program.done (program.run stores).outcome).Conducts post last ∧
      (last.Untouched → stage.Untouched ∧
        Traceless stores (program.run stores).stores (program.run stores).effects) := by
  induction program generalizing stage stores with
  | done outcome => exact ⟨stage, h, fun huntouched => ⟨huntouched, rfl, nofun⟩⟩
  | access step next ih =>
      obtain ⟨middle, hleads, hnext⟩ := h stores
      obtain ⟨last, hlast, htrace⟩ := ih (step.run stores).1 hnext (step.run stores).2
      refine ⟨last, hlast, fun huntouched => ?_⟩
      obtain ⟨hmiddle, hstores, hidle⟩ := htrace huntouched
      obtain ⟨hchange, rfl⟩ := hleads.eq_of_untouched hmiddle
      exact ⟨hmiddle, hstores.trans (Access.stores_run_of_none hchange), hidle⟩
  | perform effect next ih =>
      obtain ⟨middle, hperforms, hnext⟩ := h
      obtain ⟨last, hlast, htrace⟩ := ih hnext stores
      refine ⟨last, hlast, fun huntouched => ?_⟩
      obtain ⟨hmiddle, hstores, hidle⟩ := htrace huntouched
      obtain ⟨heffect, rfl⟩ := hperforms.eq_of_untouched hmiddle
      exact ⟨hmiddle, hstores, List.forall_mem_cons.2 ⟨heffect, hidle⟩⟩

theorem OnlyReads.traceless_run (h : program.OnlyReads) (stores : Stores) :
    Traceless stores (program.run stores).stores (program.run stores).effects := by
  refine ⟨h.stores_run stores, ?_⟩
  induction program generalizing stores with
  | done outcome => exact nofun
  | access step next ih => exact ih (step.run stores).1 (h.2 _) (step.run stores).2
  | perform effect next ih => exact List.forall_mem_cons.2 ⟨h.1, ih h.2 stores⟩

theorem OnlyReads.of_reaches {visits : List Visit} (hreaches : program.Reaches visits rest)
    (h : program.OnlyReads) : rest.OnlyReads := by
  induction hreaches with
  | here program => exact h
  | access stores _ ih => exact ih (h.2 _)
  | perform _ ih => exact ih h.2

theorem OnlyReads.settle {close : Except Problem α → β} (h : program.OnlyReads) :
    (program.settle close).OnlyReads := by
  induction program with
  | done outcome => exact trivial
  | access step next ih => exact ⟨h.1, fun result => ih result (h.2 result)⟩
  | perform effect next ih => exact ⟨h.1, ih h.2⟩

theorem OnlyReads.performing {effects : List Effect} (h : program.OnlyReads)
    (hidle : ∀ effect ∈ effects, effect.Idle) : (program.performing effects).OnlyReads := by
  induction effects with
  | nil => exact h
  | cons effect others ih =>
      obtain ⟨heffect, hothers⟩ := List.forall_mem_cons.1 hidle
      exact ⟨heffect, ih hothers⟩

end Program

open Program

/-! ## Requests that read -/

theorem onlyReads_reading {resource : Resource} {action : Action}
    {program : Call → Program Envelope} (haction : resource.reading? = some action)
    (hprogram : action.envelope? = some program) (call : Call) : (program call).OnlyReads := by
  cases resource with
  | health =>
      cases haction
      cases hprogram
  | restaurants =>
      cases haction
      cases hprogram
      exact onlyReads_listRestaurants call
  | restaurant part =>
      cases haction
      cases hprogram
      exact onlyReads_showRestaurant part call
  | menu part =>
      cases haction
      cases hprogram
      exact onlyReads_showMenu part call
  | menuItem part itemPart => cases haction
  | status part => cases haction
  | orders =>
      cases haction
      cases hprogram
      exact onlyReads_listOwnOrders call
  | restaurantOrders part =>
      cases haction
      cases hprogram
      exact onlyReads_listRestaurantOrders part call

theorem onlyReads_programOf {call : Call} (h : call.request.IsReading) :
    (programOf call).OnlyReads := by
  unfold programOf
  split
  next => exact trivial
  next resource _ =>
    have hreading : resource.action? call.request.method = resource.reading? := if_pos h
    rw [hreading]
    split
    next => exact trivial
    next action haction =>
      unfold Action.program
      split
      next => exact trivial
      next program hprogram =>
        exact (onlyReads_reading haction hprogram call).bind fun _ => trivial

theorem onlyReads_answer (service : Service) (now : Instant) {request : Http.Request}
    (h : request.IsReading) : (service.answer now request).OnlyReads := by
  unfold answer
  split
  · exact trivial
  · exact (onlyReads_programOf h).settle.performing fun _ => idle_of_mem_callerEffects

/-! ## Requests that are refused -/

/-- Whoever has changed something is answered that it was served. -/
theorem isSuccess_of_sends {now : Instant} {request : Http.Request} {stage : Stage}
    {response : Http.Response} (h : stage.Sends now request response)
    (htouched : ¬ stage.Untouched) : response.IsSuccess := by
  unfold Http.Response.IsSuccess
  cases stage with
  | elsewhere changed =>
      cases changed with
      | false => exact absurd trivial htouched
      | true =>
          rcases h with hok | hcreated
          · rw [hok]
            decide
          · rw [hcreated]
            decide
  | ordering => exact absurd trivial htouched
  | stored order => exact h.elim
  | counted order => exact h.elim
  | told order =>
      cases h
      rw [status_placedResponse]
      decide

/-- The request was answered, and not that it was served. -/
def Task.IsRefused (task : Task) : Prop :=
  ∃ response, task.rest = .done (.ok response) ∧ ¬ response.IsSuccess

namespace Pool

variable {service : Service} {pool : Pool} {index : Nat} {task : Task}

/-- A turn of a request that is refused in the end leaves no trace. -/
theorem traceless_turn_of_isRefused (service : Service) (later : List Move)
    {stages : List Stage} (hstaged : pool.Staged stages)
    (htask : ((Move.turn index :: later).foldl (step service) pool).tasks[index]? = some task)
    (hrefused : task.IsRefused) :
    ∃ effects, (pool.advance index).effects = pool.effects ++ effects ∧
      Traceless pool.stores (pool.advance index).stores effects := by
  -- What comes behind the turn is refused, so that nothing had been changed right after it.
  have huntouched : ∀ {now : Instant} {request : Http.Request} {rest : Program Http.Response}
      {stage : Stage}, (pool.advance index).tasks[index]? = some { now, request, rest } →
      rest.Conducts (Stage.Sends now request) stage → stage.Untouched := by
    intro now request rest stage hnext hgoes
    obtain ⟨last, hlast, hreaches⟩ := exists_reaches service later hnext
    cases hlast.symm.trans htask
    obtain ⟨response, hdone, hfailed⟩ := hrefused
    cases hdone
    obtain ⟨after, hafter, hpasses⟩ := Conducts.of_reaches hreaches hgoes
    by_contra htouched
    exact hfailed (isSuccess_of_sends hafter fun huntouched =>
      htouched (hpasses.untouched huntouched))
  rcases pool.advance_cases index with hsame | ⟨mover, effect, rest, hmover, hrest, hnext⟩ |
    ⟨mover, step, rest, hmover, hrest, hnext⟩
  · rw [hsame]
    exact ⟨[], (List.append_nil _).symm, rfl, nofun⟩
  · obtain ⟨before, _, hat⟩ := exists_of_forall₂_getElem? hstaged.tasks hmover
    have hgoes := hat.goes
    rw [hrest] at hgoes
    obtain ⟨after, hperforms, hgoes⟩ := hgoes
    have hindex := (List.getElem?_eq_some_iff.1 hmover).1
    have hafter := huntouched (by rw [hnext]; exact List.getElem?_set_self hindex) hgoes
    rw [hnext]
    refine ⟨[effect], rfl, rfl, ?_⟩
    exact List.forall_mem_singleton.2 (hperforms.eq_of_untouched hafter).1
  · obtain ⟨before, _, hat⟩ := exists_of_forall₂_getElem? hstaged.tasks hmover
    have hgoes := hat.goes
    rw [hrest] at hgoes
    obtain ⟨after, hleads, hgoes⟩ := hgoes pool.stores
    have hindex := (List.getElem?_eq_some_iff.1 hmover).1
    have hafter := huntouched (by rw [hnext]; exact List.getElem?_set_self hindex) hgoes
    rw [hnext]
    refine ⟨[], (List.append_nil _).symm, ?_, nofun⟩
    exact Access.stores_run_of_none (hleads.eq_of_untouched hafter).1

/-- A turn of a request that only reads leaves no trace. -/
theorem traceless_turn_of_onlyReads
    (h : ∀ task, pool.tasks[index]? = some task → task.rest.OnlyReads) :
    ∃ effects, (pool.advance index).effects = pool.effects ++ effects ∧
      Traceless pool.stores (pool.advance index).stores effects := by
  rcases pool.advance_cases index with hsame | ⟨mover, effect, rest, hmover, hrest, hnext⟩ |
    ⟨mover, step, rest, hmover, hrest, hnext⟩
  · rw [hsame]
    exact ⟨[], (List.append_nil _).symm, rfl, nofun⟩
  · have hreads := h mover hmover
    rw [hrest] at hreads
    rw [hnext]
    exact ⟨[effect], rfl, rfl, List.forall_mem_singleton.2 hreads.1⟩
  · have hreads := h mover hmover
    rw [hrest] at hreads
    rw [hnext]
    exact ⟨[], (List.append_nil _).symm, Access.stores_run_of_none (hreads.1 pool.stores), nofun⟩

end Pool

/-- A request that is refused leaves no trace, and a request that reads leaves none whatever it is
answered with: neither on its own, whatever there is in the stores, nor in any of its turns among
others. -/
theorem failures_leave_no_trace (service : Service) :
    (∀ (now : Instant) (stores : Stores) (request : Http.Request),
      ¬ (service.handle now stores request).response.IsSuccess ∨ request.IsReading →
        Traceless stores (service.handle now stores request).stores
          (service.handle now stores request).effects) ∧
    ∀ (earlier later : List Move) (index : Nat) (task : Task),
      (service.after (earlier ++ .turn index :: later)).tasks[index]? = some task →
      task.IsRefused ∨ task.request.IsReading →
        ∃ effects,
          (service.after (earlier ++ [.turn index])).effects =
            (service.after earlier).effects ++ effects ∧
          Traceless (service.after earlier).stores
            (service.after (earlier ++ [.turn index])).stores effects := by
  constructor
  · intro now stores request h
    have hrun := service.run_answer now request stores
    rcases h with hfailed | hreading
    · obtain ⟨last, hlast, htrace⟩ :=
        (conducts_answer service now request).traceless_run stores
      rw [hrun] at hlast htrace
      by_cases huntouched : last.Untouched
      · exact (htrace huntouched).2
      · exact absurd (isSuccess_of_sends hlast huntouched) hfailed
    · have htrace := (onlyReads_answer service now hreading).traceless_run stores
      rwa [hrun] at htrace
  · intro earlier later index task htask h
    rw [after_append] at htask ⊢
    show ∃ effects, ((service.after earlier).advance index).effects = _ ∧ _
    rcases h with hrefused | hreading
    · obtain ⟨stages, hstaged⟩ := staged_after service earlier
      exact Pool.traceless_turn_of_isRefused service later hstaged htask hrefused
    · refine Pool.traceless_turn_of_onlyReads fun before hbefore => ?_
      obtain ⟨rest, hrest, _⟩ := Pool.exists_reaches service (.turn index :: later) hbefore
      cases hrest.symm.trans htask
      exact (onlyReads_answer service before.now hreading).of_reaches
        (reaches_after earlier hbefore)

/-- An administrator asks to open a restaurant that nobody has registered, on their own and while
somebody registers another one. -/
theorem opening_a_missing_restaurant_leaves_no_trace :
    let service : FoodOrdering.Service := { zone := .privateNetwork }
    let request (user role method path body : String) : Http.Request :=
      { method, target := ⟨path, none⟩, body := body.toUTF8, peer := some (.v4 ⟨10, 0, 0, 7⟩)
        headers := .ofList [("X-User-Id", Text.utf8 user), ("X-User-Role", Text.utf8 role),
          ("Content-Type", Text.utf8 "application/json")] }
    let opening := request "1" "ADMIN" "PATCH" "/api/restaurants/2/status" "[\"ACTIVE\"]"
    let registering :=
      request "7" "OWNER" "POST" "/api/restaurants" "[\"Vito\",\"Pizza\",\"Rome\",null,null,null]"
    let now : Instant := .ofSeconds 0
    let earlier : List Move := [.arrive now registering, .arrive now opening, .turn 0]
    let handled := service.handle now .empty opening
    handled.response.status = 404 ∧ Traceless .empty handled.stores handled.effects ∧
      ∃ effects,
        (service.after (earlier ++ [.turn 1])).effects = (service.after earlier).effects ++ effects ∧
        Traceless (service.after earlier).stores (service.after (earlier ++ [.turn 1])).stores
          effects := by
  intro service request opening registering now earlier handled
  have hstatus : handled.response.status = 404 := by decide +kernel
  have hfailed : ¬ handled.response.IsSuccess := by
    unfold Http.Response.IsSuccess
    rw [hstatus]
    decide
  obtain ⟨hsingle, hamong⟩ := failures_leave_no_trace service
  refine ⟨hstatus, hsingle now .empty opening (.inl hfailed), ?_⟩
  have hanswered : ((service.after (earlier ++ [.turn 1, .turn 0])).tasks[1]?.bind
      Task.status?) = some 404 := by decide +kernel
  obtain ⟨task, htask, htaskStatus⟩ := Option.bind_eq_some_iff.1 hanswered
  refine hamong earlier [.turn 0] 1 task htask (.inl ?_)
  unfold Task.status? at htaskStatus
  split at htaskStatus
  next response hrest =>
    refine ⟨response, hrest, ?_⟩
    unfold Http.Response.IsSuccess
    rw [Option.some.inj htaskStatus]
    decide
  next => cases htaskStatus

end Service

end FoodOrdering
