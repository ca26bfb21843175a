import FoodOrdering.Proofs.Service.OrderHistory
import FoodOrdering.Proofs.Service.Refusal

/-!
# Commits of orders

An order is committed by one visit of one request.  The journal tells in which order that happened,
and this is the order of the ids.  A request that has committed an order is answered with this one
and no other, as soon as it is answered at all.
-/

namespace FoodOrdering.Service

/-- The order that a visit stored, if it stored one. -/
def Visit.order? (visit : Visit) : Option Order :=
  visit.change?.bind fun
    | .orderAdded order => some order
    | _ => none

/-- The orders that were stored by the visits of a journal, with the tasks that asked for them. -/
def commits (journal : List (Nat × Visit)) : List (Nat × Order) :=
  journal.filterMap fun entry => entry.2.order?.map fun order => (entry.1, order)

theorem commits_append (earlier later : List (Nat × Visit)) :
    commits (earlier ++ later) = commits earlier ++ commits later :=
  List.filterMap_append

theorem mem_commits_iff {journal : List (Nat × Visit)} {index : Nat} {order : Order} :
    (index, order) ∈ commits journal ↔
      ∃ visit, (index, visit) ∈ journal ∧ visit.order? = some order := by
  unfold commits
  rw [List.mem_filterMap]
  constructor
  · rintro ⟨⟨who, visit⟩, hmem, hcommit⟩
    obtain ⟨stored, hstored, hpair⟩ := Option.map_eq_some_iff.1 hcommit
    cases hpair
    exact ⟨visit, hmem, hstored⟩
  · rintro ⟨visit, hmem, hstored⟩
    exact ⟨(index, visit), hmem, Option.map_eq_some_iff.2 ⟨order, hstored, rfl⟩⟩

theorem orders_filterMap_change? (visits : List Visit) :
    Change.orders (visits.filterMap Visit.change?) = visits.filterMap Visit.order? :=
  List.filterMap_filterMap

theorem map_snd_commits (journal : List (Nat × Visit)) :
    (commits journal).map Prod.snd = journal.filterMap fun entry => entry.2.order? := by
  rw [commits, List.map_filterMap]
  congr 1
  funext entry
  cases entry.2.order? with
  | none => rfl
  | some order => rfl

/-- The orders that a task has committed are those of its own visits. -/
theorem map_snd_filter_commits (journal : List (Nat × Visit)) (index : Nat) :
    ((commits journal).filter fun commit => commit.1 == index).map Prod.snd =
      (visitsOf index journal).filterMap Visit.order? := by
  induction journal with
  | nil => rfl
  | cons entry rest ih =>
      obtain ⟨who, visit⟩ := entry
      have hcommits : commits ((who, visit) :: rest) =
          (visit.order?.map fun order => (who, order)).toList ++ commits rest :=
        filterMap_cons_eq _ _ _
      rw [hcommits, List.filter_append, List.map_append, ih]
      by_cases hsame : who = index
      · subst hsame
        cases hvisit : visit.order? with
        | none => simp [visitsOf, hvisit]
        | some order => simp [visitsOf, hvisit]
      · cases hvisit : visit.order? with
        | none => simp [visitsOf, hsame]
        | some order => simp [visitsOf, hsame]

variable {service : Service}

/-- What was committed is the history of the orders. -/
theorem commits_journal (service : Service) (moves : List Move) :
    (commits (service.journal moves)).map Prod.snd = Change.orders (service.after moves).history := by
  rw [map_snd_commits, history_after]
  exact List.filterMap_filterMap.symm

/-- The ids are one, two, three and so on. -/
theorem ids_commits (moves : List Move) (hroom : (service.after moves).inserts < idLimit) :
    (commits (service.journal moves)).map (fun commit => commit.2.id.toInt) =
      (List.range (commits (service.journal moves)).length).map fun count : Nat => (count : Int) + 1 := by
  have hids := (service.recorded_after moves hroom).holds.ids
  rw [← commits_journal, List.map_map, List.length_map] at hids
  exact hids

/-! ## Requests that commit -/

/-- A request is at a stage at which it has stored what its own visits have stored. -/
theorem exists_at_after {moves : List Move} {index : Nat} {task : Task}
    (htask : (service.after moves).tasks[index]? = some task) :
    ∃ stage, task.At stage ∧
      stage.order?.toList = (visitsOf index (service.journal moves)).filterMap Visit.order? := by
  obtain ⟨stage, hgoes, hpasses⟩ := Program.Conducts.of_reaches (reaches_after moves htask)
    (conducts_answer service task.now task.request)
  refine ⟨stage, ⟨hgoes, ?_⟩, ?_⟩
  · exact hpasses.placing_iff.trans (Task.at_start service task.now task.request).placing_iff
  · have hstart : (Stage.start task.request).order? = none := by
      unfold Stage.start
      split
      · rfl
      · rfl
    rw [hpasses.orders, hstart, orders_filterMap_change?]
    rfl

theorem Stage.placing_of_order? {stage : Stage} {order : Order} (h : stage.order? = some order) :
    stage.Placing := by
  cases stage with
  | elsewhere changed => cases h
  | _ => exact trivial

/-- Whoever has stored an order and is done has announced it. -/
theorem Task.At.eq_told_of_done {task : Task} {stage : Stage} {order : Order}
    {outcome : Except Problem Http.Response} (h : task.At stage)
    (horder : stage.order? = some order) (hdone : task.rest = .done outcome) :
    stage = .told order := by
  have hgoes := h.goes
  rw [hdone] at hgoes
  cases stage with
  | elsewhere changed => cases horder
  | ordering => cases horder
  | stored other =>
      cases outcome with
      | ok response => exact hgoes.elim
      | error problem => exact hgoes.elim
  | counted other =>
      cases outcome with
      | ok response => exact hgoes.elim
      | error problem => exact hgoes.elim
  | told other =>
      cases horder
      rfl

/-- An order that was committed was asked for, and is shown by whoever asked for it. -/
theorem exists_task_of_mem_commits {moves : List Move} {index : Nat} {order : Order}
    (h : (index, order) ∈ commits (service.journal moves)) :
    ∃ task, (service.after moves).tasks[index]? = some task ∧ IsPlacing task.request ∧
      ∀ outcome, task.rest = .done outcome → task.Shows order := by
  obtain ⟨visit, hvisit, hstored⟩ := mem_commits_iff.1 h
  have hindex := lt_length_of_mem_journal moves hvisit
  have htask := List.getElem?_eq_getElem hindex
  obtain ⟨stage, hat, horders⟩ := exists_at_after htask
  have horder : stage.order? = some order := by
    have hmem : order ∈ (visitsOf index (service.journal moves)).filterMap Visit.order? :=
      List.mem_filterMap.2 ⟨visit, List.mem_map.2 ⟨_, List.mem_filter.2 ⟨hvisit, by simp⟩, rfl⟩,
        hstored⟩
    rw [← horders] at hmem
    exact Option.mem_toList.1 hmem
  refine ⟨_, htask, hat.placing_iff.1 (Stage.placing_of_order? horder), ?_⟩
  intro outcome hdone
  rw [hat.eq_told_of_done horder hdone] at hat
  exact hat.shows.2

/-- Whoever was answered that an order was created has committed one, and is shown this one. -/
theorem exists_commit_of_hasPlaced {moves : List Move} {index : Nat} {task : Task}
    (htask : (service.after moves).tasks[index]? = some task) (hplaced : task.hasPlaced = true) :
    ∃ order, (index, order) ∈ commits (service.journal moves) ∧ task.Shows order := by
  obtain ⟨stage, hat, horders⟩ := exists_at_after htask
  cases htold : stage.told? with
  | none => cases hplaced.symm.trans (hat.not_hasPlaced htold)
  | some order =>
      cases stage with
      | told placed =>
          have hmem : placed ∈ (visitsOf index (service.journal moves)).filterMap Visit.order? := by
            rw [← horders]
            exact List.mem_singleton_self placed
          obtain ⟨visit, hvisit, hstored⟩ := List.mem_filterMap.1 hmem
          obtain ⟨⟨who, _⟩, hentry, rfl⟩ := List.mem_map.1 hvisit
          obtain ⟨hjournal, hsame⟩ := List.mem_filter.1 hentry
          cases eq_of_beq hsame
          exact ⟨placed, mem_commits_iff.2 ⟨_, hjournal, hstored⟩, hat.shows.2⟩
      | _ => cases htold

/-- No request commits two orders. -/
theorem nodup_map_fst_commits (service : Service) (moves : List Move) :
    ((commits (service.journal moves)).map Prod.fst).Nodup := by
  rw [List.nodup_iff_count_le_one]
  intro index
  have hcount : ((commits (service.journal moves)).map Prod.fst).count index =
      ((visitsOf index (service.journal moves)).filterMap Visit.order?).length := by
    rw [← map_snd_filter_commits, List.length_map, List.count, List.countP_map,
      List.countP_eq_length_filter]
    rfl
  rw [hcount]
  cases htask : (service.after moves).tasks[index]? with
  | some task =>
      obtain ⟨stage, _, horders⟩ := exists_at_after htask
      rw [← horders]
      exact stage.order?.length_toList_le
  | none =>
      have hnone : visitsOf index (service.journal moves) = [] := by
        apply visitsOf_of_forall_ne
        intro entry hentry
        have := lt_length_of_mem_journal moves hentry
        have := List.getElem?_eq_none_iff.1 htask
        omega
      rw [hnone]
      exact Nat.zero_le 1

end FoodOrdering.Service
