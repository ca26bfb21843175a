import FoodOrdering.Proofs.Service.Interleaving
import Mathlib.Data.List.Basic
import Mathlib.Data.List.Induction

/-!
# The journal of a run

Whatever the turns are, a request finds the stores at its accesses only, and all that it does hangs
on what it found there.  The journal of a run tells from first to last who made which access and
what the stores were then.  Main statements: what is left of a request is what its own visits have
led to, and the changes of a run are those of the journal.
-/

namespace FoodOrdering.Service

/-- An access with the stores that it found. -/
structure Visit where
  access : Access
  stores : Stores

/-- The change that a visit made, if it made one. -/
def Visit.change? (visit : Visit) : Option Change :=
  visit.access.change? visit.stores

namespace Program

variable {α : Type}

/-- A program comes through some visits to what is left of it. -/
inductive Reaches : Program α → List Visit → Program α → Prop
  | here (program : Program α) : Reaches program [] program
  | access {step : Access} {next : step.Result → Program α} {visits : List Visit}
      {rest : Program α} (stores : Stores)
      (h : Reaches (next (step.run stores).1) visits rest) :
      Reaches (.access step next) ({ access := step, stores } :: visits) rest
  | perform {effect : Effect} {next : Program α} {visits : List Visit} {rest : Program α}
      (h : Reaches next visits rest) : Reaches (.perform effect next) visits rest

theorem Reaches.trans {first second third : Program α} {earlier later : List Visit}
    (h : first.Reaches earlier second) (hlater : second.Reaches later third) :
    first.Reaches (earlier ++ later) third := by
  induction h with
  | here program => exact hlater
  | access stores _ ih => exact .access stores (ih hlater)
  | perform _ ih => exact .perform (ih hlater)

theorem Reaches.of_done {outcome : Except Problem α} {visits : List Visit} {rest : Program α}
    (h : (Program.done outcome).Reaches visits rest) : visits = [] ∧ rest = .done outcome := by
  cases h with
  | here program => exact ⟨rfl, rfl⟩

theorem Reaches.of_perform_done {effect : Effect} {next : Program α} {visits : List Visit}
    {outcome : Except Problem α} (h : (Program.perform effect next).Reaches visits (.done outcome)) :
    next.Reaches visits (.done outcome) := by
  cases h with
  | perform h => exact h

/-- A program that begins with an access and is done has made that access first. -/
theorem Reaches.of_access_done {step : Access} {next : step.Result → Program α}
    {visits : List Visit} {outcome : Except Problem α}
    (h : (Program.access step next).Reaches visits (.done outcome)) :
    ∃ stores others, visits = { access := step, stores } :: others ∧
      (next (step.run stores).1).Reaches others (.done outcome) := by
  cases h with
  | @access _ _ others _ stores h => exact ⟨stores, others, rfl, h⟩

end Program

/-- The visits of one task, from a journal. -/
def visitsOf (index : Nat) (journal : List (Nat × Visit)) : List Visit :=
  (journal.filter fun entry => entry.1 == index).map Prod.snd

theorem visitsOf_append (index : Nat) (earlier later : List (Nat × Visit)) :
    visitsOf index (earlier ++ later) = visitsOf index earlier ++ visitsOf index later := by
  rw [visitsOf, List.filter_append, List.map_append]
  rfl

theorem visitsOf_self (index : Nat) (visit : Visit) : visitsOf index [(index, visit)] = [visit] := by
  simp [visitsOf]

theorem visitsOf_of_forall_ne {index : Nat} {journal : List (Nat × Visit)}
    (h : ∀ entry ∈ journal, entry.1 ≠ index) : visitsOf index journal = [] := by
  rw [visitsOf, List.filter_eq_nil_iff.2, List.map_nil]
  intro entry hentry hsame
  exact h entry hentry (eq_of_beq hsame)

/-- A visit of a task parts the journal. -/
theorem exists_of_visitsOf_eq_append {index : Nat} {journal : List (Nat × Visit)} {visit : Visit}
    {earlier later : List Visit} (h : visitsOf index journal = earlier ++ visit :: later) :
    ∃ before after, journal = before ++ (index, visit) :: after ∧
      visitsOf index before = earlier ∧ visitsOf index after = later := by
  obtain ⟨first, second, hfilter, hfirst, hsecond⟩ := List.map_eq_append_iff.1 h
  obtain ⟨before, others, rfl, hbefore, hothers⟩ := List.filter_eq_append_iff.1 hfilter
  obtain ⟨entry, rest, rfl, rfl, hrest⟩ := List.map_eq_cons_iff.1 hsecond
  obtain ⟨skipped, after, rfl, hskipped, hsame, hafter⟩ := List.filter_eq_cons_iff.1 hothers
  obtain ⟨who, visit⟩ := entry
  cases eq_of_beq hsame
  refine ⟨before ++ skipped, after, ?_, ?_, ?_⟩
  · rw [List.append_assoc]
  · rw [visitsOf_append, visitsOf, hbefore, hfirst, visitsOf_of_forall_ne, List.append_nil]
    intro entry hentry hsame
    exact hskipped entry hentry (beq_iff_eq.2 hsame)
  · rw [visitsOf, hafter, hrest]

/-! ## Moves -/

namespace Pool

/-- The visit that a move makes, with the task that makes it. -/
def visit? (pool : Pool) : Move → Option (Nat × Visit)
  | .arrive _ _ => none
  | .turn index =>
      match pool.tasks[index]? with
      | none => none
      | some task =>
          match task.rest with
          | .access step _ => some (index, { access := step, stores := pool.stores })
          | .done _ | .perform _ _ => none

/-- All visits from a pool on. -/
def journal (service : Service) (pool : Pool) : List Move → List (Nat × Visit)
  | [] => []
  | move :: rest => (pool.visit? move).toList ++ (pool.step service move).journal service rest

/-- All that a turn may do, with the visit that it makes. -/
theorem turn_cases (pool : Pool) (index : Nat) :
    (pool.visit? (.turn index) = none ∧ pool.advance index = pool) ∨
      (∃ task effect next, pool.tasks[index]? = some task ∧ task.rest = .perform effect next ∧
        pool.visit? (.turn index) = none ∧
        pool.advance index =
          { pool with
            tasks := pool.tasks.set index { task with rest := next }
            effects := pool.effects ++ [effect] }) ∨
      ∃ task step next, pool.tasks[index]? = some task ∧ task.rest = .access step next ∧
        pool.visit? (.turn index) = some (index, { access := step, stores := pool.stores }) ∧
        pool.advance index =
          { pool with
            stores := (step.run pool.stores).2
            tasks := pool.tasks.set index { task with rest := next (step.run pool.stores).1 }
            history := pool.history ++ (step.change? pool.stores).toList } := by
  cases htask : pool.tasks[index]? with
  | none => exact Or.inl ⟨by rw [visit?, htask], by rw [advance, htask]⟩
  | some task =>
      cases hrest : task.rest with
      | done outcome =>
          left
          constructor
          · rw [visit?, htask]
            dsimp only
            rw [hrest]
          · rw [advance, htask]
            dsimp only
            rw [hrest]
      | perform effect next =>
          refine Or.inr (Or.inl ⟨task, effect, next, rfl, hrest, ?_,
            advance_of_perform htask hrest⟩)
          rw [visit?, htask]
          dsimp only
          rw [hrest]
      | access step next =>
          refine Or.inr (Or.inr ⟨task, step, next, rfl, hrest, ?_, advance_of_access htask hrest⟩)
          rw [visit?, htask]
          dsimp only
          rw [hrest]

variable {service : Service} {pool : Pool}

/-- A visit finds the stores as they are. -/
theorem of_visit?_eq_some {move : Move} {entry : Nat × Visit} (h : pool.visit? move = some entry) :
    move = .turn entry.1 ∧ entry.2.stores = pool.stores ∧ entry.1 < pool.tasks.length := by
  cases move with
  | arrive now request => cases h
  | turn index =>
      rcases pool.turn_cases index with ⟨hnone, _⟩ | ⟨_, _, _, _, _, hnone, _⟩ |
        ⟨task, step, next, htask, _, hvisit, _⟩
      · cases hnone.symm.trans h
      · cases hnone.symm.trans h
      · cases hvisit.symm.trans h
        exact ⟨rfl, rfl, (List.getElem?_eq_some_iff.1 htask).1⟩

/-- In front of a visit the run had come to the stores that it found. -/
theorem exists_earlier {moves : List Move} {before after : List (Nat × Visit)}
    {entry : Nat × Visit} (h : pool.journal service moves = before ++ entry :: after) :
    ∃ earlier later, moves = earlier ++ .turn entry.1 :: later ∧
      pool.journal service earlier = before ∧
      (earlier.foldl (step service) pool).stores = entry.2.stores := by
  induction moves generalizing pool before with
  | nil => simp [journal] at h
  | cons move rest ih =>
      rw [journal] at h
      cases hvisit : pool.visit? move with
      | none =>
          rw [hvisit] at h
          obtain ⟨earlier, later, hrest, hjournal, hstores⟩ := ih h
          refine ⟨move :: earlier, later, ?_, ?_, hstores⟩
          · rw [hrest]
            rfl
          · rw [journal, hvisit]
            exact hjournal
      | some first =>
          rw [hvisit] at h
          cases before with
          | nil =>
              obtain ⟨rfl, _⟩ := List.cons.inj h
              obtain ⟨hmove, hstores, _⟩ := of_visit?_eq_some hvisit
              exact ⟨[], rest, by rw [hmove]; rfl, rfl, hstores.symm⟩
          | cons head others =>
              obtain ⟨rfl, hothers⟩ := List.cons.inj h
              obtain ⟨earlier, later, hrest, hjournal, hstores⟩ := ih hothers
              refine ⟨move :: earlier, later, ?_, ?_, hstores⟩
              · rw [hrest]
                rfl
              · rw [journal, hvisit, hjournal]
                rfl

/-- A move takes a task on by the visit that it makes, if it makes one. -/
theorem exists_reaches_step (service : Service) (move : Move) {index : Nat} {task : Task}
    (h : pool.tasks[index]? = some task) :
    ∃ rest, (pool.step service move).tasks[index]? = some { task with rest } ∧
      task.rest.Reaches (visitsOf index (pool.visit? move).toList) rest := by
  have hindex := (List.getElem?_eq_some_iff.1 h).1
  cases move with
  | arrive now request =>
      refine ⟨task.rest, ?_, .here task.rest⟩
      exact (List.getElem?_append_left hindex).trans h
  | turn other =>
      show ∃ rest, (pool.advance other).tasks[index]? = some { task with rest } ∧ _
      rcases pool.turn_cases other with ⟨hvisit, hsame⟩ |
        ⟨mover, effect, next, hmover, hrest, hvisit, hnext⟩ |
        ⟨mover, step, next, hmover, hrest, hvisit, hnext⟩
      · rw [hvisit, hsame]
        exact ⟨task.rest, h, .here task.rest⟩
      · rw [hvisit, hnext]
        by_cases heq : other = index
        · subst heq
          cases h.symm.trans hmover
          refine ⟨next, List.getElem?_set_self hindex, ?_⟩
          rw [hrest]
          exact .perform (.here next)
        · exact ⟨task.rest, (List.getElem?_set_ne heq).trans h, .here task.rest⟩
      · rw [hvisit, hnext]
        by_cases heq : other = index
        · subst heq
          cases h.symm.trans hmover
          refine ⟨next (step.run pool.stores).1, List.getElem?_set_self hindex, ?_⟩
          rw [hrest, Option.toList_some, visitsOf_self]
          exact .access pool.stores (.here _)
        · refine ⟨task.rest, (List.getElem?_set_ne heq).trans h, ?_⟩
          rw [visitsOf_of_forall_ne]
          · exact .here task.rest
          · intro entry hentry
            cases List.mem_singleton.1 hentry
            exact heq

/-- Moves take a task on by the visits that it makes in the meantime. -/
theorem exists_reaches (service : Service) (moves : List Move) {pool : Pool} {index : Nat}
    {task : Task} (h : pool.tasks[index]? = some task) :
    ∃ rest, (moves.foldl (step service) pool).tasks[index]? = some { task with rest } ∧
      task.rest.Reaches (visitsOf index (pool.journal service moves)) rest := by
  induction moves generalizing pool task with
  | nil => exact ⟨task.rest, h, .here task.rest⟩
  | cons move others ih =>
      obtain ⟨middle, hmiddle, hfirst⟩ := exists_reaches_step service move h
      obtain ⟨rest, hrest, hothers⟩ := ih hmiddle
      refine ⟨rest, hrest, ?_⟩
      rw [journal, visitsOf_append]
      exact hfirst.trans hothers

end Pool

/-! ## Runs -/

/-- All visits of a run, from first to last, with the tasks that made them. -/
def journal (service : Service) (moves : List Move) : List (Nat × Visit) :=
  Pool.empty.journal service moves

variable {service : Service}

theorem Pool.journal_append (service : Service) (earlier later : List Move) (pool : Pool) :
    pool.journal service (earlier ++ later) =
      pool.journal service earlier ++
        (earlier.foldl (Pool.step service) pool).journal service later := by
  induction earlier generalizing pool with
  | nil => rfl
  | cons move rest ih =>
      rw [List.cons_append, Pool.journal, Pool.journal, ih, List.append_assoc]
      rfl

theorem journal_concat (service : Service) (moves : List Move) (move : Move) :
    service.journal (moves ++ [move]) =
      service.journal moves ++ ((service.after moves).visit? move).toList := by
  unfold journal
  rw [Pool.journal_append]
  exact congrArg (Pool.empty.journal service moves ++ ·) (List.append_nil _)

theorem after_concat (service : Service) (moves : List Move) (move : Move) :
    service.after (moves ++ [move]) = (service.after moves).step service move :=
  after_append service moves [move]

theorem Pool.length_tasks_advance (pool : Pool) (index : Nat) :
    (pool.advance index).tasks.length = pool.tasks.length := by
  rcases pool.advance_cases index with hsame | ⟨_, _, _, _, _, hnext⟩ | ⟨_, _, _, _, _, hnext⟩
  · rw [hsame]
  · rw [hnext]
    exact List.length_set
  · rw [hnext]
    exact List.length_set

theorem Pool.length_tasks_step (service : Service) (pool : Pool) (move : Move) :
    pool.tasks.length ≤ (pool.step service move).tasks.length := by
  cases move with
  | turn index => exact Nat.le_of_eq (pool.length_tasks_advance index).symm
  | arrive now request =>
      show _ ≤ (pool.tasks ++ [_]).length
      rw [List.length_append]
      exact Nat.le_add_right _ _

/-- Whoever made a visit had arrived. -/
theorem lt_length_of_mem_journal (moves : List Move) {entry : Nat × Visit}
    (h : entry ∈ service.journal moves) : entry.1 < (service.after moves).tasks.length := by
  induction moves using List.reverseRecOn with
  | nil => cases h
  | append_singleton moves move ih =>
      rw [journal_concat] at h
      rw [after_concat]
      refine Nat.lt_of_lt_of_le ?_ (Pool.length_tasks_step service (service.after moves) move)
      rcases List.mem_append.1 h with hold | hnew
      · exact ih hold
      · exact (Pool.of_visit?_eq_some (Option.mem_toList.1 hnew)).2.2

/-- What is left of a request is what its own visits have led to. -/
theorem reaches_after (moves : List Move) {index : Nat} {task : Task}
    (h : (service.after moves).tasks[index]? = some task) :
    (service.answer task.now task.request).Reaches (visitsOf index (service.journal moves))
      task.rest := by
  induction moves using List.reverseRecOn generalizing task with
  | nil => cases h
  | append_singleton moves move ih =>
      rw [after_concat] at h
      rw [journal_concat, visitsOf_append]
      cases hbefore : (service.after moves).tasks[index]? with
      | some before =>
          obtain ⟨rest, hrest, hstep⟩ := Pool.exists_reaches_step service move hbefore
          cases hrest.symm.trans h
          exact (ih hbefore).trans hstep
      | none =>
          -- The request arrives with this move, and nobody has made a visit in its place.
          have hlength := List.getElem?_eq_none_iff.1 hbefore
          have hjournal : visitsOf index (service.journal moves) = [] := by
            apply visitsOf_of_forall_ne
            intro entry hentry
            have := lt_length_of_mem_journal moves hentry
            omega
          rw [hjournal]
          cases move with
          | turn other =>
              have hindex : index < ((service.after moves).advance other).tasks.length :=
                (List.getElem?_eq_some_iff.1 h).1
              rw [Pool.length_tasks_advance] at hindex
              omega
          | arrive now request =>
              have htask : ((service.after moves).tasks ++
                  [{ now, request, rest := service.answer now request }])[index]? = some task := h
              rw [List.getElem?_append_right hlength] at htask
              obtain ⟨_, htask⟩ := List.getElem?_eq_some_iff.1 htask
              rw [List.getElem_singleton] at htask
              rw [← htask]
              exact .here _

/-- The changes of a run are those that its visits made. -/
theorem history_after (service : Service) (moves : List Move) :
    (service.after moves).history =
      (service.journal moves).filterMap fun entry => entry.2.change? := by
  induction moves using List.reverseRecOn with
  | nil => rfl
  | append_singleton moves move ih =>
      rw [after_concat, journal_concat, List.filterMap_append, ← ih]
      cases move with
      | arrive now request => exact (List.append_nil _).symm
      | turn index =>
          show ((service.after moves).advance index).history = _
          rcases (service.after moves).turn_cases index with ⟨hvisit, hsame⟩ |
            ⟨_, effect, next, _, _, hvisit, hnext⟩ | ⟨_, step, next, _, _, hvisit, hnext⟩
          · rw [hvisit, hsame]
            exact (List.append_nil _).symm
          · rw [hvisit, hnext]
            exact (List.append_nil _).symm
          · rw [hvisit, hnext]
            rw [Option.toList_some, List.filterMap_eq_flatMap_toList, List.flatMap_singleton]
            rfl

theorem Pool.length_journal_le (service : Service) (moves : List Move) (pool : Pool) :
    (pool.journal service moves).length ≤ moves.length := by
  induction moves generalizing pool with
  | nil => exact Nat.le_refl 0
  | cons move rest ih =>
      have hrest := ih (pool.step service move)
      have hfirst := (pool.visit? move).length_toList_le
      rw [Pool.journal, List.length_append, List.length_cons]
      omega

/-- No more records come in than there are moves. -/
theorem inserts_le_length (service : Service) (moves : List Move) :
    (service.after moves).inserts ≤ moves.length := by
  have hchanges : (service.after moves).history.length ≤ moves.length := by
    rw [history_after]
    exact Nat.le_trans (List.length_filterMap_le ..) (Pool.empty.length_journal_le service moves)
  exact Nat.le_trans (Change.insertsOf_le_length _) hchanges

/-- In front of a visit a run had come to the stores that it found. -/
theorem exists_earlier_of_journal {moves : List Move} {before after : List (Nat × Visit)}
    {entry : Nat × Visit} (h : service.journal moves = before ++ entry :: after) :
    ∃ earlier later, moves = earlier ++ .turn entry.1 :: later ∧
      service.journal earlier = before ∧ (service.after earlier).stores = entry.2.stores :=
  Pool.exists_earlier h

end FoodOrdering.Service
