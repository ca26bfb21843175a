import FoodOrdering.Proofs.Service.Journal
import FoodOrdering.Proofs.Service.Terms

/-!
# How programs end among others

A program may also be held to the problems that it ends with.  Which of them can come up hangs on
what it has found in the stores and on what the others have left of that since then.
-/

namespace FoodOrdering.Service

namespace Program

variable {α β : Type} {terms : Terms} {proper : Problem → Prop} {stores : Stores}

/-- A condition on the value that a program ends with, or on its problem. -/
def Meets (proper : Problem → Prop) (post : Stores → α → Prop) (stores : Stores) :
    Except Problem α → Prop
  | .ok value => post stores value
  | .error problem => proper problem

/-- The program makes granted accesses only, and ends with a value that meets a condition or with a
proper problem. -/
def Ends (terms : Terms) (proper : Problem → Prop) (post : Stores → α → Prop)
    (program : Program α) (stores : Stores) : Prop :=
  (program.settle id).Obeys terms (Meets proper post) stores

theorem Ends.bind {program : Program α} {next : α → Program β} {post : Stores → β → Prop}
    (h : program.Ends terms proper (fun stores value => (next value).Ends terms proper post stores)
      stores) : (program >>= next).Ends terms proper post stores := by
  induction program generalizing stores with
  | done outcome =>
      cases outcome with
      | ok value => exact h
      | error problem => exact h
  | access step rest ih =>
      intro later hsound hrely
      obtain ⟨hgrants, hrest⟩ := h later hsound hrely
      exact ⟨hgrants, ih (step.run later).1 hrest⟩
  | perform effect rest ih => exact ih h

theorem Ends.mono {program : Program α} {post post' : Stores → α → Prop}
    (h : program.Ends terms proper post stores)
    (hpost : ∀ stores value, post stores value → post' stores value) :
    program.Ends terms proper post' stores := by
  induction program generalizing stores with
  | done outcome =>
      cases outcome with
      | ok value => exact hpost stores value h
      | error problem => exact h
  | access step next ih =>
      intro later hsound hrely
      obtain ⟨hgrants, hnext⟩ := h later hsound hrely
      exact ⟨hgrants, ih (step.run later).1 hnext⟩
  | perform effect next ih => exact ih h

/-- Go on from what is known of the end of a program. -/
theorem Ends.andThen {program : Program α} {next : α → Program β} {post : Stores → α → Prop}
    {post' : Stores → β → Prop} (h : program.Ends terms proper post stores)
    (hnext : ∀ stores value, post stores value → (next value).Ends terms proper post' stores) :
    (program >>= next).Ends terms proper post' stores :=
  (h.mono hnext).bind

/-- What is made of the outcome of a program has what the outcome grants it. -/
theorem Ends.settle {program : Program α} {close : Except Problem α → β}
    {post : Stores → α → Prop} {post' : Stores → β → Prop}
    (h : program.Ends terms proper post stores)
    (hclose : ∀ stores outcome, Meets proper post stores outcome → post' stores (close outcome)) :
    (program.settle close).Obeys terms post' stores := by
  induction program generalizing stores with
  | done outcome => exact hclose stores outcome h
  | access step next ih =>
      intro later hsound hrely
      obtain ⟨hgrants, hnext⟩ := h later hsound hrely
      exact ⟨hgrants, ih (step.run later).1 hnext⟩
  | perform effect next ih => exact ih h

/-! ## Single things -/

variable {post : Stores → α → Prop}

theorem ends_ofExcept {ε : Type} {problem : ε → Problem} {source : Except ε α}
    (h : ∀ value, source = .ok value → post stores value)
    (hproper : ∀ fault, source = .error fault → proper (problem fault)) :
    (ofExcept problem source).Ends terms proper post stores := by
  cases source with
  | ok value => exact h value rfl
  | error fault => exact hproper fault rfl

theorem ends_permit {call : Call} {operation : Operation} {owner : Option Int64}
    {post : Stores → Unit → Prop}
    (h : authorize call.caller operation owner = .ok () → post stores ())
    (hproper : ∀ denial, proper (.forbidden operation.name denial)) :
    (permit call operation owner).Ends terms proper post stores := by
  unfold permit
  cases hdecision : authorize call.caller operation owner with
  | ok value => exact h hdecision
  | error denial => exact hproper denial

theorem ends_identify {call : Call} {identity : Identity} {post : Stores → Identity → Prop}
    (hcaller : call.caller = some identity) (h : post stores identity) :
    (identify call).Ends terms proper post stores := by
  unfold identify
  rw [hcaller]
  exact h

theorem ends_found {id : Int64} {result : Option Restaurant} {post : Stores → Restaurant → Prop}
    (h : ∀ restaurant, result = some restaurant → post stores restaurant)
    (hproper : proper (.restaurantNotFound id)) :
    (found id result).Ends terms proper post stores := by
  cases result with
  | some restaurant => exact h restaurant rfl
  | none => exact hproper

/-! ## What was reached -/

/-- The way to the outcome of a program is the way to what is made of it. -/
theorem Reaches.settle {program rest : Program α} {visits : List Visit}
    (close : Except Problem α → β) (h : program.Reaches visits rest) :
    (program.settle close).Reaches visits (rest.settle close) := by
  induction h with
  | here program => exact .here _
  | access stores _ ih => exact .access stores ih
  | perform _ ih => exact .perform ih

/-- What is made of the outcome of a program was made of an outcome that the program has come to. -/
theorem Reaches.of_settle_done {program : Program α} {visits : List Visit}
    {close : Except Problem α → β} {final : Except Problem β}
    (h : (program.settle close).Reaches visits (.done final)) :
    ∃ outcome, program.Reaches visits (.done outcome) ∧ final = .ok (close outcome) := by
  induction program generalizing visits with
  | done outcome =>
      obtain ⟨rfl, hfinal⟩ := Reaches.of_done h
      cases hfinal
      exact ⟨outcome, .here _, rfl⟩
  | access step next ih =>
      obtain ⟨stores, others, rfl, hothers⟩ := Reaches.of_access_done h
      obtain ⟨outcome, hreaches, hfinal⟩ := ih _ hothers
      exact ⟨outcome, .access stores hreaches, hfinal⟩
  | perform effect next ih =>
      obtain ⟨outcome, hreaches, hfinal⟩ := ih (Reaches.of_perform_done h)
      exact ⟨outcome, .perform hreaches, hfinal⟩

theorem Reaches.of_performing_done {program : Program α} {effects : List Effect}
    {visits : List Visit} {final : Except Problem α}
    (h : (program.performing effects).Reaches visits (.done final)) :
    program.Reaches visits (.done final) := by
  induction effects with
  | nil => exact h
  | cons effect rest ih => exact ih (Reaches.of_perform_done h)

end Program

/-- Each visit finds what the others may have made of the stores since the one before it. -/
def Chained (terms : Terms) : Stores → List Visit → Prop
  | _, [] => True
  | stores, visit :: rest =>
      terms.sound visit.stores ∧ terms.rely stores visit.stores ∧
        Chained terms (visit.access.run visit.stores).2 rest

/-- The stores as the last of some visits left them. -/
def leftBy : Stores → List Visit → Stores
  | stores, [] => stores
  | _, visit :: rest => leftBy (visit.access.run visit.stores).2 rest

variable {terms : Terms}

theorem leftBy_concat (stores : Stores) (visits : List Visit) (visit : Visit) :
    leftBy stores (visits ++ [visit]) = (visit.access.run visit.stores).2 := by
  induction visits generalizing stores with
  | nil => rfl
  | cons first rest ih => exact ih _

theorem Chained.concat {stores : Stores} {visits : List Visit} {visit : Visit}
    (h : Chained terms stores visits) (hsound : terms.sound visit.stores)
    (hrely : terms.rely (leftBy stores visits) visit.stores) :
    Chained terms stores (visits ++ [visit]) := by
  induction visits generalizing stores with
  | nil => exact ⟨hsound, hrely, trivial⟩
  | cons first rest ih => exact ⟨h.1, h.2.1, ih h.2.2 hrely⟩

/-- Whatever a program has come to by visits that follow on each other, it was granted all of them,
and what is left of it goes on like that. -/
theorem Program.Obeys.of_reaches {α : Type} {program rest : Program α} {visits : List Visit}
    {post : Stores → α → Prop} {stores : Stores} (h : program.Reaches visits rest)
    (hobeys : program.Obeys terms post stores) (hchained : Chained terms stores visits) :
    (∀ visit ∈ visits, terms.grants visit.stores visit.access) ∧
      ∃ last, rest.Obeys terms post last := by
  induction h generalizing stores with
  | here program => exact ⟨nofun, stores, hobeys⟩
  | access later _ ih =>
      obtain ⟨hsound, hrely, hrest⟩ := hchained
      obtain ⟨hgrants, hnext⟩ := hobeys later hsound hrely
      obtain ⟨hothers, hlast⟩ := ih hnext hrest
      exact ⟨List.forall_mem_cons.2 ⟨hgrants, hothers⟩, hlast⟩
  | perform _ ih => exact ih hobeys hchained

/-- A visit leaves the stores as its access makes them. -/
theorem Pool.stores_step_of_visit? {pool : Pool} {move : Move} {entry : Nat × Visit}
    (service : Service) (h : pool.visit? move = some entry) :
    (pool.step service move).stores = (entry.2.access.run entry.2.stores).2 := by
  cases move with
  | arrive now request => cases h
  | turn index =>
      show (pool.advance index).stores = _
      rcases pool.turn_cases index with ⟨hnone, -⟩ | ⟨_, _, _, _, _, hnone, -⟩ |
        ⟨_, step, next, _, _, hvisit, hnext⟩
      · cases hnone.symm.trans h
      · cases hnone.symm.trans h
      · cases hvisit.symm.trans h
        rw [hnext]

/-- Without a visit the stores stay as they are. -/
theorem Pool.stores_step_of_no_visit {pool : Pool} {move : Move} (service : Service)
    (h : pool.visit? move = none) : (pool.step service move).stores = pool.stores := by
  cases move with
  | arrive now request => rfl
  | turn index =>
      show (pool.advance index).stores = _
      rcases pool.turn_cases index with ⟨-, hnext⟩ | ⟨_, _, _, _, _, -, hnext⟩ |
        ⟨_, step, next, _, _, hvisit, -⟩
      · rw [hnext]
      · rw [hnext]
      · cases hvisit.symm.trans h

/-- The visits of a request follow on each other, if all that a move does is what may be done. -/
theorem chained_after (service : Service)
    (hsound : ∀ moves, terms.sound (service.after moves).stores)
    (hrely : ∀ moves move,
      terms.rely (service.after moves).stores (service.after (moves ++ [move])).stores)
    (index : Nat) (moves : List Move) :
    Chained terms .empty (visitsOf index (service.journal moves)) ∧
      terms.rely (leftBy .empty (visitsOf index (service.journal moves)))
        (service.after moves).stores := by
  induction moves using List.reverseRecOn with
  | nil => exact ⟨trivial, terms.rely_refl _⟩
  | append_singleton moves move ih =>
      obtain ⟨hchained, hlast⟩ := ih
      have hlater := terms.rely_trans hlast (hrely moves move)
      rw [journal_concat, visitsOf_append]
      cases hvisit : (service.after moves).visit? move with
      | none =>
          have hnone : visitsOf index (none : Option (Nat × Visit)).toList = [] := rfl
          rw [hnone, List.append_nil]
          exact ⟨hchained, hlater⟩
      | some entry =>
          have hstores := (Pool.of_visit?_eq_some hvisit).2.1
          obtain ⟨who, visit⟩ := entry
          rw [Option.toList_some]
          by_cases heq : who = index
          · subst heq
            rw [visitsOf_self, leftBy_concat]
            refine ⟨hchained.concat (hstores ▸ hsound moves) (hstores ▸ hlast), ?_⟩
            rw [after_concat, Pool.stores_step_of_visit? service hvisit]
            exact terms.rely_refl _
          · have hother : visitsOf index [(who, visit)] = [] := by
              apply visitsOf_of_forall_ne
              intro entry hentry
              rw [List.mem_singleton.1 hentry]
              exact heq
            rw [hother, List.append_nil]
            exact ⟨hchained, hlater⟩

end FoodOrdering.Service
