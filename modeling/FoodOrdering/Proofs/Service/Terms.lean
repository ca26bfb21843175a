import FoodOrdering.Proofs.Service.Interleaving

/-!
# Programs among others

Between two accesses of a program the others may change the stores.  What a program asks of the
stores is judged against the stores at that moment, of which the program knows no more than what
the others leave as it was.
-/

namespace FoodOrdering.Service

/-- The terms on which a program runs among others. -/
structure Terms where
  /-- What always holds of the stores. -/
  sound : Stores → Prop
  /-- What the others may make of the stores. -/
  rely : Stores → Stores → Prop
  /-- What the program may ask of the stores. -/
  grants : Stores → Access → Prop
  rely_refl : ∀ stores, rely stores stores
  rely_trans : ∀ {first second third}, rely first second → rely second third → rely first third

/-- Nothing in particular. -/
def anything {α : Type} : Stores → α → Prop :=
  fun _ _ => True

namespace Program

variable {α β : Type} {terms : Terms} {stores : Stores}

/-- Every access of the program is granted when it is made, whatever the others did before it, and
a value that the program ends with meets a condition. -/
def Obeys (terms : Terms) (post : Stores → α → Prop) : Program α → Stores → Prop
  | .done (.ok value), stores => post stores value
  | .done (.error _), _ => True
  | .access step next, stores =>
      ∀ later, terms.sound later → terms.rely stores later →
        terms.grants later step ∧
          (next (step.run later).1).Obeys terms post (step.run later).2
  | .perform _ next, stores => next.Obeys terms post stores

/-- What others do in the meantime does no harm. -/
theorem Obeys.later {program : Program α} {before after : Stores}
    (h : program.Obeys terms anything before) (hrely : terms.rely before after) :
    program.Obeys terms anything after := by
  induction program with
  | done outcome =>
      cases outcome with
      | ok value => exact trivial
      | error problem => exact trivial
  | access step next ih =>
      intro later hsound hlater
      exact h later hsound (terms.rely_trans hrely hlater)
  | perform effect next ih => exact ih h

theorem Obeys.bind {program : Program α} {next : α → Program β} {post : Stores → β → Prop}
    (h : program.Obeys terms (fun stores value => (next value).Obeys terms post stores) stores) :
    (program >>= next).Obeys terms post stores := by
  induction program generalizing stores with
  | done outcome =>
      cases outcome with
      | ok value => exact h
      | error problem => exact trivial
  | access step rest ih =>
      intro later hsound hrely
      obtain ⟨hgrants, hrest⟩ := h later hsound hrely
      exact ⟨hgrants, ih (step.run later).1 hrest⟩
  | perform effect rest ih => exact ih h

theorem Obeys.settle {program : Program α} {close : Except Problem α → β}
    (h : program.Obeys terms anything stores) :
    (program.settle close).Obeys terms anything stores := by
  induction program generalizing stores with
  | done outcome => exact trivial
  | access step next ih =>
      intro later hsound hrely
      obtain ⟨hgrants, hnext⟩ := h later hsound hrely
      exact ⟨hgrants, ih (step.run later).1 hnext⟩
  | perform effect next ih => exact ih h

theorem Obeys.performing {program : Program α} {effects : List Effect} {post : Stores → α → Prop}
    (h : program.Obeys terms post stores) :
    (program.performing effects).Obeys terms post stores := by
  induction effects with
  | nil => exact h
  | cons effect rest ih => exact ih

/-! ## Single things -/

variable {post : Stores → α → Prop}

theorem obeys_ofExcept {ε : Type} {problem : ε → Problem} {source : Except ε α}
    (h : ∀ value, source = .ok value → post stores value) :
    (ofExcept problem source).Obeys terms post stores := by
  cases source with
  | ok value => exact h value rfl
  | error fault => exact trivial

theorem obeys_permit {call : Call} {operation : Operation} {owner : Option Int64}
    {post : Stores → Unit → Prop}
    (h : authorize call.caller operation owner = .ok () → post stores ()) :
    (permit call operation owner).Obeys terms post stores := by
  unfold permit
  cases hdecision : authorize call.caller operation owner with
  | ok value => exact h hdecision
  | error denial => exact trivial

theorem obeys_identify {call : Call} {post : Stores → Identity → Prop}
    (h : ∀ identity, call.caller = some identity → post stores identity) :
    (identify call).Obeys terms post stores := by
  unfold identify
  cases hcaller : call.caller with
  | some identity => exact h identity hcaller
  | none => exact trivial

theorem obeys_found {id : Int64} {result : Option Restaurant} {post : Stores → Restaurant → Prop}
    (h : ∀ restaurant, result = some restaurant → post stores restaurant) :
    (found id result).Obeys terms post stores := by
  cases result with
  | some restaurant => exact h restaurant rfl
  | none => exact trivial

end Program

end FoodOrdering.Service
