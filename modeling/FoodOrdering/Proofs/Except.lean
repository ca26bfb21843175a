/-!
# One check after another

A chain of checks goes on with what the one before it gave, and ends at the first failure.
-/

namespace FoodOrdering

variable {ε α β : Type}

theorem ok_bind (value : α) (next : α → Except ε β) : (.ok value >>= next) = next value :=
  rfl

theorem error_bind (fault : ε) (next : α → Except ε β) :
    (.error fault >>= next) = .error fault :=
  rfl

theorem bind_eq_ok_iff {first : Except ε α} {next : α → Except ε β} {result : β} :
    (first >>= next) = .ok result ↔ ∃ value, first = .ok value ∧ next value = .ok result := by
  cases first with
  | error fault =>
      constructor
      · intro h
        cases h
      · rintro ⟨_, h, _⟩
        cases h
  | ok value =>
      constructor
      · intro h
        exact ⟨value, rfl, h⟩
      · rintro ⟨_, h, hnext⟩
        cases h
        exact hnext

/-- A check of every value gives what the checks give, and each of them succeeded. -/
theorem mem_iff_of_mapM_eq_ok {check : α → Except ε β} {values : List α} {results : List β}
    (h : values.mapM check = .ok results) :
    (∀ value ∈ values, ∃ result, check value = .ok result) ∧
      ∀ result, result ∈ results ↔ ∃ value ∈ values, check value = .ok result := by
  induction values generalizing results with
  | nil =>
      cases h
      simp
  | cons first rest ih =>
      rw [List.mapM_cons, bind_eq_ok_iff] at h
      obtain ⟨result, hfirst, h⟩ := h
      obtain ⟨others, hothers, h⟩ := bind_eq_ok_iff.1 h
      cases h
      obtain ⟨hall, hmem⟩ := ih hothers
      refine ⟨List.forall_mem_cons.2 ⟨⟨result, hfirst⟩, hall⟩, fun other => ?_⟩
      simp only [List.mem_cons, or_and_right, exists_or, exists_eq_left, hfirst, hmem,
        Except.ok.injEq, @eq_comm _ other result]

theorem eq_ok_of_toOption {first : Except ε α} {value : α} (h : first.toOption = some value) :
    first = .ok value := by
  cases first with
  | error fault => cases h
  | ok other =>
      cases h
      rfl

end FoodOrdering
