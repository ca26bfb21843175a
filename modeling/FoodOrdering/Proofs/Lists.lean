import Mathlib.Data.List.Basic

/-!
# What is gathered from a list

A list may get one entry more at either end.
-/

namespace FoodOrdering

variable {α β : Type}

theorem filterMap_cons_eq (f : α → Option β) (x : α) (xs : List α) :
    (x :: xs).filterMap f = (f x).toList ++ xs.filterMap f := by
  simp only [List.filterMap_eq_flatMap_toList, List.flatMap_cons]

theorem filterMap_concat (f : α → Option β) (xs : List α) (x : α) :
    (xs ++ [x]).filterMap f = xs.filterMap f ++ (f x).toList := by
  rw [List.filterMap_append, filterMap_cons_eq]
  exact congrArg (xs.filterMap f ++ ·) (List.append_nil _)

/-- An entry of a list with one more is the last one, or was there before. -/
theorem concat_eq_append_cons {xs before after : List α} {last x : α}
    (h : xs ++ [last] = before ++ x :: after) :
    (after = [] ∧ xs = before ∧ last = x) ∨
      ∃ others, after = others ++ [last] ∧ xs = before ++ x :: others := by
  rcases List.eq_nil_or_concat after with rfl | ⟨others, final, rfl⟩
  · obtain ⟨hxs, hlast⟩ := List.append_inj' h rfl
    exact Or.inl ⟨rfl, hxs, List.singleton_inj.1 hlast⟩
  · have hends : xs ++ [last] = (before ++ x :: others) ++ [final] := by simpa using h
    obtain ⟨hxs, hlast⟩ := List.append_inj' hends rfl
    cases List.singleton_inj.1 hlast
    exact Or.inr ⟨others, List.concat_eq_append, hxs⟩

end FoodOrdering
