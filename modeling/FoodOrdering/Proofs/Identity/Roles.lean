import FoodOrdering.Identity.Basic
import Mathlib.Data.List.Induction

/-!
# Lists of roles without repetition

Reading a list of roles gives each role once, so making it distinct once more changes nothing.
Behind other roles only those are kept that are new.
-/

namespace FoodOrdering.Role

theorem foldl_addNew_of_nodup {start roles : List Role} (h : (start ++ roles).Nodup) :
    roles.foldl addNew start = start ++ roles := by
  induction roles generalizing start with
  | nil => exact (List.append_nil start).symm
  | cons first rest ih =>
      have hnew : first ∉ start := by
        intro hmem
        exact (List.nodup_append.1 h).2.2 first hmem first List.mem_cons_self rfl
      have hstep : addNew start first = start ++ [first] := if_neg hnew
      rw [List.foldl_cons, hstep, ih, List.append_assoc]
      · rfl
      · rwa [List.append_assoc]

theorem distinct_of_nodup {roles : List Role} (h : roles.Nodup) : distinct roles = roles :=
  foldl_addNew_of_nodup h

/-- The first role stays in front. -/
theorem head?_foldl_addNew {start : List Role} (roles : List Role) (h : start ≠ []) :
    (roles.foldl addNew start).head? = start.head? := by
  induction roles generalizing start with
  | nil => rfl
  | cons role rest ih =>
      have hfront : (addNew start role).head? = start.head? := by
        unfold addNew
        split
        · rfl
        · obtain ⟨front, others, rfl⟩ := List.exists_cons_of_ne_nil h
          rfl
      have hne : addNew start role ≠ [] := by
        unfold addNew
        split
        · exact h
        · exact List.append_ne_nil_of_left_ne_nil h _
      exact (ih hne).trans hfront

@[simp]
theorem head?_distinct (roles : List Role) : (distinct roles).head? = roles.head? := by
  cases roles with
  | nil => rfl
  | cons first rest => exact head?_foldl_addNew rest (List.cons_ne_nil first [])

@[simp]
theorem readList_empty : readList "" = [] := by
  decide

@[simp]
theorem distinct_readList (text : String) : distinct (readList text) = readList text :=
  distinct_of_nodup (nodup_distinct _)

theorem distinct_concat (roles : List Role) (role : Role) :
    distinct (roles ++ [role]) = addNew (distinct roles) role := by
  rw [distinct, List.foldl_append]
  rfl

theorem foldl_addNew (start roles : List Role) :
    roles.foldl addNew start = start ++ (distinct roles).filter fun role => role ∉ start := by
  induction roles using List.reverseRecOn with
  | nil => exact (List.append_nil start).symm
  | append_singleton roles role ih =>
      rw [List.foldl_append, ih, distinct_concat]
      show addNew _ role = _
      by_cases hold : role ∈ distinct roles
      · have hmem : role ∈ start ++ (distinct roles).filter fun role => role ∉ start := by
          by_cases hstart : role ∈ start <;> simp [hold, hstart, -mem_distinct]
        rw [addNew, addNew, if_pos hmem, if_pos hold]
      · rw [addNew, addNew, if_neg hold, List.filter_append]
        by_cases hstart : role ∈ start
        · rw [if_pos (List.mem_append_left _ hstart)]
          simp [hstart]
        · rw [if_neg (by simp [hstart, mem_distinct.not.1 hold])]
          simp [hstart]

theorem distinct_append (first second : List Role) :
    distinct (first ++ second) =
      distinct first ++ (distinct second).filter fun role => role ∉ distinct first := by
  rw [distinct, List.foldl_append]
  exact foldl_addNew (distinct first) second

/-- The repetitions that are dropped are the later ones. -/
theorem distinct_eq_eraseDups (roles : List Role) : distinct roles = roles.eraseDups := by
  induction roles using List.reverseRecOn with
  | nil => rfl
  | append_singleton roles role ih =>
      rw [distinct_concat, ih, List.eraseDups_append, addNew]
      by_cases hold : role ∈ roles
      · rw [if_pos (List.mem_eraseDups.2 hold)]
        simp [List.removeAll, hold]
      · have hnew : [role].removeAll roles = [role] := by simp [List.removeAll, hold]
        rw [if_neg (List.mem_eraseDups.not.2 hold), hnew]
        rfl

end FoodOrdering.Role
