import FoodOrdering.Text.Segments

/-!
# Segments of a text

The segments of a text are what stands between its separators, so they have no separator, and with
separators put in front of them they are the text again.
-/

namespace FoodOrdering.Text

variable {separator : Char}

theorem flatMap_segments (separator : Char) (text : List Char) :
    (segments separator text).flatMap (fun segment => separator :: segment) =
      separator :: text := by
  induction text with
  | nil => rfl
  | cons c rest ih =>
      by_cases h : c = separator
      · subst h
        simpa [segments] using ih
      · cases hs : segments separator rest with
        | nil => exact absurd hs (segments_ne_nil separator rest)
        | cons first others =>
            rw [hs] at ih
            simp only [List.flatMap_cons, List.cons_append, List.cons.injEq, true_and] at ih
            simp [segments, h, hs, ih]

theorem mem_of_mem_segments {text segment : List Char} (h : segment ∈ segments separator text)
    {c : Char} (hc : c ∈ segment) : c ∈ text ∧ c ≠ separator := by
  induction text generalizing segment with
  | nil =>
      rw [List.mem_singleton.1 h] at hc
      cases hc
  | cons d rest ih =>
      simp only [segments] at h
      split at h
      next heq =>
        rcases List.mem_cons.1 h with rfl | h
        · cases hc
        · exact ⟨List.mem_cons_of_mem _ (ih h hc).1, (ih h hc).2⟩
      next hne =>
        split at h
        next hs => exact absurd hs (segments_ne_nil separator rest)
        next first others hs =>
          rcases List.mem_cons.1 h with rfl | h
          · rcases List.mem_cons.1 hc with rfl | hc
            · exact ⟨List.mem_cons_self, hne⟩
            · have hold := ih (hs ▸ List.mem_cons_self) hc
              exact ⟨List.mem_cons_of_mem _ hold.1, hold.2⟩
          · have hold := ih (hs ▸ List.mem_cons_of_mem _ h) hc
            exact ⟨List.mem_cons_of_mem _ hold.1, hold.2⟩

theorem segments_of_notMem {segment : List Char} (h : separator ∉ segment) :
    segments separator segment = [segment] := by
  induction segment with
  | nil => rfl
  | cons c rest ih =>
      rw [List.mem_cons, not_or] at h
      simp [segments, Ne.symm h.1, ih h.2]

/-- Segments that are put together come apart again. -/
theorem segments_drop_flatMap {list : List (List Char)} (hne : list ≠ [])
    (h : ∀ segment ∈ list, separator ∉ segment) :
    segments separator ((list.flatMap fun segment => separator :: segment).drop 1) = list := by
  induction list with
  | nil => exact absurd rfl hne
  | cons first rest ih =>
      rw [List.forall_mem_cons] at h
      cases rest with
      | nil => simpa using segments_of_notMem h.1
      | cons second rest =>
          have hrest := ih (by simp) h.2
          simp only [List.flatMap_cons, List.cons_append, List.drop_succ_cons, List.drop_zero]
            at hrest ⊢
          rw [segments_append_cons, segments_of_notMem h.1, hrest, List.singleton_append]

/-- Every segment stands in the text as it is. -/
theorem isInfix_of_mem_segments {text segment : List Char}
    (h : segment ∈ segments separator text) : segment <:+: separator :: text := by
  obtain ⟨before, behind, hsplit⟩ := List.append_of_mem h
  rw [← flatMap_segments separator text, hsplit, List.flatMap_append, List.flatMap_cons]
  exact ⟨before.flatMap (fun segment => separator :: segment) ++ [separator],
    behind.flatMap (fun segment => separator :: segment), by simp⟩

end FoodOrdering.Text
