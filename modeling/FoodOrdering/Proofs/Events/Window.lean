import FoodOrdering.Events.Listener
import Mathlib.Data.List.DropRight
import Mathlib.Data.List.Nodup
import Std.Data.HashSet.Lemmas

/-!
# Keys in a window

A window knows no key but those that were added to it.  Its set and its queue hold the same keys,
and its queue is what was added last.
-/

namespace FoodOrdering.Window

section Known

variable {α : Type} [BEq α] [Hashable α] [EquivBEq α] [LawfulHashable α]

theorem contains_of_dropOldest {window : Window α} {key : α}
    (h : window.dropOldest.contains key = true) : window.contains key = true := by
  have herase : ∀ oldest : α, (window.seen.erase oldest).contains key = true →
      window.contains key = true := by
    intro oldest hkept
    rw [Std.HashSet.contains_erase, Bool.and_eq_true] at hkept
    exact hkept.2
  unfold dropOldest at h
  split at h
  next oldest front _ => exact herase oldest h
  next =>
    split at h
    next oldest front _ => exact herase oldest h
    next => exact h

theorem contains_of_push {window : Window α} {limit : Nat} {added key : α}
    (h : (window.push limit added).contains key = true) :
    (added == key) = true ∨ window.contains key = true := by
  unfold push at h
  have hinsert : (window.seen.insert added).contains key = true →
      (added == key) = true ∨ window.contains key = true := by
    rw [Std.HashSet.contains_insert, Bool.or_eq_true]
    exact id
  dsimp only at h
  split at h
  · exact hinsert (contains_of_dropOldest h)
  · exact hinsert h

end Known

/-! ## The set and the queue -/

section Coherence

variable {α : Type} [BEq α] [Hashable α]

/-- The set holds the keys of the queue, none of which stands there twice. -/
structure Coherent (window : Window α) : Prop where
  contains_iff : ∀ key, window.contains key = true ↔ key ∈ window.toList
  nodup : window.toList.Nodup
  size_eq : window.size = window.toList.length

/-- A window with one more key, however many it holds. -/
def extend (window : Window α) (key : α) : Window α :=
  { seen := window.seen.insert key
    front := window.front
    back := key :: window.back
    size := window.size + 1 }

theorem push_eq (limit : Nat) (window : Window α) (key : α) :
    window.push limit key =
      if limit < window.size + 1 then (window.extend key).dropOldest else window.extend key :=
  rfl

@[simp]
theorem toList_empty : (empty : Window α).toList = [] := rfl

@[simp]
theorem toList_extend (window : Window α) (key : α) :
    (window.extend key).toList = window.toList ++ [key] := by
  simp [extend, toList]

/-- What is forgotten is the first key of the queue. -/
theorem dropOldest_of_toList {window : Window α} {oldest : α} {rest : List α}
    (h : window.toList = oldest :: rest) :
    window.dropOldest.toList = rest ∧ window.dropOldest.seen = window.seen.erase oldest ∧
      window.dropOldest.size = window.size - 1 := by
  unfold toList at h
  unfold dropOldest
  split
  next first front hfront =>
    rw [hfront, List.cons_append] at h
    cases h
    exact ⟨rfl, rfl, rfl⟩
  next hfront =>
    rw [hfront, List.nil_append] at h
    rw [h]
    exact ⟨List.append_nil rest, rfl, rfl⟩

theorem exists_toList_extend (window : Window α) (key : α) :
    ∃ oldest rest, (window.extend key).toList = oldest :: rest :=
  List.exists_cons_of_ne_nil (by simp)

theorem coherent_empty : (empty : Window α).Coherent where
  contains_iff key := by
    rw [toList_empty, contains, empty, Std.HashSet.contains_empty]
    simp
  nodup := List.nodup_nil
  size_eq := rfl

variable {window : Window α} {limit : Nat} {key : α}

/-- A window that is not too long keeps the keys that were added last. -/
theorem Coherent.toList_push (h : window.Coherent) (hshort : window.toList.length ≤ limit) :
    (window.push limit key).toList = (window.toList ++ [key]).rtake limit := by
  have hlength : (window.toList ++ [key]).length = window.toList.length + 1 :=
    List.length_append
  rw [push_eq, h.size_eq, List.rtake, hlength]
  split
  next hlong =>
    obtain ⟨oldest, rest, hlist⟩ := exists_toList_extend window key
    have hone : window.toList.length + 1 - limit = 1 := by omega
    rw [(dropOldest_of_toList hlist).1, hone, ← toList_extend, hlist]
    rfl
  next hfits =>
    have hnone : window.toList.length + 1 - limit = 0 := by omega
    rw [toList_extend, hnone]
    rfl

omit [BEq α] [Hashable α] in
theorem rtake_rtake_append (limit : Nat) (keys : List α) (key : α) :
    (keys.rtake limit ++ [key]).rtake limit = (keys ++ [key]).rtake limit := by
  cases limit with
  | zero => rw [List.rtake_zero, List.rtake_zero]
  | succ limit =>
      rw [List.rtake_concat_succ, List.rtake_concat_succ]
      simp only [List.rtake_eq_reverse_take_reverse, List.reverse_reverse, List.take_take,
        Nat.min_eq_left (Nat.le_succ limit)]

/-- If a window holds the last of some keys, it holds the last of them and the new one. -/
theorem Coherent.toList_push_of_rtake (h : window.Coherent) {keys : List α}
    (hkeys : window.toList = keys.rtake limit) :
    (window.push limit key).toList = (keys ++ [key]).rtake limit := by
  have hshort : window.toList.length ≤ limit := by
    rw [hkeys, List.rtake, List.length_drop]
    omega
  rw [h.toList_push hshort, hkeys, rtake_rtake_append]

variable [LawfulBEq α] [LawfulHashable α]

theorem Coherent.extend (h : window.Coherent) (hnew : key ∉ window.toList) :
    (window.extend key).Coherent where
  contains_iff other := by
    have hinsert : (window.extend key).contains other = (key == other || window.contains other) :=
      Std.HashSet.contains_insert
    rw [hinsert, toList_extend, Bool.or_eq_true, beq_iff_eq, h.contains_iff, List.mem_append,
      List.mem_singleton, or_comm, eq_comm]
  nodup := by
    rw [toList_extend]
    refine List.nodup_append.2 ⟨h.nodup, List.nodup_singleton key, ?_⟩
    rintro kept hkept _ hkey rfl
    exact hnew (List.mem_singleton.1 hkey ▸ hkept)
  size_eq := by
    rw [toList_extend, List.length_append, ← h.size_eq]
    rfl

theorem Coherent.dropOldest (h : window.Coherent) {oldest : α} {rest : List α}
    (hlist : window.toList = oldest :: rest) : window.dropOldest.Coherent := by
  obtain ⟨hrest, hseen, hsize⟩ := dropOldest_of_toList hlist
  have hnodup := h.nodup
  rw [hlist, List.nodup_cons] at hnodup
  constructor
  · intro other
    have herase : window.dropOldest.contains other =
        (!(oldest == other) && window.contains other) := by
      rw [contains, hseen]
      exact Std.HashSet.contains_erase
    rw [herase, hrest, Bool.and_eq_true, h.contains_iff, hlist, List.mem_cons, Bool.not_eq_true',
      beq_eq_false_iff_ne]
    constructor
    · rintro ⟨hne, rfl | hmem⟩
      · exact absurd rfl hne
      · exact hmem
    · intro hmem
      refine ⟨?_, Or.inr hmem⟩
      rintro rfl
      exact hnodup.1 hmem
  · rw [hrest]
    exact hnodup.2
  · rw [hsize, hrest, h.size_eq, hlist]
    rfl

/-- A key that is not there yet comes in, whether or not the oldest one has to go. -/
theorem Coherent.push (h : window.Coherent) (hnew : key ∉ window.toList) :
    (window.push limit key).Coherent := by
  rw [push_eq]
  split
  · obtain ⟨oldest, rest, hlist⟩ := exists_toList_extend window key
    exact (h.extend hnew).dropOldest hlist
  · exact h.extend hnew

end Coherence

end FoodOrdering.Window
