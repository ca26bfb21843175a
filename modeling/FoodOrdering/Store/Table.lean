/-!
# Tables

Records under keys of an ordered type, always in ascending order of their keys and with no key
twice.
-/

namespace FoodOrdering

/-- The keys ascend. -/
def Ascending {κ α : Type} [LT κ] (entries : List (κ × α)) : Prop :=
  entries.Pairwise fun first second => first.1 < second.1

structure Table (κ α : Type) [LT κ] where
  entries : List (κ × α)
  ascending : Ascending entries

namespace Table

variable {κ α : Type} [LT κ] [DecidableEq κ] [DecidableLT κ]

def empty : Table κ α :=
  ⟨[], List.Pairwise.nil⟩

/-- Put a record under its key among ascending entries, in place of an earlier one. -/
def insertEntry (key : κ) (record : α) : List (κ × α) → List (κ × α)
  | [] => [(key, record)]
  | (other, kept) :: rest =>
      if key < other then (key, record) :: (other, kept) :: rest
      else if key = other then (key, record) :: rest
      else (other, kept) :: insertEntry key record rest

theorem mem_insertEntry {key : κ} {record : α} {entries : List (κ × α)} {entry : κ × α}
    (h : entry ∈ insertEntry key record entries) : entry = (key, record) ∨ entry ∈ entries := by
  induction entries with
  | nil => simpa [insertEntry] using h
  | cons head rest ih =>
      obtain ⟨other, kept⟩ := head
      simp only [insertEntry] at h
      split at h
      · simpa using h
      · split at h
        · rcases List.mem_cons.1 h with h | h
          · exact Or.inl h
          · exact Or.inr (List.mem_cons_of_mem _ h)
        · rcases List.mem_cons.1 h with h | h
          · exact Or.inr (h ▸ List.mem_cons_self ..)
          · rcases ih h with h | h
            · exact Or.inl h
            · exact Or.inr (List.mem_cons_of_mem _ h)

variable [LE κ] [Std.IsLinearOrder κ] [Std.LawfulOrderLT κ]

theorem ascending_insertEntry {entries : List (κ × α)} (key : κ) (record : α)
    (h : Ascending entries) : Ascending (insertEntry key record entries) := by
  induction entries with
  | nil => exact List.pairwise_singleton _ _
  | cons head rest ih =>
      obtain ⟨other, kept⟩ := head
      have hhead := (List.pairwise_cons.1 h).1
      have hrest := (List.pairwise_cons.1 h).2
      simp only [insertEntry]
      split
      next hlt =>
        refine List.pairwise_cons.2 ⟨?_, h⟩
        intro entry hentry
        rcases List.mem_cons.1 hentry with rfl | hentry
        · exact hlt
        · exact Std.lt_trans hlt (hhead entry hentry)
      next hnlt =>
        split
        next heq =>
          subst heq
          exact List.pairwise_cons.2 ⟨fun entry hentry => hhead entry hentry, hrest⟩
        next hne =>
          refine List.pairwise_cons.2 ⟨?_, ih hrest⟩
          intro entry hentry
          rcases mem_insertEntry hentry with rfl | hentry
          · exact Std.lt_of_le_of_ne (Std.not_lt.1 hnlt) (Ne.symm hne)
          · exact hhead entry hentry

/-- Put a record under its key, in place of an earlier one. -/
def insert (table : Table κ α) (key : κ) (record : α) : Table κ α :=
  ⟨insertEntry key record table.entries, ascending_insertEntry key record table.ascending⟩

def find? (table : Table κ α) (key : κ) : Option α :=
  (table.entries.find? fun entry => entry.1 = key).map Prod.snd

def contains (table : Table κ α) (key : κ) : Bool :=
  (table.find? key).isSome

/-- The records in ascending order of their keys. -/
def values (table : Table κ α) : List α :=
  table.entries.map Prod.snd

def size (table : Table κ α) : Nat :=
  table.entries.length

end Table

end FoodOrdering
