import FoodOrdering.Store.Table

/-!
# What a table finds

Putting a record under a key changes what is found under that key and nothing else.
-/

namespace FoodOrdering.Table

variable {κ α : Type} [LT κ] [DecidableEq κ] [DecidableLT κ]

theorem find?_insertEntry_self (key : κ) (record : α) (entries : List (κ × α)) :
    ((insertEntry key record entries).find? fun entry => entry.1 = key) =
      some (key, record) := by
  induction entries with
  | nil => exact List.find?_cons_of_pos (decide_eq_true rfl)
  | cons head rest ih =>
      obtain ⟨other, kept⟩ := head
      unfold insertEntry
      split
      · exact List.find?_cons_of_pos (decide_eq_true rfl)
      · split
        · exact List.find?_cons_of_pos (decide_eq_true rfl)
        next hne =>
          have hother : ¬ other = key := fun heq => hne heq.symm
          rw [List.find?_cons_of_neg (by simpa using hother)]
          exact ih

theorem find?_insertEntry_of_ne {key wanted : κ} (record : α) (entries : List (κ × α))
    (h : wanted ≠ key) :
    ((insertEntry key record entries).find? fun entry => entry.1 = wanted) =
      entries.find? fun entry => entry.1 = wanted := by
  have hkey : ¬ key = wanted := fun heq => h heq.symm
  induction entries with
  | nil => exact List.find?_cons_of_neg (by simpa using hkey)
  | cons head rest ih =>
      obtain ⟨other, kept⟩ := head
      unfold insertEntry
      split
      · exact List.find?_cons_of_neg (by simpa using hkey)
      · split
        next heq =>
          subst heq
          rw [List.find?_cons_of_neg (by simpa using hkey),
            List.find?_cons_of_neg (by simpa using hkey)]
        next =>
          rw [List.find?_cons, List.find?_cons, ih]

variable [LE κ] [Std.IsLinearOrder κ] [Std.LawfulOrderLT κ]

theorem find?_insert_self (table : Table κ α) (key : κ) (record : α) :
    (table.insert key record).find? key = some record := by
  rw [find?, insert, find?_insertEntry_self]
  rfl

theorem find?_insert_of_ne (table : Table κ α) {key wanted : κ} (record : α)
    (h : wanted ≠ key) : (table.insert key record).find? wanted = table.find? wanted := by
  unfold find? insert
  rw [find?_insertEntry_of_ne record table.entries h]

/-- What is found after an insertion is the new record, or it was there before. -/
theorem find?_insert_eq_some {table : Table κ α} {key wanted : κ} {record found : α}
    (h : (table.insert key record).find? wanted = some found) :
    (wanted = key ∧ found = record) ∨ (wanted ≠ key ∧ table.find? wanted = some found) := by
  by_cases heq : wanted = key
  · subst heq
    rw [find?_insert_self] at h
    exact Or.inl ⟨rfl, (Option.some.inj h).symm⟩
  · rw [find?_insert_of_ne table record heq] at h
    exact Or.inr ⟨heq, h⟩

omit [DecidableLT κ] [Std.IsLinearOrder κ] in
/-- What is found under a key is what lies there, since no key occurs twice. -/
theorem find?_eq_some_iff {table : Table κ α} {key : κ} {record : α} :
    table.find? key = some record ↔ (key, record) ∈ table.entries := by
  obtain ⟨entries, hascending⟩ := table
  unfold find?
  dsimp only
  induction entries with
  | nil => exact iff_of_false nofun nofun
  | cons head rest ih =>
      obtain ⟨other, kept⟩ := head
      obtain ⟨hhead, hrest⟩ := List.pairwise_cons.1 hascending
      by_cases heq : other = key
      · subst heq
        rw [List.find?_cons_of_pos (by simp), List.mem_cons]
        constructor
        · intro h
          cases h
          exact Or.inl rfl
        · rintro (hsame | hbehind)
          · cases hsame
            rfl
          · exact absurd (hhead (other, record) hbehind) (Std.lt_irrefl)
      · rw [List.find?_cons_of_neg (by simpa using heq), ih hrest, List.mem_cons]
        constructor
        · exact Or.inr
        · rintro (hsame | hbehind)
          · cases hsame
            exact absurd rfl heq
          · exact hbehind

omit [DecidableEq κ] [DecidableLT κ] [Std.IsLinearOrder κ] in
/-- No two records lie under one key. -/
theorem nodup_keys (table : Table κ α) : (table.entries.map Prod.fst).Nodup := by
  refine List.pairwise_map.2 (table.ascending.imp ?_)
  intro first second hless heq
  exact Std.lt_irrefl (heq ▸ hless)

end FoodOrdering.Table
