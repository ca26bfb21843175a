import FoodOrdering.Proofs.Store.WellFormed
import Mathlib.Data.List.Nodup

/-!
# Records in the order of their ids

A table whose records come in under the next ids holds them in the order in which they came in, and
a record that is updated stays where it is.  So the table holds the records that came in, each of
them as its last update left it.
-/

namespace FoodOrdering

namespace Table

variable {α : Type} {entries : List (Int64 × α)} {key : Int64}

theorem insertEntry_of_forall_lt (record : α) (h : ∀ entry ∈ entries, entry.1 < key) :
    insertEntry key record entries = entries ++ [(key, record)] := by
  induction entries with
  | nil => rfl
  | cons head rest ih =>
      obtain ⟨other, kept⟩ := head
      have hless : other < key := h (other, kept) List.mem_cons_self
      have hnot : ¬ key < other := Std.not_lt.2 (Std.le_of_lt hless)
      have hne : key ≠ other := fun heq => Std.lt_irrefl (heq ▸ hless)
      rw [insertEntry, if_neg hnot, if_neg hne,
        ih fun entry hentry => h entry (List.mem_cons_of_mem _ hentry)]
      rfl

/-- A record that is put under a key in use stands in the place of the earlier one. -/
theorem insertEntry_of_mem {old : α} (record : α) (hascending : Ascending entries)
    (hmem : (key, old) ∈ entries) :
    insertEntry key record entries =
      entries.map fun entry => if entry.1 = key then (key, record) else entry := by
  induction entries with
  | nil => cases hmem
  | cons head rest ih =>
      obtain ⟨other, kept⟩ := head
      obtain ⟨hhead, hrest⟩ := List.pairwise_cons.1 hascending
      rw [insertEntry, List.map_cons]
      rcases List.mem_cons.1 hmem with hsame | hbehind
      · cases hsame
        have hkeep : (rest.map fun entry => if entry.1 = key then (key, record) else entry) =
            rest := by
          refine (List.map_congr_left fun entry hentry => ?_).trans rest.map_id
          rw [if_neg fun heq => Std.lt_irrefl (heq ▸ hhead entry hentry)]
          rfl
        rw [if_neg Std.lt_irrefl, if_pos rfl, if_pos rfl, hkeep]
      · have hless : other < key := hhead (key, old) hbehind
        have hne : other ≠ key := fun heq => Std.lt_irrefl (heq ▸ hless)
        rw [if_neg (Std.not_lt.2 (Std.le_of_lt hless)), if_neg hne.symm, if_neg hne,
          ih hrest hbehind]

/-- The table holds these records, and their ids are one, two, three and so on. -/
structure Holds (table : Table Int64 α) (idOf : α → Int64) (records : List α) (last : Int64) :
    Prop where
  entries : table.entries = records.map fun record => (idOf record, record)
  ids : records.map (fun record => (idOf record).toInt) =
    (List.range records.length).map fun count : Nat => (count : Int) + 1
  last : last.toInt = records.length

variable {table : Table Int64 α} {idOf : α → Int64} {records : List α} {last : Int64}

theorem holds_empty : (empty : Table Int64 α).Holds idOf [] 0 :=
  ⟨rfl, rfl, rfl⟩

theorem Holds.values_eq (h : table.Holds idOf records last) : table.values = records := by
  rw [values, h.entries, List.map_map]
  exact List.map_id records

/-- The records stand in the order of their ids. -/
theorem Holds.pairwise_lt (h : table.Holds idOf records last) :
    records.Pairwise fun first second => idOf first < idOf second := by
  have hascending := table.ascending
  rw [h.entries, Ascending, List.pairwise_map] at hascending
  exact hascending

theorem Holds.toInt_id_le (h : table.Holds idOf records last) {record : α}
    (hrecord : record ∈ records) :
    1 ≤ (idOf record).toInt ∧ (idOf record).toInt ≤ records.length := by
  have hmem : (idOf record).toInt ∈ records.map fun record => (idOf record).toInt :=
    List.mem_map_of_mem hrecord
  rw [h.ids] at hmem
  obtain ⟨count, hcount, hid⟩ := List.mem_map.1 hmem
  have := List.mem_range.1 hcount
  omega

/-- No two records have one id. -/
theorem Holds.nodup_ids (h : table.Holds idOf records last) : (records.map idOf).Nodup := by
  have hnodup : (records.map fun record => (idOf record).toInt).Nodup := by
    rw [h.ids]
    refine List.Nodup.map ?_ List.nodup_range
    intro first second heq
    dsimp only at heq
    omega
  have hmap : (records.map fun record => (idOf record).toInt) =
      (records.map idOf).map Int64.toInt := by
    rw [List.map_map]
    rfl
  rw [hmap] at hnodup
  exact List.Nodup.of_map _ hnodup

theorem Holds.find?_eq_some_iff (h : table.Holds idOf records last) {record : α} :
    table.find? key = some record ↔ record ∈ records ∧ idOf record = key := by
  rw [Table.find?_eq_some_iff, h.entries, List.mem_map]
  constructor
  · rintro ⟨found, hmem, hfound⟩
    cases hfound
    exact ⟨hmem, rfl⟩
  · rintro ⟨hmem, rfl⟩
    exact ⟨record, hmem, rfl⟩

/-- One more record under the next id. -/
theorem Holds.insert_next (h : table.Holds idOf records last) {record : α}
    (hid : idOf record = last + 1) (hroom : records.length + 1 < idLimit) :
    (table.insert (last + 1) record).Holds idOf (records ++ [record]) (last + 1) := by
  have hroom : records.length + 1 < 0x8000000000000000 := hroom
  have hlast := h.last
  have hnext : (last + 1).toInt = records.length + 1 := by
    rw [toInt_next (by omega) (by omega), hlast]
  constructor
  · show insertEntry (last + 1) record table.entries = _
    rw [h.entries, insertEntry_of_forall_lt, List.map_append, List.map_singleton, hid]
    intro entry hentry
    obtain ⟨earlier, hearlier, rfl⟩ := List.mem_map.1 hentry
    have := h.toInt_id_le hearlier
    rw [Int64.lt_iff_toInt_lt]
    dsimp only
    omega
  · rw [List.map_append, h.ids, List.length_append, List.length_singleton, List.range_succ,
      List.map_append, List.map_singleton, List.map_singleton, hid, hnext]
  · rw [List.length_append, List.length_singleton, hnext]
    omega

/-- A record that is there is changed, and keeps its id. -/
theorem Holds.insert_known (h : table.Holds idOf records last) {change : α → α} {old : α}
    (hkeeps : ∀ record, idOf (change record) = idOf record) (hold : table.find? key = some old) :
    (table.insert key (change old)).Holds idOf
      (records.map fun record => if idOf record = key then change record else record) last := by
  obtain ⟨hmem, rfl⟩ := h.find?_eq_some_iff.1 hold
  have hsame : ∀ record, idOf (if idOf record = idOf old then change record else record) =
      idOf record := by
    intro record
    split
    · exact hkeeps record
    · rfl
  constructor
  · show insertEntry (idOf old) (change old) table.entries = _
    rw [insertEntry_of_mem _ table.ascending (Table.find?_eq_some_iff.1 hold), h.entries,
      List.map_map, List.map_map]
    refine List.map_congr_left fun record hrecord => ?_
    show (if idOf record = idOf old then (idOf old, change old) else (idOf record, record)) =
      (idOf (if idOf record = idOf old then change record else record),
        if idOf record = idOf old then change record else record)
    by_cases heq : idOf record = idOf old
    · -- No two records have one id, so that this one is the old one.
      obtain rfl := List.inj_on_of_nodup_map h.nodup_ids hrecord hmem heq
      rw [if_pos rfl, if_pos rfl, hkeeps]
    · rw [if_neg heq, if_neg heq]
  · rw [List.map_map, List.length_map, ← h.ids]
    exact List.map_congr_left fun record _ => congrArg Int64.toInt (hsame record)
  · rw [h.last, List.length_map]

end Table

/-! ## Updates -/

section Updates

variable {α β : Type} {idOf : α → Int64} {overlay : α → β → α}

/-- A record as the last of its updates left it. -/
def asUpdated (overlay : α → β → α) (record : α) (updates : List β) : α :=
  (updates.getLast?.map (overlay record)).getD record

/-- The records that came in, each of them as the last update under its id left it. -/
def overlaid (idOf : α → Int64) (overlay : α → β → α) (inserted : List α)
    (updates : Int64 → List β) : List α :=
  inserted.map fun record => asUpdated overlay record (updates (idOf record))

/-- An update leaves the id as it is, and nothing of an earlier update. -/
structure IsOverlay (idOf : α → Int64) (overlay : α → β → α) : Prop where
  id_eq : ∀ record update, idOf (overlay record update) = idOf record
  again : ∀ record earlier update,
    overlay (overlay record earlier) update = overlay record update

theorem IsOverlay.idOf_asUpdated (h : IsOverlay idOf overlay) (record : α) (updates : List β) :
    idOf (asUpdated overlay record updates) = idOf record := by
  unfold asUpdated
  cases updates.getLast? with
  | none => rfl
  | some update => exact h.id_eq record update

theorem IsOverlay.asUpdated_concat (h : IsOverlay idOf overlay) (record : α) (updates : List β)
    (update : β) :
    asUpdated overlay record (updates ++ [update]) =
      overlay (asUpdated overlay record updates) update := by
  have hlast : asUpdated overlay record (updates ++ [update]) = overlay record update := by
    rw [asUpdated, List.getLast?_concat]
    rfl
  rw [hlast, asUpdated]
  cases updates.getLast? with
  | none => rfl
  | some earlier => exact (h.again record earlier update).symm

theorem IsOverlay.map_idOf_overlaid (h : IsOverlay idOf overlay) (inserted : List α)
    (updates : Int64 → List β) :
    (overlaid idOf overlay inserted updates).map idOf = inserted.map idOf := by
  rw [overlaid, List.map_map]
  exact List.map_congr_left fun record _ => h.idOf_asUpdated record _

theorem overlaid_concat {record : α} (inserted : List α) {updates : Int64 → List β}
    (hnone : updates (idOf record) = []) :
    overlaid idOf overlay (inserted ++ [record]) updates =
      overlaid idOf overlay inserted updates ++ [record] := by
  rw [overlaid, List.map_append, List.map_singleton, hnone]
  rfl

/-- The updates with one more of them under a key. -/
def updatedAt (updates : Int64 → List β) (key : Int64) (update : β) (id : Int64) : List β :=
  updates id ++ (if key = id then some update else none).toList

/-- One more update changes the record with its key and no other one. -/
theorem IsOverlay.overlaid_updatedAt (h : IsOverlay idOf overlay) (inserted : List α)
    (updates : Int64 → List β) (key : Int64) (update : β) :
    overlaid idOf overlay inserted (updatedAt updates key update) =
      (overlaid idOf overlay inserted updates).map fun record =>
        if idOf record = key then overlay record update else record := by
  rw [overlaid, overlaid, List.map_map]
  refine List.map_congr_left fun record _ => ?_
  dsimp only [Function.comp, updatedAt]
  rw [h.idOf_asUpdated]
  by_cases heq : key = idOf record
  · rw [if_pos heq, if_pos heq.symm]
    exact h.asUpdated_concat record _ update
  · rw [if_neg heq, if_neg (Ne.symm heq), Option.toList_none, List.append_nil]

variable {table : Table Int64 α} {last : Int64} {inserted : List α} {updates : Int64 → List β}

/-- The table holds what came in, as it was updated, and nothing was updated that is not there. -/
structure Table.Tracks (table : Table Int64 α) (idOf : α → Int64) (overlay : α → β → α)
    (last : Int64) (inserted : List α) (updates : Int64 → List β) : Prop where
  holds : table.Holds idOf (overlaid idOf overlay inserted updates) last
  named : ∀ id, updates id ≠ [] → ∃ record ∈ inserted, idOf record = id

theorem Table.tracks_empty : (empty : Table Int64 α).Tracks idOf overlay 0 [] fun _ => [] where
  holds := holds_empty
  named _ h := absurd rfl h

/-- Under a key lies the record that came in under it, as it was updated. -/
theorem Table.Tracks.find?_eq_some_iff (h : table.Tracks idOf overlay last inserted updates)
    (hoverlay : IsOverlay idOf overlay) {key : Int64} {record : α} :
    table.find? key = some record ↔
      ∃ origin ∈ inserted, idOf origin = key ∧
        record = asUpdated overlay origin (updates key) := by
  rw [h.holds.find?_eq_some_iff, overlaid, List.mem_map]
  constructor
  · rintro ⟨⟨origin, hmem, rfl⟩, hid⟩
    rw [hoverlay.idOf_asUpdated] at hid
    exact ⟨origin, hmem, hid, hid ▸ rfl⟩
  · rintro ⟨origin, hmem, rfl, rfl⟩
    exact ⟨⟨origin, hmem, rfl⟩, hoverlay.idOf_asUpdated origin _⟩

theorem Table.Tracks.exists_find?_iff (h : table.Tracks idOf overlay last inserted updates)
    (hoverlay : IsOverlay idOf overlay) {key : Int64} :
    (∃ record, table.find? key = some record) ↔ ∃ origin ∈ inserted, idOf origin = key := by
  constructor
  · rintro ⟨record, hfound⟩
    obtain ⟨origin, hmem, hid, -⟩ := (h.find?_eq_some_iff hoverlay).1 hfound
    exact ⟨origin, hmem, hid⟩
  · rintro ⟨origin, hmem, hid⟩
    exact ⟨_, (h.find?_eq_some_iff hoverlay).2 ⟨origin, hmem, hid, rfl⟩⟩

/-- What came in was given the ids one, two, three and so on. -/
theorem Table.Tracks.ids_eq (h : table.Tracks idOf overlay last inserted updates)
    (hoverlay : IsOverlay idOf overlay) :
    inserted.map (fun record => (idOf record).toInt) =
      (List.range inserted.length).map fun count : Nat => (count : Int) + 1 := by
  have hids := h.holds.ids
  rw [overlaid, List.length_map, List.map_map] at hids
  rw [← hids]
  exact List.map_congr_left fun record _ =>
    congrArg Int64.toInt (hoverlay.idOf_asUpdated record _).symm

theorem Table.Tracks.find?_eq_none_iff (h : table.Tracks idOf overlay last inserted updates)
    (hoverlay : IsOverlay idOf overlay) {key : Int64} :
    table.find? key = none ↔ ∀ origin ∈ inserted, idOf origin ≠ key := by
  rw [Option.eq_none_iff_forall_ne_some]
  constructor
  · intro hnone origin hmem hid
    obtain ⟨record, hfound⟩ := (h.exists_find?_iff hoverlay).2 ⟨origin, hmem, hid⟩
    exact hnone record hfound
  · intro hnone record hfound
    obtain ⟨origin, hmem, hid⟩ := (h.exists_find?_iff hoverlay).1 ⟨record, hfound⟩
    exact hnone origin hmem hid

theorem Table.Tracks.insert_next (h : table.Tracks idOf overlay last inserted updates)
    (hoverlay : IsOverlay idOf overlay) {record : α} (hid : idOf record = last + 1)
    (hroom : inserted.length + 1 < idLimit) :
    (table.insert (last + 1) record).Tracks idOf overlay (last + 1) (inserted ++ [record])
      updates := by
  have hlength : (overlaid idOf overlay inserted updates).length = inserted.length :=
    List.length_map _
  have hnone : updates (idOf record) = [] := by
    by_contra hsome
    obtain ⟨kept, hfound⟩ := (h.exists_find?_iff hoverlay).2 (h.named _ hsome)
    obtain ⟨hmem, hsame⟩ := h.holds.find?_eq_some_iff.1 hfound
    have hle := (h.holds.toInt_id_le hmem).2
    have hlast := h.holds.last
    have hroom : inserted.length + 1 < 0x8000000000000000 := hroom
    rw [hsame, hid, toInt_next (by omega) (by omega)] at hle
    omega
  constructor
  · rw [overlaid_concat inserted hnone]
    exact h.holds.insert_next hid (by rwa [hlength])
  · intro id hsome
    obtain ⟨earlier, hearlier, hsame⟩ := h.named id hsome
    exact ⟨earlier, List.mem_append_left _ hearlier, hsame⟩

theorem Table.Tracks.insert_known (h : table.Tracks idOf overlay last inserted updates)
    (hoverlay : IsOverlay idOf overlay) {key : Int64} {old : α} (update : β)
    (hold : table.find? key = some old) :
    (table.insert key (overlay old update)).Tracks idOf overlay last inserted
      (updatedAt updates key update) := by
  constructor
  · rw [hoverlay.overlaid_updatedAt]
    exact h.holds.insert_known (fun record => hoverlay.id_eq record update) hold
  · intro id hsome
    by_cases heq : key = id
    · exact (h.exists_find?_iff hoverlay).1 ⟨old, heq ▸ hold⟩
    · rw [updatedAt, if_neg heq, Option.toList_none, List.append_nil] at hsome
      exact h.named id hsome

end Updates

/-- Records that are picked out by one key after the other are all the records, if each of them has
one of the keys. -/
theorem perm_flatMap_filter {α : Type} {keyOf : α → Int64} {keys : List Int64}
    (hnodup : keys.Nodup) (records : List α) (hkeys : ∀ record ∈ records, keyOf record ∈ keys) :
    (keys.flatMap fun key => records.filter fun record => keyOf record == key).Perm records := by
  induction keys generalizing records with
  | nil =>
      rw [List.eq_nil_iff_forall_not_mem.2 fun record hmem => List.not_mem_nil (hkeys record hmem)]
      exact .nil
  | cons key rest ih =>
      obtain ⟨hnot, hrest⟩ := List.nodup_cons.1 hnodup
      -- What has another key is not lost when what has the first key is taken away.
      have hothers : ∀ other ∈ rest, (records.filter fun record => keyOf record == other) =
          (records.filter fun record => !(keyOf record == key)).filter fun record =>
            keyOf record == other := by
        intro other hother
        rw [List.filter_filter]
        refine List.filter_congr fun record _ => ?_
        by_cases heq : keyOf record = other
        · have hne : keyOf record ≠ key := fun hkey => hnot (hkey ▸ heq ▸ hother)
          simp [heq, heq ▸ hne]
        · simp [heq]
      rw [List.flatMap_cons, List.flatMap_congr hothers]
      refine ((ih hrest _ ?_).append_left _).trans (List.filter_append_perm _ records)
      intro record hmem
      obtain ⟨hrecord, hne⟩ := List.mem_filter.1 hmem
      rcases List.mem_cons.1 (hkeys record hrecord) with hkey | hbehind
      · simp [hkey] at hne
      · exact hbehind

/-! ## Orders -/

/-- The store holds these orders, and their ids are one, two, three and so on. -/
structure OrderStore.Holds (store : OrderStore) (orders : List Order) : Prop where
  entries : store.orders.entries = orders.map fun order => (order.id, order)
  ids : orders.map (fun order => order.id.toInt) =
    (List.range orders.length).map fun count : Nat => (count : Int) + 1
  last : store.lastOrderId.toInt = orders.length

namespace OrderStore

theorem holds_iff {store : OrderStore} {orders : List Order} :
    store.Holds orders ↔ store.orders.Holds Order.id orders store.lastOrderId :=
  ⟨fun h => ⟨h.entries, h.ids, h.last⟩, fun h => ⟨h.entries, h.ids, h.last⟩⟩

theorem holds_empty : empty.Holds [] :=
  ⟨rfl, rfl, rfl⟩

variable {store : OrderStore} {orders : List Order}

theorem Holds.values_eq (h : store.Holds orders) : store.orders.values = orders :=
  (holds_iff.1 h).values_eq

/-- No two orders have one id. -/
theorem Holds.nodup_ids (h : store.Holds orders) : (orders.map Order.id).Nodup :=
  (holds_iff.1 h).nodup_ids

/-- One more order under the next id. -/
theorem Holds.insert (h : store.Holds orders) {order : Order}
    (hid : order.id = store.lastOrderId + 1) (hroom : orders.length + 1 < idLimit) :
    Holds { orders := store.orders.insert order.id order, lastOrderId := order.id }
      (orders ++ [order]) := by
  rw [holds_iff, hid]
  exact (holds_iff.1 h).insert_next hid hroom

end OrderStore

end FoodOrdering
