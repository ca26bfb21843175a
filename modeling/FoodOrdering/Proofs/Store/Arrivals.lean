import FoodOrdering.Proofs.Lists
import FoodOrdering.Proofs.Store.Numbering
import FoodOrdering.Proofs.Store.Restaurants

/-!
# Records that came in

What lies under an id came in under it and was updated since at most, and where a record came in
there lies one for good.  Another record can take its place only under the same id, and as long as
the counters have room no id is handed out twice.
-/

namespace FoodOrdering

namespace Change

/-- The restaurant that comes in. -/
def restaurant? : Change → Option Restaurant
  | .restaurantAdded restaurant => some restaurant
  | _ => none

/-- The menu item that comes in. -/
def menuItem? : Change → Option MenuItem
  | .itemAdded item => some item
  | _ => none

/-- The restaurants that came in by some changes. -/
def restaurants (changes : List Change) : List Restaurant :=
  changes.filterMap restaurant?

/-- The menu items that came in by some changes. -/
def menuItems (changes : List Change) : List MenuItem :=
  changes.filterMap menuItem?

variable (changes : List Change) (change : Change)

theorem restaurants_concat :
    restaurants (changes ++ [change]) = restaurants changes ++ change.restaurant?.toList :=
  filterMap_concat _ changes change

theorem menuItems_concat :
    menuItems (changes ++ [change]) = menuItems changes ++ change.menuItem?.toList :=
  filterMap_concat _ changes change

/-- No two restaurants came in under one id, and no two menu items. -/
def GivesIdsOnce : Prop :=
  ((restaurants changes).map Restaurant.id).Nodup ∧ ((menuItems changes).map MenuItem.id).Nodup

end Change

/-! ## Tables -/

/-- What is found is a record that came in under its key, as it was or with an update, and something
is found under the id of every record that came in. -/
structure Table.Remembers {α β : Type} (table : Table Int64 α) (idOf : α → Int64)
    (overlay : α → β → α) (arrived : List α) : Prop where
  found : ∀ key record, table.find? key = some record →
    idOf record = key ∧
      ∃ origin ∈ arrived, record = origin ∨ ∃ update, record = overlay origin update
  kept : ∀ origin ∈ arrived, ∃ record, table.find? (idOf origin) = some record

namespace Table

variable {α β : Type} {table : Table Int64 α} {idOf : α → Int64} {overlay : α → β → α}
  {arrived : List α}

theorem remembers_empty : (empty : Table Int64 α).Remembers idOf overlay [] :=
  ⟨nofun, nofun⟩

theorem exists_find?_insert (key : Int64) (record : α) {wanted : Int64}
    (h : ∃ old, table.find? wanted = some old) :
    ∃ new, (table.insert key record).find? wanted = some new := by
  by_cases heq : wanted = key
  · exact ⟨record, heq ▸ find?_insert_self table key record⟩
  · obtain ⟨old, hold⟩ := h
    exact ⟨old, (find?_insert_of_ne table record heq).trans hold⟩

theorem Remembers.insert_new (h : table.Remembers idOf overlay arrived) (record : α) :
    (table.insert (idOf record) record).Remembers idOf overlay (arrived ++ [record]) := by
  constructor
  · intro key found hfound
    rcases find?_insert_eq_some hfound with ⟨rfl, rfl⟩ | ⟨-, hold⟩
    · exact ⟨rfl, found, List.mem_append_right _ (List.mem_singleton_self found), Or.inl rfl⟩
    · obtain ⟨hid, origin, horigin, hsame⟩ := h.found key found hold
      exact ⟨hid, origin, List.mem_append_left _ horigin, hsame⟩
  · intro origin horigin
    rcases List.mem_append.1 horigin with hold | hnew
    · exact exists_find?_insert _ record (h.kept origin hold)
    · cases List.mem_singleton.1 hnew
      exact ⟨record, find?_insert_self table _ record⟩

theorem Remembers.insert_known (h : table.Remembers idOf overlay arrived)
    (hoverlay : IsOverlay idOf overlay) {old : α} (hold : table.find? (idOf old) = some old)
    (update : β) :
    (table.insert (idOf old) (overlay old update)).Remembers idOf overlay arrived := by
  constructor
  · intro key found hfound
    rcases find?_insert_eq_some hfound with ⟨rfl, rfl⟩ | ⟨-, hkept⟩
    · obtain ⟨-, origin, horigin, hsame⟩ := h.found _ old hold
      refine ⟨hoverlay.id_eq old update, origin, horigin, Or.inr ⟨update, ?_⟩⟩
      rcases hsame with rfl | ⟨earlier, rfl⟩
      · rfl
      · exact hoverlay.again origin earlier update
    · exact h.found key found hkept
  · exact fun origin horigin => exists_find?_insert _ _ (h.kept origin horigin)

/-- Something is found under the ids of what came in, and nowhere else. -/
theorem Remembers.exists_find?_iff (h : table.Remembers idOf overlay arrived)
    (hoverlay : IsOverlay idOf overlay) {key : Int64} :
    (∃ record, table.find? key = some record) ↔ ∃ origin ∈ arrived, idOf origin = key := by
  constructor
  · rintro ⟨record, hfound⟩
    obtain ⟨rfl, origin, horigin, rfl | ⟨update, rfl⟩⟩ := h.found key record hfound
    · exact ⟨record, horigin, rfl⟩
    · exact ⟨origin, horigin, (hoverlay.id_eq origin update).symm⟩
  · rintro ⟨origin, horigin, rfl⟩
    exact h.kept origin horigin

theorem Remembers.mem_values_iff (h : table.Remembers idOf overlay arrived) {record : α} :
    record ∈ table.values ↔ table.find? (idOf record) = some record := by
  unfold values
  rw [find?_eq_some_iff, List.mem_map]
  constructor
  · rintro ⟨⟨key, kept⟩, hmem, rfl⟩
    rw [(h.found key kept (find?_eq_some_iff.2 hmem)).1]
    exact hmem
  · exact fun hmem => ⟨_, hmem, rfl⟩

theorem Remembers.mem_map_values_iff (h : table.Remembers idOf overlay arrived) {key : Int64} :
    key ∈ table.values.map idOf ↔ ∃ record, table.find? key = some record := by
  rw [List.mem_map]
  constructor
  · rintro ⟨record, hrecord, rfl⟩
    exact ⟨record, h.mem_values_iff.1 hrecord⟩
  · rintro ⟨record, hfound⟩
    obtain ⟨rfl, -⟩ := h.found key record hfound
    exact ⟨record, h.mem_values_iff.2 hfound, rfl⟩

/-- The ids of the records ascend. -/
theorem Remembers.pairwise_values (h : table.Remembers idOf overlay arrived) :
    (table.values.map idOf).Pairwise (· < ·) := by
  have hkeys : table.values.map idOf = table.entries.map Prod.fst := by
    rw [values, List.map_map]
    exact List.map_congr_left fun entry hentry =>
      (h.found entry.1 entry.2 (find?_eq_some_iff.2 hentry)).1
  rw [hkeys, List.pairwise_map]
  exact table.ascending

theorem Remembers.nodup_concat (h : table.Remembers idOf overlay arrived) {record : α}
    (hfree : table.find? (idOf record) = none) (hnodup : (arrived.map idOf).Nodup) :
    ((arrived ++ [record]).map idOf).Nodup := by
  rw [List.map_append, List.map_singleton]
  refine List.nodup_append.2 ⟨hnodup, List.nodup_singleton _, ?_⟩
  intro first hfirst second hsecond heq
  cases List.mem_singleton.1 hsecond
  obtain ⟨origin, horigin, rfl⟩ := List.mem_map.1 hfirst
  obtain ⟨kept, hkept⟩ := h.kept origin horigin
  rw [heq, hfree] at hkept
  cases hkept

end Table

/-! ## Stores -/

/-- The restaurants and menu items are those that came in by some changes. -/
structure Stores.Remembers (stores : Stores) (changes : List Change) : Prop where
  restaurants : stores.restaurants.restaurants.Remembers Restaurant.id RestaurantStore.inStatus
    (Change.restaurants changes)
  menuItems : stores.restaurants.menuItems.Remembers MenuItem.id MenuItem.withContent
    (Change.menuItems changes)

variable {stores : Stores} {changes : List Change}

theorem Stores.remembers_empty : empty.Remembers [] :=
  ⟨Table.remembers_empty, Table.remembers_empty⟩

open RestaurantStore in
theorem Stores.Remembers.apply (h : stores.Remembers changes) {change : Change}
    (hfits : change.Fits stores) : (change.apply stores).Remembers (changes ++ [change]) := by
  obtain ⟨hrestaurants, hmenuItems⟩ := h
  constructor
  · rw [Change.restaurants_concat]
    cases change with
    | restaurantAdded restaurant => exact hrestaurants.insert_new restaurant
    | statusChanged restaurant status =>
        exact (List.append_nil (Change.restaurants changes)).symm ▸
          hrestaurants.insert_known isOverlay_inStatus hfits status
    | _ => exact (List.append_nil (Change.restaurants changes)).symm ▸ hrestaurants
  · rw [Change.menuItems_concat]
    cases change with
    | itemAdded item => exact hmenuItems.insert_new item
    | itemChanged item content =>
        exact (List.append_nil (Change.menuItems changes)).symm ▸
          hmenuItems.insert_known isOverlay_withContent hfits content
    | _ => exact (List.append_nil (Change.menuItems changes)).symm ▸ hmenuItems

theorem Stores.Remembers.stores_run {access : Access} {change : Change}
    (h : stores.Remembers changes) (hchange : access.change? stores = some change) :
    (access.run stores).2 = change.apply stores ∧ change.Fits stores :=
  Access.stores_run_of_filed
    (fun id restaurant hfound => (h.restaurants.found id restaurant hfound).1)
    (fun id item hfound => (h.menuItems.found id item hfound).1) hchange

/-- One access more, whatever it is. -/
theorem Stores.Remembers.run (h : stores.Remembers changes) (access : Access) :
    (access.run stores).2.Remembers (changes ++ (access.change? stores).toList) := by
  cases hchange : access.change? stores with
  | none =>
      rw [Access.stores_run_of_none hchange, Option.toList_none, List.append_nil]
      exact h
  | some change =>
      obtain ⟨hrun, hfits⟩ := h.stores_run hchange
      rw [hrun]
      exact h.apply hfits

/-- As long as there is room nothing lies under the next id, and so no id is given twice. -/
theorem Change.GivesIdsOnce.concat {change : Change} {inserted : Nat}
    (h : GivesIdsOnce changes) (hremembers : stores.Remembers changes)
    (hnumbered : stores.Numbered) (hcounts : stores.Counts inserted)
    (hroom : inserted + change.inserts < idLimit) (hfits : change.Fits stores) :
    GivesIdsOnce (changes ++ [change]) := by
  obtain ⟨hrestaurants, hmenuItems⟩ := h
  obtain ⟨hlastRestaurant, hlastItem, hlastOrder, htotal⟩ := hcounts
  unfold GivesIdsOnce
  rw [restaurants_concat, menuItems_concat]
  cases change with
  | restaurantAdded restaurant =>
      have hroom : inserted + 1 < 0x8000000000000000 := hroom
      have hfree := hnumbered.restaurants.find?_next (toInt_next hlastRestaurant (by omega))
      rw [← show restaurant.id = _ from hfits] at hfree
      exact ⟨hremembers.restaurants.nodup_concat hfree hrestaurants,
        (List.append_nil (menuItems changes)).symm ▸ hmenuItems⟩
  | itemAdded item =>
      have hroom : inserted + 1 < 0x8000000000000000 := hroom
      have hfree := hnumbered.menuItems.find?_next (toInt_next hlastItem (by omega))
      rw [← hfits.1] at hfree
      exact ⟨(List.append_nil (restaurants changes)).symm ▸ hrestaurants,
        hremembers.menuItems.nodup_concat hfree hmenuItems⟩
  | _ =>
      exact ⟨(List.append_nil (restaurants changes)).symm ▸ hrestaurants,
        (List.append_nil (menuItems changes)).symm ▸ hmenuItems⟩

end FoodOrdering
