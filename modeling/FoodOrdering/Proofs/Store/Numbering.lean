import FoodOrdering.Proofs.Store.Change

/-!
# Ids and owners

Ids are handed out one after the other.  As long as the counters have room for that, no record that
comes in meets an earlier one under its id, and so no restaurant is ever lost or changes hands.
-/

namespace FoodOrdering

/-- Ids are below this number, which is 2 to the power of 63. -/
def idLimit : Nat := 0x8000000000000000

theorem toInt_next {last : Int64} (hnonneg : 0 ≤ last.toInt)
    (hroom : last.toInt + 1 < 0x8000000000000000) : (last + 1).toInt = last.toInt + 1 := by
  rw [Int64.toInt_add]
  have hone : (1 : Int64).toInt = 1 := by decide
  rw [hone]
  exact Int.bmod_eq_of_le (by omega) (by omega)

namespace Table

variable {α : Type} {table : Table Int64 α} {idOf : α → Int64} {last : Int64} {record : α}

theorem Numbered.insert_next (h : table.Numbered idOf last) (hnonneg : 0 ≤ last.toInt)
    (hnext : (last + 1).toInt = last.toInt + 1) (hid : idOf record = last + 1) :
    (table.insert (idOf record) record).Numbered idOf (idOf record) := by
  intro key found hfound
  rcases find?_insert_eq_some hfound with ⟨rfl, rfl⟩ | ⟨_, hold⟩
  · refine ⟨rfl, ?_, Int.le_refl _⟩
    rw [hid, hnext]
    omega
  · obtain ⟨hkey, hfirst, hlast⟩ := h key found hold
    refine ⟨hkey, hfirst, ?_⟩
    rw [hid, hnext]
    omega

theorem Numbered.insert_known {old : α} (h : table.Numbered idOf last) (record : α)
    (hfound : table.find? (idOf record) = some old) :
    (table.insert (idOf record) record).Numbered idOf last := by
  intro key found hkey
  rcases find?_insert_eq_some hkey with ⟨rfl, rfl⟩ | ⟨_, hold⟩
  · obtain ⟨_, hfirst, hlast⟩ := h (idOf found) old hfound
    exact ⟨rfl, hfirst, hlast⟩
  · exact h key found hold

/-- Nothing lies under the next id yet. -/
theorem Numbered.find?_next (h : table.Numbered idOf last)
    (hnext : (last + 1).toInt = last.toInt + 1) : table.find? (last + 1) = none := by
  cases hfound : table.find? (last + 1) with
  | none => rfl
  | some record =>
      obtain ⟨_, _, hlast⟩ := h (last + 1) record hfound
      omega

end Table

namespace Stores

/-- The counters add up to the number of records that came in. -/
structure Counts (stores : Stores) (inserted : Nat) : Prop where
  restaurants : 0 ≤ stores.restaurants.lastRestaurantId.toInt
  menuItems : 0 ≤ stores.restaurants.lastMenuItemId.toInt
  orders : 0 ≤ stores.orders.lastOrderId.toInt
  total : stores.restaurants.lastRestaurantId.toInt + stores.restaurants.lastMenuItemId.toInt +
    stores.orders.lastOrderId.toInt = inserted

/-- Every restaurant is still there and belongs to whom it belonged. -/
def KeepsOwners (before after : Stores) : Prop :=
  ∀ id restaurant, before.restaurants.find? id = some restaurant →
    ∃ kept, after.restaurants.find? id = some kept ∧ kept.ownerId = restaurant.ownerId

theorem KeepsOwners.refl (stores : Stores) : stores.KeepsOwners stores := by
  intro id restaurant hfound
  exact ⟨restaurant, hfound, rfl⟩

theorem KeepsOwners.trans {first second third : Stores} (hfirst : first.KeepsOwners second)
    (hsecond : second.KeepsOwners third) : first.KeepsOwners third := by
  intro id restaurant hfound
  obtain ⟨kept, hkept, howner⟩ := hfirst id restaurant hfound
  obtain ⟨last, hlast, hsame⟩ := hsecond id kept hkept
  exact ⟨last, hlast, hsame.trans howner⟩

theorem counts_empty : empty.Counts 0 := by
  constructor
  · decide
  · decide
  · decide
  · decide

end Stores

namespace Change

variable {stores : Stores} {change : Change} {inserted : Nat}

theorem numbered_apply (hnumbered : stores.Numbered) (hcounts : stores.Counts inserted)
    (hroom : inserted + change.inserts < idLimit) (hfits : change.Fits stores) :
    (change.apply stores).Numbered := by
  obtain ⟨hrestaurants, hmenuItems, horders⟩ := hnumbered
  obtain ⟨hlastRestaurant, hlastItem, hlastOrder, htotal⟩ := hcounts
  cases change with
  | restaurantAdded restaurant =>
      have hroom : inserted + 1 < 0x8000000000000000 := hroom
      have hnext := toInt_next hlastRestaurant (by omega)
      exact ⟨hrestaurants.insert_next hlastRestaurant hnext hfits, hmenuItems, horders⟩
  | statusChanged restaurant status =>
      exact ⟨hrestaurants.insert_known { restaurant with status } hfits, hmenuItems, horders⟩
  | itemAdded item =>
      have hroom : inserted + 1 < 0x8000000000000000 := hroom
      have hnext := toInt_next hlastItem (by omega)
      exact ⟨hrestaurants, hmenuItems.insert_next hlastItem hnext hfits.1, horders⟩
  | itemChanged item content =>
      exact ⟨hrestaurants, hmenuItems.insert_known (item.withContent content) hfits, horders⟩
  | orderAdded order =>
      have hroom : inserted + 1 < 0x8000000000000000 := hroom
      have hnext := toInt_next hlastOrder (by omega)
      exact ⟨hrestaurants, hmenuItems, horders.insert_next hlastOrder hnext hfits⟩

theorem counts_apply (hcounts : stores.Counts inserted)
    (hroom : inserted + change.inserts < idLimit) (hfits : change.Fits stores) :
    (change.apply stores).Counts (inserted + change.inserts) := by
  obtain ⟨hlastRestaurant, hlastItem, hlastOrder, htotal⟩ := hcounts
  cases change with
  | restaurantAdded restaurant =>
      have hroom : inserted + 1 < 0x8000000000000000 := hroom
      have hnext := toInt_next hlastRestaurant (by omega)
      rw [← show restaurant.id = _ from hfits] at hnext
      refine ⟨?_, hlastItem, hlastOrder, ?_⟩
      · show 0 ≤ restaurant.id.toInt
        omega
      · show restaurant.id.toInt + stores.restaurants.lastMenuItemId.toInt +
          stores.orders.lastOrderId.toInt = ((inserted + 1 : Nat) : Int)
        omega
  | statusChanged restaurant status => exact ⟨hlastRestaurant, hlastItem, hlastOrder, htotal⟩
  | itemAdded item =>
      have hroom : inserted + 1 < 0x8000000000000000 := hroom
      have hnext := toInt_next hlastItem (by omega)
      rw [← hfits.1] at hnext
      refine ⟨hlastRestaurant, ?_, hlastOrder, ?_⟩
      · show 0 ≤ item.id.toInt
        omega
      · show stores.restaurants.lastRestaurantId.toInt + item.id.toInt +
          stores.orders.lastOrderId.toInt = ((inserted + 1 : Nat) : Int)
        omega
  | itemChanged item content => exact ⟨hlastRestaurant, hlastItem, hlastOrder, htotal⟩
  | orderAdded order =>
      have hroom : inserted + 1 < 0x8000000000000000 := hroom
      have hnext := toInt_next hlastOrder (by omega)
      rw [← show order.id = _ from hfits] at hnext
      refine ⟨hlastRestaurant, hlastItem, ?_, ?_⟩
      · show 0 ≤ order.id.toInt
        omega
      · show stores.restaurants.lastRestaurantId.toInt + stores.restaurants.lastMenuItemId.toInt +
          order.id.toInt = ((inserted + 1 : Nat) : Int)
        omega

/-- A new restaurant meets no earlier one, and no change touches an owner. -/
theorem keepsOwners_apply (hnumbered : stores.Numbered) (hcounts : stores.Counts inserted)
    (hroom : inserted + change.inserts < idLimit) (hfits : change.Fits stores) :
    stores.KeepsOwners (change.apply stores) := by
  intro id kept hkept
  cases change with
  | restaurantAdded restaurant =>
      have hroom : inserted + 1 < 0x8000000000000000 := hroom
      obtain ⟨hlast, hlastItem, hlastOrder, htotal⟩ := hcounts
      have hnext := toInt_next hlast (by omega)
      have hfree := hnumbered.restaurants.find?_next hnext
      rw [← show restaurant.id = _ from hfits] at hfree
      have hne : id ≠ restaurant.id := by
        rintro rfl
        cases hkept.symm.trans hfree
      refine ⟨kept, ?_, rfl⟩
      exact (Table.find?_insert_of_ne _ restaurant hne).trans hkept
  | statusChanged restaurant status =>
      by_cases heq : id = restaurant.id
      · subst heq
        cases hkept.symm.trans hfits
        exact ⟨{ kept with status }, Table.find?_insert_self _ _ _, rfl⟩
      · exact ⟨kept, (Table.find?_insert_of_ne _ _ heq).trans hkept, rfl⟩
  | itemAdded item => exact ⟨kept, hkept, rfl⟩
  | itemChanged item content => exact ⟨kept, hkept, rfl⟩
  | orderAdded order => exact ⟨kept, hkept, rfl⟩

end Change

namespace Access

variable {stores : Stores} {access : Access} {inserted : Nat}

/-- One access leaves the stores in order and every restaurant with its owner. -/
theorem keeps_run (hnumbered : stores.Numbered) (hcounts : stores.Counts inserted)
    (hroom : inserted + Change.insertsOf (access.change? stores).toList < idLimit) :
    (access.run stores).2.Numbered ∧
      (access.run stores).2.Counts
        (inserted + Change.insertsOf (access.change? stores).toList) ∧
      stores.KeepsOwners (access.run stores).2 := by
  cases hchange : access.change? stores with
  | none =>
      rw [stores_run_of_none hchange]
      exact ⟨hnumbered, hcounts, Stores.KeepsOwners.refl stores⟩
  | some change =>
      obtain ⟨hrun, hfits⟩ := stores_run_of_some hnumbered hchange
      have hsum : Change.insertsOf (some change).toList = change.inserts := Nat.add_zero _
      rw [hchange, hsum] at hroom
      rw [hrun, hsum]
      exact ⟨Change.numbered_apply hnumbered hcounts hroom hfits,
        Change.counts_apply hcounts hroom hfits,
        Change.keepsOwners_apply hnumbered hcounts hroom hfits⟩

end Access

end FoodOrdering
