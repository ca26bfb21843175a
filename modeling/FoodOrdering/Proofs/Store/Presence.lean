import FoodOrdering.Proofs.Store.WellFormed

/-!
# Restaurants stay

A restaurant is put under its own id and never taken away.  This holds of every run, also of one in
which the counters have no room left and a restaurant is put in the place of another one.
-/

namespace FoodOrdering

namespace Stores

/-- Every restaurant lies under its own id. -/
def Keyed (stores : Stores) : Prop :=
  ∀ id restaurant, stores.restaurants.find? id = some restaurant → restaurant.id = id

/-- Wherever a restaurant lay, there lies one. -/
def KeepsRestaurants (before after : Stores) : Prop :=
  ∀ id, before.HasRestaurant id → after.HasRestaurant id

theorem KeepsRestaurants.refl (stores : Stores) : stores.KeepsRestaurants stores :=
  fun _ h => h

theorem KeepsRestaurants.trans {first second third : Stores}
    (hfirst : first.KeepsRestaurants second) (hsecond : second.KeepsRestaurants third) :
    first.KeepsRestaurants third :=
  fun id h => hsecond id (hfirst id h)

theorem keyed_empty : empty.Keyed := by
  intro id restaurant hfound
  cases hfound

end Stores

namespace Access

variable {stores : Stores}

/-- Whatever is asked for, at most one restaurant is put in, and under its own id. -/
theorem restaurants_run (hkeyed : stores.Keyed) (access : Access) :
    (access.run stores).2.restaurants.restaurants = stores.restaurants.restaurants ∨
      ∃ restaurant, (access.run stores).2.restaurants.restaurants =
        stores.restaurants.restaurants.insert restaurant.id restaurant := by
  cases access with
  | createRestaurant draft =>
      exact Or.inr ⟨{ draft with id := stores.restaurants.lastRestaurantId + 1 }, rfl⟩
  | setStatus id status =>
      cases hfound : stores.restaurants.restaurants.find? id with
      | none =>
          left
          show (onRestaurants stores
            (stores.restaurants.setStatus id status)).2.restaurants.restaurants = _
          rw [RestaurantStore.setStatus, hfound]
          rfl
      | some restaurant =>
          obtain rfl : restaurant.id = id := hkeyed id restaurant hfound
          refine Or.inr ⟨{ restaurant with status }, ?_⟩
          show (onRestaurants stores
            (stores.restaurants.setStatus restaurant.id status)).2.restaurants.restaurants = _
          rw [RestaurantStore.setStatus, hfound]
          rfl
  | addMenuItem draft =>
      left
      show (onRestaurants stores
        (stores.restaurants.addMenuItem draft)).2.restaurants.restaurants = _
      unfold RestaurantStore.addMenuItem
      split
      · rfl
      · rfl
  | updateMenuItem restaurantId itemId content =>
      left
      show (onRestaurants stores
        (stores.restaurants.updateMenuItem restaurantId itemId content)).2.restaurants.restaurants =
          _
      unfold RestaurantStore.updateMenuItem
      split
      · rfl
      · rfl
  | createOrder draft => exact Or.inl rfl
  | findRestaurant id => exact Or.inl rfl
  | allRestaurants => exact Or.inl rfl
  | menu restaurantId => exact Or.inl rfl
  | ordersOfCustomer customerId => exact Or.inl rfl
  | ordersAtRestaurant restaurantId => exact Or.inl rfl

theorem keyed_run (hkeyed : stores.Keyed) (access : Access) : (access.run stores).2.Keyed := by
  intro id restaurant hfound
  unfold RestaurantStore.find? at hfound
  rcases restaurants_run hkeyed access with hsame | ⟨added, hadded⟩
  · rw [hsame] at hfound
    exact hkeyed id restaurant hfound
  · rw [hadded] at hfound
    rcases Table.find?_insert_eq_some hfound with ⟨rfl, rfl⟩ | ⟨-, hold⟩
    · rfl
    · exact hkeyed id restaurant hold

theorem keepsRestaurants_run (hkeyed : stores.Keyed) (access : Access) :
    stores.KeepsRestaurants (access.run stores).2 := by
  intro id hhas
  unfold Stores.HasRestaurant
  rcases restaurants_run hkeyed access with hsame | ⟨added, hadded⟩
  · rw [hsame]
    exact hhas
  · rw [hadded]
    by_cases heq : id = added.id
    · exact ⟨added, heq ▸ Table.find?_insert_self _ _ _⟩
    · obtain ⟨restaurant, hfound⟩ := hhas
      exact ⟨restaurant, (Table.find?_insert_of_ne _ added heq).trans hfound⟩

/-- A menu item is added to a restaurant that is there. -/
theorem run_addMenuItem_of_hasRestaurant {draft : MenuItem}
    (h : stores.HasRestaurant draft.restaurantId) :
    ∃ item, ((addMenuItem draft).run stores).1 = .ok item := by
  obtain ⟨restaurant, hfound⟩ := h
  have hcontains : stores.restaurants.restaurants.contains draft.restaurantId = true := by
    rw [Table.contains, hfound]
    rfl
  refine ⟨{ draft with id := stores.restaurants.lastMenuItemId + 1 }, ?_⟩
  show (stores.restaurants.addMenuItem draft).1 = _
  rw [RestaurantStore.addMenuItem, if_pos hcontains]

end Access

end FoodOrdering
