import FoodOrdering.Proofs.Store.Numbering
import FoodOrdering.Text.Segments

/-!
# Well-formed records

What must hold of a record no matter how it came into the stores, and which changes keep that.
Orders and menu items name a restaurant.  It is there when they come in, and since no restaurant is
ever lost it stays there.
-/

namespace FoodOrdering

/-! ## Records -/

structure Order.Item.WellFormed (item : Order.Item) : Prop where
  name : Text.isBlankText item.name = false
  one_le_quantity : 1 ≤ item.quantity.toNat
  quantity_le : item.quantity.toNat ≤ 4294967295
  finite : item.price.isFinite = true
  nonneg : 0.0 ≤ item.price

structure Order.WellFormed (order : Order) : Prop where
  customer : 0 < order.customerId
  status : order.status = .pending
  nonempty : order.items ≠ []
  items : ∀ item ∈ order.items, item.WellFormed

/-- A text that is left out, or is not blank. -/
def GivenOrAbsent (value : Option String) : Prop :=
  ∀ text, value = some text → Text.isBlankText text = false

structure Restaurant.WellFormed (restaurant : Restaurant) : Prop where
  owner : 0 < restaurant.ownerId
  name : Text.isBlankText restaurant.name = false
  two_le_name : 2 ≤ restaurant.name.length
  name_le : restaurant.name.length ≤ 100
  description : Text.isBlankText restaurant.description = false
  location : Text.isBlankText restaurant.location = false
  email : GivenOrAbsent restaurant.email
  phoneNumber : GivenOrAbsent restaurant.phoneNumber
  imageUrl : GivenOrAbsent restaurant.imageUrl

structure MenuItem.Content.WellFormed (content : MenuItem.Content) : Prop where
  name : Text.isBlankText content.name = false
  description : Text.isBlankText content.description = false
  finite : content.price.isFinite = true
  positive : 0.0 < content.price

def MenuItem.content (item : MenuItem) : Content :=
  { name := item.name, description := item.description, price := item.price }

/-- The status of a restaurant is of no account. -/
theorem Restaurant.WellFormed.withStatus {restaurant : Restaurant} (h : restaurant.WellFormed)
    (status : Status) : Restaurant.WellFormed { restaurant with status } :=
  { h with }

/-! ## Tables -/

namespace Table

variable {α : Type} {table : Table Int64 α} {idOf : α → Int64} {last : Int64} {fit : α → Prop}

/-- Every record lies under its own id, which is one that was handed out, and is fit. -/
def Keeps (table : Table Int64 α) (idOf : α → Int64) (last : Int64) (fit : α → Prop) : Prop :=
  ∀ key record, (key, record) ∈ table.entries →
    idOf record = key ∧ 1 ≤ key.toInt ∧ key.toInt ≤ last.toInt ∧ fit record

theorem Numbered.keeps (h : table.Numbered idOf last)
    (hfit : ∀ key record, table.find? key = some record → fit record) :
    table.Keeps idOf last fit := by
  intro key record hmem
  have hfound := find?_eq_some_iff.2 hmem
  obtain ⟨hkey, hfirst, hlast⟩ := h key record hfound
  exact ⟨hkey, hfirst, hlast, hfit key record hfound⟩

/-- One more fit record does no harm to the others. -/
theorem forall_find?_insert {fit' : α → Prop} {key : Int64} {record : α}
    (h : ∀ key record, table.find? key = some record → fit record)
    (hkeeps : ∀ record, fit record → fit' record) (hrecord : fit' record) :
    ∀ wanted found, (table.insert key record).find? wanted = some found → fit' found := by
  intro wanted found hfound
  rcases find?_insert_eq_some hfound with ⟨_, rfl⟩ | ⟨_, hold⟩
  · exact hrecord
  · exact hkeeps found (h wanted found hold)

end Table

/-! ## Stores -/

namespace Stores

variable {stores : Stores}

/-- A restaurant lies under this id. -/
def HasRestaurant (stores : Stores) (id : Int64) : Prop :=
  ∃ restaurant, stores.restaurants.restaurants.find? id = some restaurant

theorem HasRestaurant.later {later : Stores} {id : Int64} (h : stores.HasRestaurant id)
    (hkeeps : stores.KeepsOwners later) : later.HasRestaurant id := by
  obtain ⟨restaurant, hfound⟩ := h
  obtain ⟨kept, hkept, _⟩ := hkeeps id restaurant hfound
  exact ⟨kept, hkept⟩

def FitItem (stores : Stores) (item : MenuItem) : Prop :=
  item.content.WellFormed ∧ stores.HasRestaurant item.restaurantId

def FitOrder (stores : Stores) (order : Order) : Prop :=
  order.WellFormed ∧ stores.HasRestaurant order.restaurantId

/-- Every record that is found is fit. -/
structure Fit (stores : Stores) : Prop where
  restaurants : ∀ id restaurant,
    stores.restaurants.restaurants.find? id = some restaurant → restaurant.WellFormed
  menuItems : ∀ id item, stores.restaurants.menuItems.find? id = some item → stores.FitItem item
  orders : ∀ id order, stores.orders.orders.find? id = some order → stores.FitOrder order

theorem fit_empty : empty.Fit :=
  ⟨nofun, nofun, nofun⟩

/-- The records lie in their tables under their ids, between one and the last id of the table; all
of them are well formed, and orders and menu items belong to restaurants that are there. -/
structure WellFormed (stores : Stores) : Prop where
  restaurants : stores.restaurants.restaurants.Keeps Restaurant.id
    stores.restaurants.lastRestaurantId Restaurant.WellFormed
  menuItems : stores.restaurants.menuItems.Keeps MenuItem.id stores.restaurants.lastMenuItemId
    fun item => item.content.WellFormed ∧
      ∃ restaurant, (item.restaurantId, restaurant) ∈ stores.restaurants.restaurants.entries
  orders : stores.orders.orders.Keeps Order.id stores.orders.lastOrderId
    fun order => order.WellFormed ∧
      ∃ restaurant, (order.restaurantId, restaurant) ∈ stores.restaurants.restaurants.entries

theorem Fit.wellFormed (h : stores.Fit) (hnumbered : stores.Numbered) : stores.WellFormed where
  restaurants := hnumbered.restaurants.keeps h.restaurants
  menuItems := hnumbered.menuItems.keeps fun id item hfound => by
    obtain ⟨hitem, restaurant, hrestaurant⟩ := h.menuItems id item hfound
    exact ⟨hitem, restaurant, Table.find?_eq_some_iff.1 hrestaurant⟩
  orders := hnumbered.orders.keeps fun id order hfound => by
    obtain ⟨horder, restaurant, hrestaurant⟩ := h.orders id order hfound
    exact ⟨horder, restaurant, Table.find?_eq_some_iff.1 hrestaurant⟩

end Stores

namespace Change

/-- What comes in is well formed, and an order comes in for a restaurant that is there. -/
def Proper (stores : Stores) : Change → Prop
  | .restaurantAdded restaurant => restaurant.WellFormed
  | .statusChanged _ _ => True
  | .itemAdded item => item.content.WellFormed
  | .itemChanged _ content => content.WellFormed
  | .orderAdded order => stores.FitOrder order

/-- A proper change leaves fit records only. -/
theorem fit_apply {stores : Stores} {change : Change} (h : stores.Fit)
    (hkeeps : stores.KeepsOwners (change.apply stores)) (hfits : change.Fits stores)
    (hproper : change.Proper stores) : (change.apply stores).Fit := by
  have hitem : ∀ item, stores.FitItem item → (change.apply stores).FitItem item :=
    fun item hitem => ⟨hitem.1, hitem.2.later hkeeps⟩
  have horder : ∀ order, stores.FitOrder order → (change.apply stores).FitOrder order :=
    fun order horder => ⟨horder.1, horder.2.later hkeeps⟩
  have hitems := fun id item hfound => hitem item (h.menuItems id item hfound)
  have horders := fun id order hfound => horder order (h.orders id order hfound)
  cases change with
  | restaurantAdded restaurant =>
      exact ⟨Table.forall_find?_insert h.restaurants (fun _ => id) hproper, hitems, horders⟩
  | statusChanged restaurant status =>
      refine ⟨Table.forall_find?_insert h.restaurants (fun _ => id) ?_, hitems, horders⟩
      exact (h.restaurants restaurant.id restaurant hfits).withStatus status
  | itemAdded item =>
      refine ⟨h.restaurants, Table.forall_find?_insert h.menuItems hitem ?_, horders⟩
      exact hitem item ⟨hproper, hfits.2⟩
  | itemChanged item content =>
      refine ⟨h.restaurants, Table.forall_find?_insert h.menuItems hitem ?_, horders⟩
      exact ⟨hproper, (h.menuItems item.id item hfits).2.later hkeeps⟩
  | orderAdded order =>
      refine ⟨h.restaurants, hitems, Table.forall_find?_insert h.orders horder ?_⟩
      exact horder order hproper

end Change

end FoodOrdering
