import FoodOrdering.Proofs.Service.Judgement
import Mathlib.Data.List.Forall2

/-!
# Nothing is made up

A record is made of a request by taking its fields, with a default in the place of one that is not
there.  The defaults are never seen: what passes judgement has the fields that are asked for, and
the record has what they say.
-/

namespace FoodOrdering.Service

namespace OrderRequest

/-- The item is ordered as it was asked for. -/
structure Item.Becomes (item : Item) (ordered : Order.Item) : Prop where
  name : item.name = some ordered.name
  quantity : ∃ count, item.quantity = some count ∧ (ordered.quantity.toNat : Int) = count.toInt
  price : item.price = some ordered.price

theorem Item.IsValid.becomes {item : Item} (h : item.IsValid) :
    ∃ ordered, item.toItem? = some ordered ∧ item.Becomes ordered := by
  obtain ⟨name, hname, -⟩ := FieldErrors.isGiven_eq_true_iff.1 h.name
  obtain ⟨count, hcount, hleast, hmost⟩ := quantityFault?_eq_none_iff.1 h.quantity
  obtain ⟨amount, hamount, -, -⟩ := priceFault?_eq_none_iff.1 h.price
  have hkept : item.quantity.filter (fun count => (quantityFault? (some count)).isNone) =
      some count := by
    have hquantity := h.quantity
    rw [hcount] at hquantity ⊢
    exact Option.filter_some_pos (by rw [hquantity]; rfl)
  have hnat : (UInt32.ofNat count.toInt.toNat).toNat = count.toInt.toNat :=
    UInt32.toNat_ofNat_of_lt' (by show _ < 4294967296; omega)
  refine ⟨{ name, quantity := UInt32.ofNat count.toInt.toNat, price := amount }, ?_,
    hname, ⟨count, hcount, ?_⟩, hamount⟩
  · rw [toItem?, hkept, hname, hamount]
    rfl
  · rw [hnat]
    omega

/-- The order has the restaurant and the items that were asked for, and no others. -/
structure Becomes (request : OrderRequest) (draft : Order) : Prop where
  restaurantId : request.restaurantId = some draft.restaurantId
  items : ∃ items, request.items = some items ∧ List.Forall₂ Item.Becomes items draft.items

theorem forall₂_becomes {items : List Item} (h : ∀ item ∈ items, item.IsValid) :
    List.Forall₂ Item.Becomes items (items.filterMap Item.toItem?) := by
  induction items with
  | nil => exact .nil
  | cons item rest ih =>
      rw [List.forall_mem_cons] at h
      obtain ⟨ordered, hordered, hbecomes⟩ := h.1.becomes
      rw [List.filterMap_cons_some hordered]
      exact .cons hbecomes (ih h.2)

theorem becomes_of_toOrder {request : OrderRequest} {customerId : Int64} {now : Instant}
    {draft : Order} (h : request.toOrder customerId now = .ok draft) : request.Becomes draft := by
  obtain ⟨hempty, rfl⟩ := of_finish_bind h
  obtain ⟨hrestaurant, items, hitems, -, hvalid⟩ := isEmpty_judge_iff.1 hempty
  obtain ⟨id, hid⟩ := Option.isSome_iff_exists.1 hrestaurant
  rw [hid, hitems]
  exact ⟨hid, items, hitems, forall₂_becomes hvalid⟩

end OrderRequest

namespace RestaurantRequest

/-- The restaurant is described as it was asked for. -/
structure Becomes (request : RestaurantRequest) (draft : Restaurant) : Prop where
  name : request.name = some draft.name
  description : request.description = some draft.description
  location : request.location = some draft.location

theorem becomes_of_toRestaurant {request : RestaurantRequest} {ownerId : Int64} {now : Instant}
    {draft : Restaurant} (h : request.toRestaurant ownerId now = .ok draft) :
    request.Becomes draft := by
  obtain ⟨hempty, rfl⟩ := of_finish_bind h
  obtain ⟨hname, -, hdescription, hlocation⟩ := isEmpty_judge_iff.1 hempty
  obtain ⟨name, hname, -⟩ := FieldErrors.isGiven_eq_true_iff.1 hname
  obtain ⟨description, hdescription, -⟩ := FieldErrors.isGiven_eq_true_iff.1 hdescription
  obtain ⟨location, hlocation, -⟩ := FieldErrors.isGiven_eq_true_iff.1 hlocation
  rw [hname, hdescription, hlocation]
  exact ⟨hname, hdescription, hlocation⟩

end RestaurantRequest

namespace MenuItemRequest

/-- The content is the one that was asked for. -/
structure Becomes (request : MenuItemRequest) (content : MenuItem.Content) : Prop where
  name : request.name = some content.name
  description : request.description = some content.description
  price : request.price = some content.price

theorem becomes_of_toContent {request : MenuItemRequest} {content : MenuItem.Content}
    (h : request.toContent = .ok content) : request.Becomes content := by
  obtain ⟨hempty, rfl⟩ := of_finish_bind h
  obtain ⟨hname, hdescription, hprice⟩ := isEmpty_judge_iff.1 hempty
  obtain ⟨name, hname, -⟩ := FieldErrors.isGiven_eq_true_iff.1 hname
  obtain ⟨description, hdescription, -⟩ := FieldErrors.isGiven_eq_true_iff.1 hdescription
  obtain ⟨amount, hamount, -, -⟩ := priceFault?_eq_none_iff.1 hprice
  rw [hname, hdescription, hamount]
  exact ⟨hname, hdescription, hamount⟩

end MenuItemRequest

namespace StatusRequest

/-- A status is the one that a text names. -/
theorem exists_of_toStatus {request : StatusRequest} {status : Restaurant.Status}
    (h : request.toStatus = .ok status) :
    ∃ name, request.status = some name ∧ statusOf? name = some status := by
  unfold toStatus at h
  split at h
  next => cases h
  next name hname =>
    split at h
    next named hnamed =>
      cases h
      exact ⟨name, hname, hnamed⟩
    next => cases h

end StatusRequest

end FoodOrdering.Service
