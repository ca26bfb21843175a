import FoodOrdering.Proofs.Except
import FoodOrdering.Proofs.Store.WellFormed
import FoodOrdering.Service.OrderRequest
import FoodOrdering.Service.RestaurantRequest

/-!
# What passes judgement

A request passes if nothing was said of any of its fields.  What is made of a request that passed is
well formed: every text that is asked for is there and not blank, and every number lies in its range.
-/

namespace FoodOrdering

/-! ## Nothing said -/

namespace FieldErrors

variable (errors : FieldErrors)

@[simp]
theorem isEmpty_empty : empty.isEmpty = true := rfl

@[simp]
theorem isEmpty_add (field message : String) : (errors.add field message).isEmpty = false := by
  unfold isEmpty add Table.insert
  dsimp only
  cases errors.messages.entries with
  | nil => rfl
  | cons head rest =>
      obtain ⟨other, kept⟩ := head
      rw [Table.insertEntry]
      split
      · rfl
      · split
        · rfl
        · rfl

@[simp]
theorem isEmpty_require (holds : Bool) (field message : String) :
    (errors.require holds field message).isEmpty = (errors.isEmpty && holds) := by
  cases holds with
  | true => exact (Bool.and_true _).symm
  | false =>
      rw [Bool.and_false]
      exact errors.isEmpty_add field message

@[simp]
theorem isEmpty_notBlank (field : String) (value : Option String) (message : String) :
    (errors.notBlank field value message).isEmpty = (errors.isEmpty && isGiven value) :=
  errors.isEmpty_require _ _ _

@[simp]
theorem isEmpty_notNull {α : Type} (field : String) (value : Option α) (message : String) :
    (errors.notNull field value message).isEmpty = (errors.isEmpty && value.isSome) :=
  errors.isEmpty_require _ _ _

@[simp]
theorem isEmpty_size (field : String) (value : Option String) (least most : Nat) :
    (errors.size field value least most).isEmpty =
      (errors.isEmpty &&
        value.all fun text => decide (least ≤ text.length) && decide (text.length ≤ most)) :=
  errors.isEmpty_require _ _ _

@[simp]
theorem isEmpty_addFault (field : String) (fault? : Option String) :
    (Service.OrderRequest.addFault errors field fault?).isEmpty =
      (errors.isEmpty && fault?.isNone) := by
  cases fault? with
  | none => exact (Bool.and_true _).symm
  | some message =>
      rw [Option.isNone_some, Bool.and_false]
      exact errors.isEmpty_add field message

theorem finish_eq_ok_iff : errors.finish = .ok () ↔ errors.isEmpty = true := by
  unfold finish
  split
  next hempty => exact iff_of_true rfl hempty
  next hsaid => exact iff_of_false nofun hsaid

theorem isGiven_eq_true_iff {value : Option String} :
    isGiven value = true ↔ ∃ text, value = some text ∧ Text.isBlankText text = false := by
  cases value with
  | none => simp [isGiven]
  | some text => simp [isGiven]

end FieldErrors

/-- A request that passed is what its content was judged to be. -/
theorem of_finish_bind {α : Type} {errors : FieldErrors} {value result : α}
    (h : (do errors.finish; return value : Except Service.Problem α) = .ok result) :
    errors.isEmpty = true ∧ result = value := by
  obtain ⟨done, hfinish, hvalue⟩ := bind_eq_ok_iff.1 h
  cases hvalue
  exact ⟨errors.finish_eq_ok_iff.1 hfinish, rfl⟩

namespace Service

/-! ## Orders -/

namespace OrderRequest

theorem quantityFault?_eq_none_iff {quantity : Option Int64} :
    quantityFault? quantity = none ↔
      ∃ count, quantity = some count ∧ 1 ≤ count.toInt ∧ count.toInt ≤ 4294967295 := by
  cases quantity with
  | none => simp [quantityFault?]
  | some count =>
      have hone : (1 : Int64).toInt = 1 := by decide
      have hmost : (4294967295 : Int64).toInt = 4294967295 := by decide
      simp only [quantityFault?, Int64.lt_iff_toInt_lt, hone, hmost, Option.some.injEq]
      split
      next hless =>
        refine iff_of_false nofun ?_
        rintro ⟨_, rfl, hleast, _⟩
        omega
      next hleast =>
        split
        next hmore =>
          refine iff_of_false nofun ?_
          rintro ⟨_, rfl, _, hle⟩
          omega
        next hle => exact iff_of_true rfl ⟨count, rfl, by omega, by omega⟩

theorem priceFault?_eq_none_iff {price : Option Float} :
    priceFault? price = none ↔
      ∃ amount, price = some amount ∧ amount.isFinite = true ∧ 0.0 ≤ amount := by
  cases price with
  | none => simp [priceFault?]
  | some amount => simp [priceFault?]

/-- Nothing is wrong with the item. -/
structure Item.IsValid (item : Item) : Prop where
  name : FieldErrors.isGiven item.name = true
  quantity : quantityFault? item.quantity = none
  price : priceFault? item.price = none

theorem Item.isEmpty_judge_iff {item : Item} {index : Nat} {errors : FieldErrors} :
    (item.judge index errors).isEmpty = true ↔ errors.isEmpty = true ∧ item.IsValid := by
  unfold judge
  simp only [FieldErrors.isEmpty_addFault, FieldErrors.isEmpty_notBlank, Bool.and_eq_true,
    Option.isNone_iff_eq_none]
  constructor
  · rintro ⟨⟨⟨hempty, hname⟩, hquantity⟩, hprice⟩
    exact ⟨hempty, hname, hquantity, hprice⟩
  · rintro ⟨hempty, hname, hquantity, hprice⟩
    exact ⟨⟨⟨hempty, hname⟩, hquantity⟩, hprice⟩

theorem isEmpty_judgeItems_iff {items : List Item} {index : Nat} {errors : FieldErrors} :
    (judgeItems index errors items).isEmpty = true ↔
      errors.isEmpty = true ∧ ∀ item ∈ items, item.IsValid := by
  induction items generalizing index errors with
  | nil => exact ⟨fun h => ⟨h, nofun⟩, And.left⟩
  | cons item rest ih =>
      rw [judgeItems, ih, Item.isEmpty_judge_iff, List.forall_mem_cons, and_assoc]

theorem isEmpty_judge_iff {request : OrderRequest} :
    request.judge.isEmpty = true ↔
      request.restaurantId.isSome = true ∧
        ∃ items, request.items = some items ∧ items ≠ [] ∧ ∀ item ∈ items, item.IsValid := by
  unfold judge
  dsimp only
  split
  next hnone => simp [hnone]
  next hnil => simp [hnil]
  next items hne hsome =>
    rw [isEmpty_judgeItems_iff, FieldErrors.isEmpty_notNull, FieldErrors.isEmpty_empty,
      Bool.true_and]
    constructor
    · rintro ⟨hrestaurant, hitems⟩
      exact ⟨hrestaurant, items, hsome, hne, hitems⟩
    · rintro ⟨hrestaurant, others, hothers, _, hitems⟩
      cases hothers.symm.trans hsome
      exact ⟨hrestaurant, hitems⟩

/-- An item with which nothing is wrong is ordered as it was asked for. -/
theorem Item.IsValid.toItem?_eq {item : Item} (h : item.IsValid) :
    ∃ ordered, item.toItem? = some ordered ∧ ordered.WellFormed := by
  obtain ⟨name, hname, hblank⟩ := FieldErrors.isGiven_eq_true_iff.1 h.name
  obtain ⟨count, hcount, hleast, hmost⟩ := quantityFault?_eq_none_iff.1 h.quantity
  obtain ⟨amount, hamount, hfinite, hnonneg⟩ := priceFault?_eq_none_iff.1 h.price
  have hquantity := h.quantity
  rw [hcount] at hquantity
  have hnat : (UInt32.ofNat count.toInt.toNat).toNat = count.toInt.toNat :=
    UInt32.toNat_ofNat_of_lt' (by show _ < 4294967296; omega)
  refine ⟨{ name, quantity := UInt32.ofNat count.toInt.toNat, price := amount }, ?_, ?_⟩
  · have hkept : (some count).filter (fun count => (quantityFault? (some count)).isNone) =
        some count :=
      Option.filter_some_pos (by rw [hquantity]; rfl)
    rw [toItem?, hname, hcount, hamount, hkept]
    rfl
  · refine ⟨hblank, ?_, ?_, hfinite, hnonneg⟩
    · rw [hnat]
      omega
    · rw [hnat]
      omega

/-- What is made of an order request that passed is well formed. -/
theorem wellFormed_of_toOrder {request : OrderRequest} {customerId : Int64} {now : Instant}
    {draft : Order} (hcustomer : 0 < customerId)
    (h : request.toOrder customerId now = .ok draft) : draft.WellFormed := by
  obtain ⟨hempty, rfl⟩ := of_finish_bind h
  obtain ⟨_, items, hitems, hne, hvalid⟩ := isEmpty_judge_iff.1 hempty
  rw [hitems, Option.getD_some]
  refine ⟨hcustomer, rfl, ?_, ?_⟩
  · obtain ⟨first, rest, rfl⟩ := List.exists_cons_of_ne_nil hne
    obtain ⟨ordered, hordered, _⟩ := (hvalid first List.mem_cons_self).toItem?_eq
    show (first :: rest).filterMap Item.toItem? ≠ []
    rw [List.filterMap_cons_some hordered]
    exact List.cons_ne_nil _ _
  · intro ordered hmem
    obtain ⟨item, hitem, hordered⟩ := List.mem_filterMap.1 hmem
    obtain ⟨other, hother, hwell⟩ := (hvalid item hitem).toItem?_eq
    cases hother.symm.trans hordered
    exact hwell

end OrderRequest

/-! ## Restaurants -/

namespace RestaurantRequest

theorem givenOrAbsent_nonBlank (value : Option String) : GivenOrAbsent (nonBlank value) := by
  intro text htext
  obtain ⟨_, hnot⟩ := Option.filter_eq_some_iff.1 htext
  simpa using hnot

theorem isEmpty_judge_iff {request : RestaurantRequest} :
    request.judge.isEmpty = true ↔
      FieldErrors.isGiven request.name = true ∧
        (∀ name, request.name = some name → 2 ≤ name.length ∧ name.length ≤ 100) ∧
        FieldErrors.isGiven request.description = true ∧
        FieldErrors.isGiven request.location = true := by
  unfold judge
  simp only [FieldErrors.isEmpty_notBlank, FieldErrors.isEmpty_size, FieldErrors.isEmpty_empty,
    Bool.true_and, Bool.and_eq_true, Option.all_eq_true, decide_eq_true_eq, and_assoc]

/-- What is made of a restaurant request that passed is well formed. -/
theorem wellFormed_of_toRestaurant {request : RestaurantRequest} {ownerId : Int64}
    {now : Instant} {draft : Restaurant} (howner : 0 < ownerId)
    (h : request.toRestaurant ownerId now = .ok draft) : draft.WellFormed := by
  obtain ⟨hempty, rfl⟩ := of_finish_bind h
  obtain ⟨hname, hlength, hdescription, hlocation⟩ := isEmpty_judge_iff.1 hempty
  obtain ⟨name, hsome, hblank⟩ := FieldErrors.isGiven_eq_true_iff.1 hname
  obtain ⟨description, hdescriptionSome, hdescriptionBlank⟩ :=
    FieldErrors.isGiven_eq_true_iff.1 hdescription
  obtain ⟨location, hlocationSome, hlocationBlank⟩ := FieldErrors.isGiven_eq_true_iff.1 hlocation
  obtain ⟨hleast, hmost⟩ := hlength name hsome
  rw [hsome, hdescriptionSome, hlocationSome]
  exact ⟨howner, hblank, hleast, hmost, hdescriptionBlank, hlocationBlank,
    givenOrAbsent_nonBlank _, givenOrAbsent_nonBlank _, givenOrAbsent_nonBlank _⟩

end RestaurantRequest

/-! ## Menu items -/

namespace MenuItemRequest

theorem priceFault?_eq_none_iff {price : Option Float} :
    priceFault? price = none ↔
      ∃ amount, price = some amount ∧ amount.isFinite = true ∧ 0.0 < amount := by
  cases price with
  | none => simp [priceFault?]
  | some amount => simp [priceFault?]

theorem isEmpty_judge_iff {request : MenuItemRequest} :
    request.judge.isEmpty = true ↔
      FieldErrors.isGiven request.name = true ∧
        FieldErrors.isGiven request.description = true ∧ priceFault? request.price = none := by
  unfold judge
  simp only [FieldErrors.isEmpty_addFault, FieldErrors.isEmpty_notBlank,
    FieldErrors.isEmpty_empty, Bool.true_and, Bool.and_eq_true, Option.isNone_iff_eq_none,
    and_assoc]

/-- What is made of a menu item request that passed is well formed. -/
theorem wellFormed_of_toContent {request : MenuItemRequest} {content : MenuItem.Content}
    (h : request.toContent = .ok content) : content.WellFormed := by
  obtain ⟨hempty, rfl⟩ := of_finish_bind h
  obtain ⟨hname, hdescription, hprice⟩ := isEmpty_judge_iff.1 hempty
  obtain ⟨name, hsome, hblank⟩ := FieldErrors.isGiven_eq_true_iff.1 hname
  obtain ⟨description, hdescriptionSome, hdescriptionBlank⟩ :=
    FieldErrors.isGiven_eq_true_iff.1 hdescription
  obtain ⟨amount, hamount, hfinite, hpositive⟩ := priceFault?_eq_none_iff.1 hprice
  rw [hsome, hdescriptionSome, hamount]
  exact ⟨hblank, hdescriptionBlank, hfinite, hpositive⟩

end MenuItemRequest

end Service

end FoodOrdering
