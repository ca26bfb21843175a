import FoodOrdering.Proofs.Service.FieldErrors
import FoodOrdering.Proofs.Service.Required
import FoodOrdering.Proofs.Text.Decimal
import Mathlib.Data.List.Basic
import Mathlib.Data.List.Nodup

/-!
# What is wrong with an order request

A request is judged field by field, and each item by fields of its own.  Main statement: what passes
is complete and becomes an order without any loss, and of what does not pass every faulty field is
reported, each of them once and under its own key, and nothing else is.
-/

namespace FoodOrdering.Service.OrderRequest

/-! ## Fields and their keys -/

/-- The parts of an item that are judged. -/
inductive Part where
  | itemName
  | quantity
  | price
  deriving DecidableEq, Repr

def Part.name : Part → String
  | .itemName => "itemName"
  | .quantity => "quantity"
  | .price => "price"

/-- What is judged of a request, an item by its position. -/
inductive Field where
  | restaurantId
  | items
  | item (index : Nat) (part : Part)
  deriving DecidableEq, Repr

/-- The name under which a field is reported. -/
def Field.key : Field → String
  | .restaurantId => "restaurantId"
  | .items => "items"
  | .item index part => itemField index part.name

theorem toList_itemField (index : Nat) (name : String) :
    (itemField index name).toList =
      "items[".toList ++ (Text.writeNat index ++ ']' :: '.' :: name.toList) := by
  simp [itemField, Text.ofNat]

theorem Part.name_injective : Function.Injective Part.name := by
  intro first second heq
  cases first <;> cases second <;> first | rfl | exact absurd heq (by decide)

/-- The digits of a position end at the bracket, so that a key tells the position and the part. -/
theorem itemField_injective {first second : Nat} {part other : Part}
    (heq : itemField first part.name = itemField second other.name) :
    first = second ∧ part = other := by
  have hlist := congrArg String.toList heq
  rw [toList_itemField, toList_itemField, List.append_cancel_left_eq] at hlist
  have hdigits : ']' ∉ Text.writeNat first := by
    intro hmem
    exact absurd (Text.isDigit_of_mem_writeNat hmem) (by decide)
  have hname : ']' ∉ '.' :: part.name.toList := by
    cases part <;> decide
  obtain ⟨hindex, -, hpart⟩ := (List.append_cons_inj_of_notMem hdigits hname).1 hlist
  exact ⟨Text.writeNat_injective hindex,
    Part.name_injective (String.toList_inj.1 (List.cons.inj hpart).2)⟩

theorem Field.key_injective : Function.Injective Field.key := by
  have hother : ∀ text : String, ¬ "items[".toList <+: text.toList →
      ∀ index part, text ≠ (Field.item index part).key := by
    rintro _ hnot index part rfl
    exact hnot ⟨_, (toList_itemField index part.name).symm⟩
  have hrestaurantId := hother "restaurantId" (by decide)
  have hitems := hother "items" (by decide)
  intro first second heq
  cases first with
  | restaurantId =>
      cases second with
      | restaurantId => rfl
      | items => exact absurd heq (by decide)
      | item index part => exact absurd heq (hrestaurantId index part)
  | items =>
      cases second with
      | restaurantId => exact absurd heq (by decide)
      | items => rfl
      | item index part => exact absurd heq (hitems index part)
  | item index part =>
      cases second with
      | restaurantId => exact absurd heq.symm (hrestaurantId index part)
      | items => exact absurd heq.symm (hitems index part)
      | item other part =>
          obtain ⟨rfl, rfl⟩ := itemField_injective heq
          rfl

/-! ## Faults -/

/-- What is wrong with a part of an item. -/
def Item.fault? (item : Item) : Part → Option String
  | .itemName => if FieldErrors.isGiven item.name then none else some mustNotBeBlank
  | .quantity => quantityFault? item.quantity
  | .price => priceFault? item.price

/-- What is wrong with a field of a request. -/
def fault? (request : OrderRequest) : Field → Option String
  | .restaurantId => if request.restaurantId.isSome then none else some mustNotBeNull
  | .items =>
      match request.items with
      | none => some mustNotBeNull
      | some [] => some "must not be empty"
      | some (_ :: _) => none
  | .item index part => (request.items.getD [])[index]?.bind fun item => item.fault? part

/-- The faults of the item at a position, in the order in which they are found. -/
def Item.faults (item : Item) (index : Nat) : List (Field × String) :=
  [Part.itemName, .quantity, .price].filterMap fun part =>
    (item.fault? part).map fun message => (.item index part, message)

/-- The faults of items from a position on. -/
def itemFaults (index : Nat) : List Item → List (Field × String)
  | [] => []
  | item :: rest => item.faults index ++ itemFaults (index + 1) rest

/-- All faults of a request, in the order in which they are found. -/
def faults (request : OrderRequest) : List (Field × String) :=
  ([Field.restaurantId, .items].filterMap fun field =>
    (request.fault? field).map fun message => (field, message)) ++
    itemFaults 0 (request.items.getD [])

/-- What is said of fields, by their keys. -/
def keyed (faults : List (Field × String)) : List (String × String) :=
  faults.map fun fault => (fault.1.key, fault.2)

/-! ## Judging is saying the faults -/

theorem Item.mem_faults_iff {item : Item} {index : Nat} {field : Field} {message : String} :
    (field, message) ∈ item.faults index ↔
      ∃ part, field = .item index part ∧ item.fault? part = some message := by
  rw [faults, List.mem_filterMap]
  constructor
  · rintro ⟨part, -, hfault⟩
    obtain ⟨_, hmessage, heq⟩ := Option.map_eq_some_iff.1 hfault
    cases heq
    exact ⟨part, rfl, hmessage⟩
  · rintro ⟨part, rfl, hmessage⟩
    refine ⟨part, ?_, by rw [hmessage]; rfl⟩
    cases part <;> simp

theorem Item.judge_eq (item : Item) (index : Nat) (errors : FieldErrors) :
    item.judge index errors = errors.sayAll (keyed (item.faults index)) := by
  have hname : errors.notBlank (itemField index "itemName") item.name mustNotBeBlank =
      addFault errors (itemField index "itemName") (item.fault? .itemName) := by
    rw [FieldErrors.notBlank, FieldErrors.require, Item.fault?]
    cases FieldErrors.isGiven item.name <;> rfl
  rw [judge, hname]
  show addFault (addFault (addFault errors _ _) _ (item.fault? .quantity)) _
    (item.fault? .price) = _
  simp only [faults, List.filterMap_cons, List.filterMap_nil]
  cases item.fault? .itemName <;> cases item.fault? .quantity <;> cases item.fault? .price <;> rfl

theorem judgeItems_eq (index : Nat) (errors : FieldErrors) (items : List Item) :
    judgeItems index errors items = errors.sayAll (keyed (itemFaults index items)) := by
  induction items generalizing index errors with
  | nil => rfl
  | cons item rest ih =>
      rw [judgeItems, ih, item.judge_eq, ← FieldErrors.sayAll_append]
      exact congrArg errors.sayAll List.map_append.symm

theorem judge_eq (request : OrderRequest) :
    request.judge = FieldErrors.empty.sayAll (keyed request.faults) := by
  obtain ⟨restaurantId, items⟩ := request
  unfold judge
  cases items with
  | none => cases restaurantId <;> rfl
  | some items =>
      cases items with
      | nil => cases restaurantId <;> rfl
      | cons item rest =>
          dsimp only
          rw [judgeItems_eq]
          cases restaurantId <;> rfl

theorem mem_itemFaults_iff {start : Nat} {items : List Item} {field : Field} {message : String} :
    (field, message) ∈ itemFaults start items ↔
      ∃ index item part, items[index]? = some item ∧ field = .item (start + index) part ∧
        item.fault? part = some message := by
  induction items generalizing start with
  | nil => simp [itemFaults]
  | cons item rest ih =>
      rw [itemFaults, List.mem_append, Item.mem_faults_iff, ih]
      constructor
      · rintro (⟨part, rfl, hfault⟩ | ⟨index, other, part, hother, rfl, hfault⟩)
        · exact ⟨0, item, part, rfl, rfl, hfault⟩
        · exact ⟨index + 1, other, part, hother, by rw [Nat.add_assoc, Nat.add_comm 1], hfault⟩
      · rintro ⟨index, other, part, hother, rfl, hfault⟩
        cases index with
        | zero =>
            cases hother
            exact Or.inl ⟨part, rfl, hfault⟩
        | succ index =>
            exact Or.inr ⟨index, other, part, hother, by rw [Nat.add_assoc, Nat.add_comm 1], hfault⟩

theorem mem_faults_iff {request : OrderRequest} {field : Field} {message : String} :
    (field, message) ∈ request.faults ↔ request.fault? field = some message := by
  rw [faults, List.mem_append, List.mem_filterMap, mem_itemFaults_iff]
  constructor
  · rintro (⟨named, -, hfault⟩ | ⟨index, item, part, hitem, rfl, hfault⟩)
    · obtain ⟨_, hmessage, heq⟩ := Option.map_eq_some_iff.1 hfault
      cases heq
      exact hmessage
    · rw [fault?, Nat.zero_add, hitem]
      exact hfault
  · intro hfault
    cases field with
    | restaurantId => exact Or.inl ⟨.restaurantId, by simp, by rw [hfault]; rfl⟩
    | items => exact Or.inl ⟨.items, by simp, by rw [hfault]; rfl⟩
    | item index part =>
        obtain ⟨item, hitem, hpart⟩ := Option.bind_eq_some_iff.1 hfault
        exact Or.inr ⟨index, item, part, hitem, by rw [Nat.zero_add], hpart⟩

/-! ## No field twice -/

theorem Item.nodup_faults (item : Item) (index : Nat) :
    ((item.faults index).map Prod.fst).Nodup := by
  simp only [faults, List.filterMap_cons, List.filterMap_nil]
  cases item.fault? .itemName <;> cases item.fault? .quantity <;> cases item.fault? .price <;>
    simp

theorem exists_of_mem_itemFaults {start : Nat} {items : List Item} {field : Field}
    (h : field ∈ (itemFaults start items).map Prod.fst) :
    ∃ index part, field = .item (start + index) part := by
  obtain ⟨⟨named, message⟩, hmem, rfl⟩ := List.mem_map.1 h
  obtain ⟨index, -, part, -, hfield, -⟩ := mem_itemFaults_iff.1 hmem
  exact ⟨index, part, hfield⟩

theorem nodup_itemFaults (start : Nat) (items : List Item) :
    ((itemFaults start items).map Prod.fst).Nodup := by
  induction items generalizing start with
  | nil => exact List.nodup_nil
  | cons item rest ih =>
      rw [itemFaults, List.map_append]
      refine List.nodup_append.2 ⟨item.nodup_faults start, ih (start + 1), ?_⟩
      rintro _ hhere other hbehind rfl
      obtain ⟨⟨named, message⟩, hmem, rfl⟩ := List.mem_map.1 hhere
      obtain ⟨part, hpart, -⟩ := Item.mem_faults_iff.1 hmem
      obtain ⟨index, later, hlater⟩ := exists_of_mem_itemFaults hbehind
      have hindex : start = start + 1 + index := (Field.item.inj (hpart.symm.trans hlater)).1
      omega

theorem nodup_faults (request : OrderRequest) : (request.faults.map Prod.fst).Nodup := by
  rw [faults, List.map_append]
  refine List.nodup_append.2 ⟨?_, nodup_itemFaults 0 _, ?_⟩
  · simp only [List.filterMap_cons, List.filterMap_nil]
    cases request.fault? .restaurantId <;> cases request.fault? .items <;> simp
  · rintro _ hhere other hbehind rfl
    obtain ⟨⟨named, message⟩, hmem, rfl⟩ := List.mem_map.1 hhere
    obtain ⟨field, hfield, hfault⟩ := List.mem_filterMap.1 hmem
    obtain ⟨_, -, heq⟩ := Option.map_eq_some_iff.1 hfault
    obtain ⟨index, part, hitem⟩ := exists_of_mem_itemFaults hbehind
    cases heq
    cases hitem
    simp at hfield

theorem nodup_keyed (request : OrderRequest) :
    ((keyed request.faults).map Prod.fst).Nodup := by
  have hmap : (keyed request.faults).map Prod.fst =
      (request.faults.map Prod.fst).map Field.key := by
    rw [keyed, List.map_map, List.map_map]
    rfl
  rw [hmap]
  exact request.nodup_faults.map Field.key_injective

/-- What is reported of a request is what is wrong with its fields. -/
theorem mem_joined_judge_iff {request : OrderRequest} {key message : String} :
    (key, message) ∈ request.judge.joined ↔
      ∃ field, field.key = key ∧ request.fault? field = some message := by
  rw [judge_eq, FieldErrors.mem_joined_sayAll_iff request.nodup_keyed, keyed, List.mem_map]
  constructor
  · rintro ⟨⟨field, _⟩, hmem, heq⟩
    cases heq
    exact ⟨field, rfl, mem_faults_iff.1 hmem⟩
  · rintro ⟨field, rfl, hfault⟩
    exact ⟨(field, message), mem_faults_iff.2 hfault, rfl⟩

/-! ## Completeness -/

/-- Everything that is asked of an item is there. -/
structure Item.IsComplete (item : Item) : Prop where
  name : ∃ name, item.name = some name ∧ Text.isBlankText name = false
  quantity : ∃ quantity, item.quantity = some quantity ∧
    1 ≤ quantity.toInt ∧ quantity.toInt ≤ 4294967295
  price : ∃ price, item.price = some price ∧ price.isFinite = true ∧ 0.0 ≤ price

/-- Everything that is asked of a request is there. -/
structure IsComplete (request : OrderRequest) : Prop where
  restaurantId : request.restaurantId ≠ none
  items : ∃ items, request.items = some items ∧ items ≠ [] ∧ ∀ item ∈ items, item.IsComplete

/-- A part of an item is not there, or is not what is asked. -/
def Item.IsFaulty (item : Item) : Part → Prop
  | .itemName => ∀ name, item.name = some name → Text.isBlankText name = true
  | .quantity => ∀ quantity, item.quantity = some quantity →
      quantity.toInt < 1 ∨ 4294967295 < quantity.toInt
  | .price => ∀ price, item.price = some price → price.isFinite = false ∨ ¬ 0.0 ≤ price

/-- A field of a request is not there, or is not what is asked. -/
def IsFaulty (request : OrderRequest) : Field → Prop
  | .restaurantId => request.restaurantId = none
  | .items => request.items = none ∨ request.items = some []
  | .item index part => ∃ items item, request.items = some items ∧ items[index]? = some item ∧
      item.IsFaulty part

theorem Item.fault?_eq_none_iff {item : Item} {part : Part} :
    item.fault? part = none ↔ ¬ item.IsFaulty part := by
  cases part with
  | itemName =>
      have hgiven : item.fault? .itemName = none ↔ FieldErrors.isGiven item.name = true := by
        rw [fault?]
        cases FieldErrors.isGiven item.name <;> simp
      rw [hgiven, FieldErrors.isGiven_eq_true_iff, IsFaulty]
      simp only [not_forall, exists_prop, Bool.not_eq_true]
  | quantity =>
      rw [fault?, quantityFault?_eq_none_iff, IsFaulty]
      simp only [not_forall, exists_prop, not_or, Int.not_lt]
  | price =>
      rw [fault?, priceFault?_eq_none_iff, IsFaulty]
      simp only [not_forall, exists_prop, not_or, Bool.not_eq_false, not_not]

theorem Item.isSome_fault?_iff {item : Item} {part : Part} :
    (item.fault? part).isSome = true ↔ item.IsFaulty part := by
  rw [Option.isSome_iff_ne_none, Ne, fault?_eq_none_iff, not_not]

theorem isSome_fault?_iff {request : OrderRequest} {field : Field} :
    (request.fault? field).isSome = true ↔ request.IsFaulty field := by
  obtain ⟨restaurantId, items⟩ := request
  cases field with
  | restaurantId => cases restaurantId <;> simp [fault?, IsFaulty]
  | items =>
      cases items with
      | none => simp [fault?, IsFaulty]
      | some items => cases items <;> simp [fault?, IsFaulty]
  | item index part =>
      cases items with
      | none => simp [fault?, IsFaulty]
      | some items =>
          cases hitem : items[index]? <;>
            simp [fault?, IsFaulty, hitem, Item.isSome_fault?_iff]

theorem Item.isComplete_iff {item : Item} : item.IsComplete ↔ item.IsValid := by
  constructor
  · intro h
    exact ⟨FieldErrors.isGiven_eq_true_iff.2 h.name, quantityFault?_eq_none_iff.2 h.quantity,
      priceFault?_eq_none_iff.2 h.price⟩
  · intro h
    exact ⟨FieldErrors.isGiven_eq_true_iff.1 h.name, quantityFault?_eq_none_iff.1 h.quantity,
      priceFault?_eq_none_iff.1 h.price⟩

theorem isComplete_iff {request : OrderRequest} :
    request.IsComplete ↔ request.judge.isEmpty = true := by
  rw [isEmpty_judge_iff, Option.isSome_iff_ne_none]
  constructor
  · rintro ⟨hrestaurant, items, hitems, hne, hcomplete⟩
    exact ⟨hrestaurant, items, hitems, hne,
      fun item hmem => Item.isComplete_iff.1 (hcomplete item hmem)⟩
  · rintro ⟨hrestaurant, items, hitems, hne, hvalid⟩
    exact ⟨hrestaurant, items, hitems, hne,
      fun item hmem => Item.isComplete_iff.2 (hvalid item hmem)⟩

/-! ## Orders and reports -/

/-- The order is what the customer asks for. -/
structure IsAskedFor (request : OrderRequest) (customerId : Int64) (order : Order) : Prop where
  customerId_eq : order.customerId = customerId
  status_eq : order.status = .pending
  becomes : request.Becomes order

/-- The report has one entry for each faulty field, which says what is wrong with it, and no other
entries. -/
structure IsReportedBy (request : OrderRequest) (report : List (String × String)) : Prop where
  nodup : (report.map Prod.fst).Nodup
  mem_iff : ∀ key message, (key, message) ∈ report ↔
    ∃ field, field.key = key ∧ request.fault? field = some message
  key_mem_iff : ∀ field : Field, field.key ∈ report.map Prod.fst ↔ request.IsFaulty field

theorem isReportedBy_judge (request : OrderRequest) :
    request.IsReportedBy request.judge.joined where
  nodup := request.judge.nodup_joined
  mem_iff _ _ := mem_joined_judge_iff
  key_mem_iff field := by
    rw [← isSome_fault?_iff, Option.isSome_iff_exists, List.mem_map]
    constructor
    · rintro ⟨⟨key, message⟩, hmem, rfl⟩
      obtain ⟨other, hkey, hfault⟩ := mem_joined_judge_iff.1 hmem
      obtain rfl := Field.key_injective hkey
      exact ⟨message, hfault⟩
    · rintro ⟨message, hfault⟩
      exact ⟨(field.key, message), mem_joined_judge_iff.2 ⟨field, rfl, hfault⟩, rfl⟩

/-- How a request is judged: what is complete, and nothing else, becomes the order that is asked
for, and of anything else its faulty fields are reported, no two of them under one key. -/
structure IsJudgedExactly (request : OrderRequest) (customerId : Int64) (now : Instant) : Prop where
  ok_iff : (∃ order, request.toOrder customerId now = .ok order) ↔ request.IsComplete
  asked : ∀ order, request.toOrder customerId now = .ok order →
    request.IsAskedFor customerId order
  reported : ∀ problem, request.toOrder customerId now = .error problem →
    ∃ errors, problem = .invalid errors ∧ request.IsReportedBy errors.joined
  keys : Function.Injective Field.key

/-- Judging order requests is sound, complete and lossless. -/
theorem order_requests_are_judged_exactly (request : OrderRequest) (customerId : Int64)
    (now : Instant) : request.IsJudgedExactly customerId now := by
  have horder : request.toOrder customerId now = (do
      request.judge.finish
      return Order.pending customerId (request.restaurantId.getD 0)
        ((request.items.getD []).filterMap Item.toItem?) now) := rfl
  constructor
  · rw [isComplete_iff]
    constructor
    · rintro ⟨order, hok⟩
      exact (of_finish_bind hok).1
    · intro hempty
      rw [horder, FieldErrors.finish, if_pos hempty]
      exact ⟨_, rfl⟩
  · intro order hok
    obtain ⟨-, heq⟩ := of_finish_bind hok
    exact ⟨heq ▸ rfl, heq ▸ rfl, becomes_of_toOrder hok⟩
  · intro problem herror
    rw [horder, FieldErrors.finish] at herror
    split at herror
    next => cases herror
    next =>
      cases herror
      exact ⟨request.judge, rfl, request.isReportedBy_judge⟩
  · exact Field.key_injective

/-- Everything is wrong with the second of these items. -/
example :
    (OrderRequest.judge
      { restaurantId := none
        items := some [⟨some "Tea", some 1, some 2.5⟩, ⟨some " ", some 0, none⟩] }).joined =
      [("items[1].itemName", "must not be blank"), ("items[1].price", "must not be null"),
        ("items[1].quantity", "must be greater than or equal to 1"),
        ("restaurantId", "must not be null")] := by
  decide +kernel

end FoodOrdering.Service.OrderRequest
