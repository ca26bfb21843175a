import FoodOrdering.Proofs.Service.FieldErrors
import FoodOrdering.Proofs.Service.Required

/-!
# What is wrong with requests about restaurants

Restaurants, menu items and statuses are asked for by requests of their own, whose fields are judged
one after the other.  Main statement: what passes is complete and becomes what was asked for without
any loss, and of what does not pass every violated field is reported, with all that is wrong with it
in the order in which it is looked for, and nothing else is.
-/

namespace FoodOrdering

namespace Restaurant.Status

theorem ofName?_eq_some_iff {text : String} {status : Status} :
    ofName? text = some status ↔ text = status.name := by
  constructor
  · intro h
    unfold ofName? at h
    split at h
    next htext =>
      cases h
      exact htext
    split at h
    next htext =>
      cases h
      exact htext
    split at h
    next htext =>
      cases h
      exact htext
    next => cases h
  · rintro rfl
    exact ofName?_name status

theorem upperAscii_name (status : Status) : Text.upperAscii status.name = status.name := by
  cases status <;> decide

end Restaurant.Status

namespace Service

/-! ## Judging by fields -/

/-- How a request is judged: what is complete, and nothing else, becomes something that was asked
for, and of anything else the violated fields are reported, no two of them under one key. -/
structure IsJudgedBy {Field α : Type} (key : Field → String) (faults : Field → List String)
    (complete : Prop) (violated : Field → Prop) (asked : α → Prop) (judged : Except Problem α) :
    Prop where
  ok_iff : (∃ value, judged = .ok value) ↔ complete
  asked : ∀ value, judged = .ok value → asked value
  reported : ∀ problem, judged = .error problem →
    ∃ errors, problem = .invalid errors ∧
      FieldErrors.IsReport key faults violated errors.joined
  keys : Function.Injective key

/-- A request that is refused as soon as anything was said of its fields is judged by them. -/
theorem isJudgedBy_of_finish {Field α : Type} {key : Field → String}
    {faults : Field → List String} {complete : Prop} {violated : Field → Prop} {asked : α → Prop}
    {errors : FieldErrors} {value : α} {judged : Except Problem α}
    (hjudged : judged = (do errors.finish; return value)) (hkeys : Function.Injective key)
    (hcomplete : complete ↔ errors.isEmpty = true) (hasked : judged = .ok value → asked value)
    (hreport : FieldErrors.IsReport key faults violated errors.joined) :
    IsJudgedBy key faults complete violated asked judged := by
  have hok : ∀ {result}, judged = .ok result → errors.isEmpty = true ∧ result = value :=
    fun h => of_finish_bind (hjudged ▸ h)
  refine ⟨?_, ?_, ?_, hkeys⟩
  · rw [hcomplete]
    constructor
    · rintro ⟨result, h⟩
      exact (hok h).1
    · intro hempty
      rw [hjudged, FieldErrors.finish, if_pos hempty]
      exact ⟨value, rfl⟩
  · intro result h
    obtain rfl := (hok h).2
    exact hasked h
  · intro problem h
    rw [hjudged, FieldErrors.finish] at h
    split at h
    next => cases h
    next =>
      cases h
      exact ⟨errors, rfl, hreport⟩

/-- The text is there, and not all of it is blank. -/
def IsGiven (value : Option String) : Prop :=
  ∃ text, value = some text ∧ Text.isBlankText text = false

instance (value : Option String) : Decidable (IsGiven value) :=
  decidable_of_iff _ FieldErrors.isGiven_eq_true_iff

/-- What is wrong with a text that must be given. -/
def requiredFaults (value : Option String) (message : String) : List String :=
  if IsGiven value then [] else [message]

theorem requiredFaults_eq_nil_iff {value : Option String} {message : String} :
    requiredFaults value message = [] ↔ IsGiven value := by
  unfold requiredFaults
  split
  next hgiven => exact iff_of_true rfl hgiven
  next hnot => exact iff_of_false nofun hnot

theorem notBlank_eq_sayAll (errors : FieldErrors) (field : String) (value : Option String)
    (message : String) :
    errors.notBlank field value message =
      errors.sayAll ((requiredFaults value message).map fun fault => (field, fault)) := by
  unfold FieldErrors.notBlank FieldErrors.require requiredFaults
  by_cases hgiven : IsGiven value
  · rw [if_pos hgiven, if_pos (FieldErrors.isGiven_eq_true_iff.2 hgiven)]
    rfl
  · rw [if_neg hgiven, if_neg fun h => hgiven (FieldErrors.isGiven_eq_true_iff.1 h)]
    rfl

/-! ## Restaurants -/

namespace RestaurantRequest

/-- What is judged of a request. -/
inductive Field where
  | name
  | description
  | location
  deriving DecidableEq, Repr

namespace Field

/-- The name under which a field is reported. -/
def key : Field → String
  | .name => "name"
  | .description => "description"
  | .location => "location"

/-- The fields in the order in which they are judged. -/
def all : List Field :=
  [.name, .description, .location]

theorem mem_all (field : Field) : field ∈ all := by
  cases field <;> decide

theorem key_injective : Function.Injective key := by
  intro first second heq
  cases first <;> cases second <;> first | rfl | exact absurd heq (by decide)

end Field

/-- What is wrong with the size of a text that is there. -/
def sizeFaults : Option String → List String
  | none => []
  | some text =>
      if 2 ≤ text.length ∧ text.length ≤ 100 then [] else ["size must be between 2 and 100"]

/-- What is wrong with a field, in the order in which it is looked for. -/
def faults (request : RestaurantRequest) : Field → List String
  | .name => requiredFaults request.name "must not be blank" ++ sizeFaults request.name
  | .description => requiredFaults request.description "must not be blank"
  | .location => requiredFaults request.location "must not be blank"

/-- The name is there and not blank, and has from 2 to 100 characters. -/
def HasName (request : RestaurantRequest) : Prop :=
  ∃ name, request.name = some name ∧ Text.isBlankText name = false ∧
    2 ≤ name.length ∧ name.length ≤ 100

/-- Everything that is asked of a request is there. -/
structure IsComplete (request : RestaurantRequest) : Prop where
  name : request.HasName
  description : IsGiven request.description
  location : IsGiven request.location

/-- A field of a request is not there, or is not what is asked. -/
def IsViolated (request : RestaurantRequest) : Field → Prop
  | .name => ¬ request.HasName
  | .description => ¬ IsGiven request.description
  | .location => ¬ IsGiven request.location

/-- A text that may be left out is taken over unless it is blank. -/
def Keeps (asked kept : Option String) : Prop :=
  ∀ text, kept = some text ↔ asked = some text ∧ Text.isBlankText text = false

/-- The restaurant is what its owner asks for, and waits for its review. -/
structure IsAskedFor (request : RestaurantRequest) (ownerId : Int64) (restaurant : Restaurant) :
    Prop where
  becomes : request.Becomes restaurant
  email : Keeps request.email restaurant.email
  phoneNumber : Keeps request.phoneNumber restaurant.phoneNumber
  imageUrl : Keeps request.imageUrl restaurant.imageUrl
  ownerId_eq : restaurant.ownerId = ownerId
  status_eq : restaurant.status = .pending

variable {request : RestaurantRequest}

theorem sizeFaults_eq_nil_iff {value : Option String} :
    sizeFaults value = [] ↔ ∀ text, value = some text → 2 ≤ text.length ∧ text.length ≤ 100 := by
  cases value with
  | none => exact iff_of_true rfl nofun
  | some text => simp [sizeFaults]

theorem size_eq_sayAll (errors : FieldErrors) (field : String) (value : Option String) :
    errors.size field value 2 100 =
      errors.sayAll ((sizeFaults value).map fun fault => (field, fault)) := by
  cases value with
  | none => rfl
  | some text =>
      unfold FieldErrors.size FieldErrors.require sizeFaults
      simp only [Option.all_some, Bool.and_eq_true, decide_eq_true_eq]
      split
      · rfl
      · rfl

theorem judge_eq (request : RestaurantRequest) :
    request.judge =
      FieldErrors.empty.sayAll (FieldErrors.entriesOf Field.key request.faults Field.all) := by
  unfold judge
  simp only [notBlank_eq_sayAll, size_eq_sayAll, ← FieldErrors.sayAll_append]
  simp only [FieldErrors.entriesOf, Field.all, faults, List.flatMap_cons, List.flatMap_nil,
    List.map_append, List.append_nil, List.append_assoc]
  rfl

theorem hasName_iff :
    request.HasName ↔ IsGiven request.name ∧
      ∀ name, request.name = some name → 2 ≤ name.length ∧ name.length ≤ 100 := by
  constructor
  · rintro ⟨name, hname, hblank, hsize⟩
    refine ⟨⟨name, hname, hblank⟩, fun other hother => ?_⟩
    cases hname.symm.trans hother
    exact hsize
  · rintro ⟨⟨name, hname, hblank⟩, hsize⟩
    exact ⟨name, hname, hblank, hsize name hname⟩

theorem faults_ne_nil_iff (field : Field) :
    request.faults field ≠ [] ↔ request.IsViolated field := by
  cases field with
  | name =>
      rw [faults, IsViolated, hasName_iff, ne_eq, List.append_eq_nil_iff,
        requiredFaults_eq_nil_iff, sizeFaults_eq_nil_iff]
  | description => exact not_congr requiredFaults_eq_nil_iff
  | location => exact not_congr requiredFaults_eq_nil_iff

theorem isComplete_iff : request.IsComplete ↔ request.judge.isEmpty = true := by
  simp only [isEmpty_judge_iff, FieldErrors.isGiven_eq_true_iff]
  constructor
  · intro h
    obtain ⟨hname, hsize⟩ := hasName_iff.1 h.name
    exact ⟨hname, hsize, h.description, h.location⟩
  · rintro ⟨hname, hsize, hdescription, hlocation⟩
    exact ⟨hasName_iff.2 ⟨hname, hsize⟩, hdescription, hlocation⟩

theorem keeps_nonBlank (value : Option String) : Keeps value (nonBlank value) := by
  intro text
  rw [nonBlank, Option.filter_eq_some_iff, Bool.not_eq_true']

theorem isJudgedBy_toRestaurant (request : RestaurantRequest) (ownerId : Int64) (now : Instant) :
    IsJudgedBy Field.key request.faults request.IsComplete request.IsViolated
      (request.IsAskedFor ownerId) (request.toRestaurant ownerId now) := by
  refine isJudgedBy_of_finish rfl Field.key_injective isComplete_iff ?_ ?_
  · intro h
    exact ⟨becomes_of_toRestaurant h, keeps_nonBlank _, keeps_nonBlank _, keeps_nonBlank _, rfl,
      rfl⟩
  · rw [judge_eq]
    exact FieldErrors.isReport_sayAll Field.key_injective (by decide) Field.mem_all
      faults_ne_nil_iff

end RestaurantRequest

/-! ## Menu items -/

namespace MenuItemRequest

/-- What is judged of a request. -/
inductive Field where
  | name
  | description
  | price
  deriving DecidableEq, Repr

namespace Field

/-- The name under which a field is reported. -/
def key : Field → String
  | .name => "name"
  | .description => "description"
  | .price => "price"

/-- The fields in the order in which they are judged. -/
def all : List Field :=
  [.name, .description, .price]

theorem mem_all (field : Field) : field ∈ all := by
  cases field <;> decide

theorem key_injective : Function.Injective key := by
  intro first second heq
  cases first <;> cases second <;> first | rfl | exact absurd heq (by decide)

end Field

/-- The price is there and finite, and more than nothing. -/
def HasPrice (request : MenuItemRequest) : Prop :=
  ∃ price, request.price = some price ∧ price.isFinite = true ∧ 0.0 < price

/-- What is wrong with a price. -/
def priceFaults : Option Float → List String
  | none => ["Price is required"]
  | some price => if price.isFinite = true ∧ 0.0 < price then [] else ["Price must be positive"]

/-- What is wrong with a field, in the order in which it is looked for. -/
def faults (request : MenuItemRequest) : Field → List String
  | .name => requiredFaults request.name "Menu item name is required"
  | .description => requiredFaults request.description "Menu item description is required"
  | .price => priceFaults request.price

/-- Everything that is asked of a request is there. -/
structure IsComplete (request : MenuItemRequest) : Prop where
  name : IsGiven request.name
  description : IsGiven request.description
  price : request.HasPrice

/-- A field of a request is not there, or is not what is asked. -/
def IsViolated (request : MenuItemRequest) : Field → Prop
  | .name => ¬ IsGiven request.name
  | .description => ¬ IsGiven request.description
  | .price => ¬ request.HasPrice

variable {request : MenuItemRequest}

theorem priceFaults_eq (price : Option Float) : priceFaults price = (priceFault? price).toList := by
  cases price with
  | none => rfl
  | some price =>
      unfold priceFaults priceFault?
      simp only [Bool.and_eq_true, decide_eq_true_eq]
      split
      · rfl
      · rfl

theorem addFault_eq_sayAll (errors : FieldErrors) (field : String) (fault? : Option String) :
    OrderRequest.addFault errors field fault? =
      errors.sayAll (fault?.toList.map fun fault => (field, fault)) := by
  cases fault? <;> rfl

theorem judge_eq (request : MenuItemRequest) :
    request.judge =
      FieldErrors.empty.sayAll (FieldErrors.entriesOf Field.key request.faults Field.all) := by
  unfold judge
  simp only [notBlank_eq_sayAll, addFault_eq_sayAll, ← FieldErrors.sayAll_append,
    ← priceFaults_eq]
  simp only [FieldErrors.entriesOf, Field.all, faults, List.flatMap_cons, List.flatMap_nil,
    List.append_nil, List.append_assoc]
  rfl

theorem priceFaults_eq_nil_iff : priceFaults request.price = [] ↔ request.HasPrice := by
  rw [priceFaults_eq, Option.toList_eq_nil_iff]
  exact priceFault?_eq_none_iff

theorem faults_ne_nil_iff (field : Field) :
    request.faults field ≠ [] ↔ request.IsViolated field := by
  cases field with
  | name => exact not_congr requiredFaults_eq_nil_iff
  | description => exact not_congr requiredFaults_eq_nil_iff
  | price => exact not_congr priceFaults_eq_nil_iff

theorem isComplete_iff : request.IsComplete ↔ request.judge.isEmpty = true := by
  simp only [isEmpty_judge_iff, FieldErrors.isGiven_eq_true_iff, priceFault?_eq_none_iff]
  constructor
  · intro h
    exact ⟨h.name, h.description, h.price⟩
  · rintro ⟨hname, hdescription, hprice⟩
    exact ⟨hname, hdescription, hprice⟩

theorem isJudgedBy_toContent (request : MenuItemRequest) :
    IsJudgedBy Field.key request.faults request.IsComplete request.IsViolated request.Becomes
      request.toContent := by
  refine isJudgedBy_of_finish rfl Field.key_injective isComplete_iff becomes_of_toContent ?_
  rw [judge_eq]
  exact FieldErrors.isReport_sayAll Field.key_injective (by decide) Field.mem_all faults_ne_nil_iff

end MenuItemRequest

/-! ## Statuses -/

namespace StatusRequest

/-- What is judged of a request. -/
inductive Field where
  | status
  deriving DecidableEq, Repr

namespace Field

/-- The name under which a field is reported. -/
def key : Field → String
  | .status => "status"

/-- The fields in the order in which they are judged. -/
def all : List Field :=
  [.status]

theorem mem_all (field : Field) : field ∈ all := by
  cases field
  decide

theorem key_injective : Function.Injective key := by
  intro first second _
  cases first
  cases second
  rfl

end Field

/-- The text is this name, up to blanks around it and the case of ASCII letters. -/
def Names (text name : String) : Prop :=
  Text.sameIgnoringCase (Text.trim text) name = true

/-- The request names one of the statuses that there are. -/
def IsComplete (request : StatusRequest) : Prop :=
  ∃ text, request.status = some text ∧
    (Names text "PENDING" ∨ Names text "ACTIVE" ∨ Names text "INACTIVE")

/-- The field is not there, or names no status. -/
def IsViolated (request : StatusRequest) : Field → Prop
  | .status => ¬ request.IsComplete

/-- The status is the one that the request names. -/
def Asks (request : StatusRequest) (status : Restaurant.Status) : Prop :=
  ∃ text, request.status = some text ∧ Names text status.name

instance (text name : String) : Decidable (Names text name) :=
  inferInstanceAs (Decidable (_ = true))

/-- What is wrong with a field, in the order in which it is looked for. -/
def faults (request : StatusRequest) : Field → List String
  | .status =>
      match request.status with
      | none => ["must not be null"]
      | some text =>
          if Names text "PENDING" ∨ Names text "ACTIVE" ∨ Names text "INACTIVE" then []
          else ["must be one of PENDING, ACTIVE, INACTIVE"]

variable {request : StatusRequest}

theorem statusOf?_eq_some_iff {text : String} {status : Restaurant.Status} :
    statusOf? text = some status ↔ Names text status.name := by
  rw [statusOf?, Restaurant.Status.ofName?_eq_some_iff, Names, Text.sameIgnoringCase_iff,
    Restaurant.Status.upperAscii_name]

theorem exists_statusOf?_iff {text : String} :
    (∃ status, statusOf? text = some status) ↔
      Names text "PENDING" ∨ Names text "ACTIVE" ∨ Names text "INACTIVE" := by
  constructor
  · rintro ⟨status, h⟩
    have hnames := statusOf?_eq_some_iff.1 h
    cases status with
    | pending => exact .inl hnames
    | active => exact .inr (.inl hnames)
    | inactive => exact .inr (.inr hnames)
  · rintro (hnames | hnames | hnames)
    · exact ⟨.pending, statusOf?_eq_some_iff.2 hnames⟩
    · exact ⟨.active, statusOf?_eq_some_iff.2 hnames⟩
    · exact ⟨.inactive, statusOf?_eq_some_iff.2 hnames⟩

theorem toStatus_eq_ok_iff {status : Restaurant.Status} :
    request.toStatus = .ok status ↔ request.Asks status := by
  constructor
  · intro h
    obtain ⟨text, htext, hstatus⟩ := exists_of_toStatus h
    exact ⟨text, htext, statusOf?_eq_some_iff.1 hstatus⟩
  · rintro ⟨text, htext, hnames⟩
    rw [toStatus, htext]
    dsimp only
    rw [statusOf?_eq_some_iff.2 hnames]

theorem isComplete_iff : request.IsComplete ↔ ∃ status, request.toStatus = .ok status := by
  simp only [toStatus_eq_ok_iff]
  constructor
  · rintro ⟨text, htext, hnames⟩
    obtain ⟨status, hstatus⟩ := exists_statusOf?_iff.2 hnames
    exact ⟨status, text, htext, statusOf?_eq_some_iff.1 hstatus⟩
  · rintro ⟨status, text, htext, hnames⟩
    exact ⟨text, htext, exists_statusOf?_iff.1 ⟨status, statusOf?_eq_some_iff.2 hnames⟩⟩

/-- A request that names no status is refused with what is wrong with it. -/
theorem eq_invalid_of_toStatus {problem : Problem} (h : request.toStatus = .error problem) :
    problem = .invalid
      (FieldErrors.empty.sayAll (FieldErrors.entriesOf Field.key request.faults Field.all)) := by
  unfold toStatus at h
  split at h
  next hnone =>
    cases h
    simp only [FieldErrors.entriesOf, Field.all, faults, hnone, List.flatMap_singleton]
    rfl
  next text htext =>
    split at h
    next => cases h
    next hnone =>
      cases h
      have hunnamed : ¬ (Names text "PENDING" ∨ Names text "ACTIVE" ∨ Names text "INACTIVE") := by
        rw [← exists_statusOf?_iff, hnone]
        rintro ⟨status, hstatus⟩
        cases hstatus
      simp only [FieldErrors.entriesOf, Field.all, faults, htext, List.flatMap_singleton,
        if_neg hunnamed]
      rfl

theorem faults_ne_nil_iff (field : Field) :
    request.faults field ≠ [] ↔ request.IsViolated field := by
  cases field
  unfold faults IsViolated IsComplete
  dsimp only
  split
  next hnone => simp [hnone]
  next text htext =>
    simp only [htext, Option.some.injEq, exists_eq_left', ne_eq, not_iff_not]
    split
    next hnames => exact iff_of_true rfl hnames
    next hnot => exact iff_of_false nofun hnot

theorem isJudgedBy_toStatus (request : StatusRequest) :
    IsJudgedBy Field.key request.faults request.IsComplete request.IsViolated request.Asks
      request.toStatus where
  ok_iff := isComplete_iff.symm
  asked _ := toStatus_eq_ok_iff.1
  reported _ h :=
    ⟨_, eq_invalid_of_toStatus h,
      FieldErrors.isReport_sayAll Field.key_injective (by decide) Field.mem_all faults_ne_nil_iff⟩
  keys := Field.key_injective

end StatusRequest

/-- Judging requests about restaurants is sound, complete and lossless. -/
theorem restaurant_requests_are_judged_exactly (restaurant : RestaurantRequest)
    (item : MenuItemRequest) (status : StatusRequest) (ownerId : Int64) (now : Instant) :
    IsJudgedBy RestaurantRequest.Field.key restaurant.faults restaurant.IsComplete
        restaurant.IsViolated (restaurant.IsAskedFor ownerId)
        (restaurant.toRestaurant ownerId now) ∧
      IsJudgedBy MenuItemRequest.Field.key item.faults item.IsComplete item.IsViolated
        item.Becomes item.toContent ∧
      IsJudgedBy StatusRequest.Field.key status.faults status.IsComplete status.IsViolated
        status.Asks status.toStatus :=
  ⟨restaurant.isJudgedBy_toRestaurant ownerId now, item.isJudgedBy_toContent,
    status.isJudgedBy_toStatus⟩

/-- A blank that stands for a name is also too short for one. -/
example :
    (RestaurantRequest.judge { name := some " ", description := some "\u3000" }).joined =
      [("description", "must not be blank"), ("location", "must not be blank"),
        ("name", "must not be blank; size must be between 2 and 100")] := by
  decide +kernel

end Service

end FoodOrdering
