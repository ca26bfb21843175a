import FoodOrdering.Proofs.Service.Journal
import FoodOrdering.Proofs.Service.Judgement
import FoodOrdering.Service.Resource

/-!
# Failures that lie with fields

A program that fails for fields has read a body and judged it, and it fails for what was found wrong
with that body.  Whatever a program finds in the stores, it ends with such a failure, with one that
concerns no fields, or served.
-/

namespace FoodOrdering

namespace FieldErrors

theorem joined_ne_nil_iff {errors : FieldErrors} :
    errors.joined ≠ [] ↔ errors.isEmpty = false := by
  rw [joined, ne_eq, List.map_eq_nil_iff, isEmpty, List.isEmpty_eq_false_iff]

end FieldErrors

/-- A request that does not pass is refused for what was said of its fields. -/
theorem of_finish_bind_error {α : Type} {errors : FieldErrors} {value : α}
    {problem : Service.Problem}
    (h : (do errors.finish; return value : Except Service.Problem α) = .error problem) :
    problem = .invalid errors ∧ errors.joined ≠ [] := by
  unfold FieldErrors.finish at h
  split at h
  next => cases h
  next hsaid =>
    cases h
    exact ⟨rfl, FieldErrors.joined_ne_nil_iff.2 (Bool.eq_false_iff.2 hsaid)⟩

namespace Service

theorem StatusRequest.exists_of_toStatus_error {request : StatusRequest} {problem : Problem}
    (h : request.toStatus = .error problem) :
    ∃ errors, problem = .invalid errors ∧ errors.joined ≠ [] := by
  unfold toStatus at h
  split at h
  next =>
    cases h
    exact ⟨_, rfl, FieldErrors.joined_ne_nil_iff.2 (FieldErrors.isEmpty_add ..)⟩
  next =>
    split at h
    next => cases h
    next =>
      cases h
      exact ⟨_, rfl, FieldErrors.joined_ne_nil_iff.2 (FieldErrors.isEmpty_add ..)⟩

/-- The body of a request states what an action asks for, and this is wrong with its fields. -/
inductive Action.FindsFault (request : Http.Request) : Action → FieldErrors → Prop
  | restaurant {asked : RestaurantRequest} {ownerId : Int64} {now : Instant} {errors : FieldErrors}
      (hbody : readBody RestaurantRequest.reader request = .ok asked)
      (hjudged : asked.toRestaurant ownerId now = .error (.invalid errors)) :
      FindsFault request .registerRestaurant errors
  | newItem {part : String} {asked : MenuItemRequest} {errors : FieldErrors}
      (hbody : readBody MenuItemRequest.reader request = .ok asked)
      (hjudged : asked.toContent = .error (.invalid errors)) :
      FindsFault request (.extendMenu part) errors
  | item {part itemPart : String} {asked : MenuItemRequest} {errors : FieldErrors}
      (hbody : readBody MenuItemRequest.reader request = .ok asked)
      (hjudged : asked.toContent = .error (.invalid errors)) :
      FindsFault request (.reviseMenuItem part itemPart) errors
  | status {part : String} {asked : StatusRequest} {errors : FieldErrors}
      (hbody : readBody StatusRequest.reader request = .ok asked)
      (hjudged : asked.toStatus = .error (.invalid errors)) :
      FindsFault request (.changeStatus part) errors
  | order {asked : OrderRequest} {customerId : Int64} {now : Instant} {errors : FieldErrors}
      (hbody : readBody OrderRequest.reader request = .ok asked)
      (hjudged : asked.toOrder customerId now = .error (.invalid errors)) :
      FindsFault request .placeOrder errors

/-- The problem concerns no fields, or it tells something of these. -/
def Problem.LiesWith (fields : FieldErrors → Prop) : Problem → Prop
  | .invalid errors => fields errors ∧ errors.joined ≠ []
  | _ => True

/-! ## Ends of programs -/

namespace Program

variable {α β : Type} {fields : FieldErrors → Prop} {post : α → Prop}

/-- Whatever its accesses give, the program ends with a value that meets a condition or with a
problem that lies with no fields but these. -/
def EndsWith (fields : FieldErrors → Prop) (post : α → Prop) : Program α → Prop
  | .done (.ok value) => post value
  | .done (.error problem) => problem.LiesWith fields
  | .access _ next => ∀ result, (next result).EndsWith fields post
  | .perform _ next => next.EndsWith fields post

theorem EndsWith.bind {program : Program α} {next : α → Program β} {post' : β → Prop}
    (h : program.EndsWith fields post)
    (hnext : ∀ value, post value → (next value).EndsWith fields post') :
    (program >>= next).EndsWith fields post' := by
  induction program with
  | done outcome =>
      cases outcome with
      | ok value => exact hnext value h
      | error problem => exact h
  | access step rest ih => exact fun result => ih result (h result)
  | perform effect rest ih => exact ih h

/-- Whatever the program has come to, what is left of it ends like that. -/
theorem EndsWith.of_reaches {program rest : Program α} {visits : List Visit}
    (hreaches : program.Reaches visits rest) (h : program.EndsWith fields post) :
    rest.EndsWith fields post := by
  induction hreaches with
  | here program => exact h
  | access stores _ ih => exact ih (h _)
  | perform _ ih => exact ih h

theorem endsWith_ofExcept {ε : Type} {problem : ε → Problem} {source : Except ε α}
    (h : ∀ fault, source = .error fault → (problem fault).LiesWith fields) :
    (ofExcept problem source).EndsWith fields fun value => source = .ok value := by
  cases source with
  | ok value => exact rfl
  | error fault => exact h fault rfl

theorem endsWith_readCall (item : Json.Reader α) (call : Call) :
    (readCall item call).EndsWith fields fun asked => readBody item call.request = .ok asked :=
  endsWith_ofExcept fun _ _ => trivial

theorem endsWith_path (source : Except PathFault α) :
    (ofExcept .path source).EndsWith fields fun value => source = .ok value :=
  endsWith_ofExcept fun _ _ => trivial

theorem endsWith_ofStore (source : Except StoreError α) :
    (ofExcept Problem.ofStore source).EndsWith fields fun value => source = .ok value := by
  refine endsWith_ofExcept fun fault _ => ?_
  cases fault with
  | noSuchRestaurant => exact trivial
  | restaurantNotFound => exact trivial
  | menuItemNotFound => exact trivial

theorem endsWith_permit (call : Call) (operation : Operation) (owner : Option Int64) :
    (permit call operation owner).EndsWith fields fun _ => True := by
  unfold permit
  split
  · exact trivial
  · exact trivial

theorem endsWith_identify (call : Call) : (identify call).EndsWith fields fun _ => True := by
  unfold identify
  split
  · exact trivial
  · exact trivial

theorem endsWith_found (id : Int64) (result : Option Restaurant) :
    (found id result).EndsWith fields fun _ => True := by
  cases result with
  | some restaurant => exact trivial
  | none => exact trivial

end Program

open Program

variable {fields : FieldErrors → Prop} (call : Call)

theorem endsWith_admitted (operation : Operation) (id : Int64) :
    (admitted call operation id).EndsWith fields fun _ => True := by
  have hfind : (findRestaurant? id).EndsWith fields fun _ => True := fun _ => trivial
  refine hfind.bind fun restaurant _ => ?_
  exact (endsWith_permit call operation (restaurant.map Restaurant.ownerId)).bind fun _ _ =>
    endsWith_found id restaurant

theorem endsWith_withMenus (restaurants : List Restaurant) :
    (withMenus restaurants).EndsWith fields fun _ => True := by
  induction restaurants with
  | nil => exact trivial
  | cons restaurant rest ih => exact fun _ => ih.bind fun _ _ => trivial

/-- The envelope says that the request was served. -/
def Envelope.IsServed (envelope : Envelope) : Prop :=
  envelope.status = 200 ∨ envelope.status = 201

/-! ## Handlers -/

theorem endsWith_listRestaurants : (listRestaurants call).EndsWith fields Envelope.IsServed :=
  (endsWith_permit call .readListings none).bind fun _ _ restaurants =>
    (endsWith_withMenus restaurants).bind fun _ _ => .inl rfl

theorem endsWith_showRestaurant (part : String) :
    (showRestaurant part call).EndsWith fields Envelope.IsServed :=
  (endsWith_permit call .readListings none).bind fun _ _ =>
    (endsWith_path (pathId part)).bind fun id _ restaurant =>
      (endsWith_found id restaurant).bind fun _ _ _ => .inl rfl

theorem endsWith_showMenu (part : String) :
    (showMenu part call).EndsWith fields Envelope.IsServed :=
  (endsWith_permit call .readListings none).bind fun _ _ =>
    (endsWith_path (pathId part)).bind fun id _ restaurant =>
      (endsWith_found id restaurant).bind fun _ _ _ => .inl rfl

theorem endsWith_listOwnOrders : (listOwnOrders call).EndsWith fields Envelope.IsServed :=
  (endsWith_permit call .listOwnOrders none).bind fun _ _ =>
    (endsWith_identify call).bind fun _ _ _ => .inl rfl

theorem endsWith_listRestaurantOrders (part : String) :
    (listRestaurantOrders part call).EndsWith fields Envelope.IsServed :=
  (endsWith_path (pathId part)).bind fun id _ =>
    (endsWith_admitted call .listRestaurantOrders id).bind fun _ _ _ => .inl rfl

theorem endsWith_registerRestaurant :
    (registerRestaurant call).EndsWith (Action.registerRestaurant.FindsFault call.request)
      Envelope.IsServed := by
  refine (endsWith_permit call .createRestaurant none).bind fun _ _ => ?_
  refine (endsWith_identify call).bind fun user _ => ?_
  refine (endsWith_readCall RestaurantRequest.reader call).bind fun asked hbody => ?_
  refine (endsWith_ofExcept fun problem hjudged => ?_).bind fun draft _ _ => .inr rfl
  obtain ⟨rfl, hsaid⟩ := of_finish_bind_error hjudged
  exact ⟨.restaurant hbody hjudged, hsaid⟩

theorem endsWith_extendMenu (part : String) :
    (extendMenu part call).EndsWith ((Action.extendMenu part).FindsFault call.request)
      Envelope.IsServed := by
  refine (endsWith_path (pathId part)).bind fun id _ => ?_
  refine (endsWith_admitted call .addMenuItem id).bind fun restaurant _ => ?_
  refine (endsWith_readCall MenuItemRequest.reader call).bind fun asked hbody => ?_
  refine (endsWith_ofExcept fun problem hjudged => ?_).bind fun content _ result => ?_
  · obtain ⟨rfl, hsaid⟩ := of_finish_bind_error hjudged
    exact ⟨.newItem hbody hjudged, hsaid⟩
  · exact (endsWith_ofStore result).bind fun _ _ => .inl rfl

theorem endsWith_reviseMenuItem (part itemPart : String) :
    (reviseMenuItem part itemPart call).EndsWith
      ((Action.reviseMenuItem part itemPart).FindsFault call.request) Envelope.IsServed := by
  refine (endsWith_path (pathIds part itemPart)).bind fun ids _ => ?_
  refine (endsWith_admitted call .updateMenuItem ids.1).bind fun restaurant _ => ?_
  refine (endsWith_readCall MenuItemRequest.reader call).bind fun asked hbody => ?_
  refine (endsWith_ofExcept fun problem hjudged => ?_).bind fun content _ result => ?_
  · obtain ⟨rfl, hsaid⟩ := of_finish_bind_error hjudged
    exact ⟨.item hbody hjudged, hsaid⟩
  · exact (endsWith_ofStore result).bind fun _ _ => .inl rfl

theorem endsWith_changeStatus (part : String) :
    (changeStatus part call).EndsWith ((Action.changeStatus part).FindsFault call.request)
      Envelope.IsServed := by
  refine (endsWith_permit call .changeRestaurantStatus none).bind fun _ _ => ?_
  refine (endsWith_path (pathId part)).bind fun id _ => ?_
  refine (endsWith_readCall StatusRequest.reader call).bind fun asked hbody => ?_
  refine (endsWith_ofExcept fun problem hjudged => ?_).bind fun status _ result => ?_
  · obtain ⟨errors, rfl, hsaid⟩ := asked.exists_of_toStatus_error hjudged
    exact ⟨.status hbody hjudged, hsaid⟩
  · exact (endsWith_ofStore result).bind fun _ _ _ => .inl rfl

theorem endsWith_placeOrder :
    (placeOrder call).EndsWith (Action.placeOrder.FindsFault call.request) Envelope.IsServed := by
  refine (endsWith_permit call .placeOrder none).bind fun _ _ => ?_
  refine (endsWith_identify call).bind fun user _ => ?_
  refine (endsWith_readCall OrderRequest.reader call).bind fun asked hbody => ?_
  refine (endsWith_ofExcept fun problem hjudged => ?_).bind fun draft _ restaurant => ?_
  · obtain ⟨rfl, hsaid⟩ := of_finish_bind_error hjudged
    exact ⟨.order hbody hjudged, hsaid⟩
  · exact (endsWith_found draft.restaurantId restaurant).bind fun _ _ _ => .inr rfl

/-- Every action ends served or with a problem, and a problem of fields lies with those that the
body of its request states. -/
theorem endsWith_envelope {action : Action} {program : Call → Program Envelope}
    (h : action.envelope? = some program) :
    (program call).EndsWith (action.FindsFault call.request) Envelope.IsServed := by
  cases action with
  | showHealth => cases h
  | listRestaurants =>
      cases h
      exact endsWith_listRestaurants call
  | registerRestaurant =>
      cases h
      exact endsWith_registerRestaurant call
  | showRestaurant part =>
      cases h
      exact endsWith_showRestaurant call part
  | showMenu part =>
      cases h
      exact endsWith_showMenu call part
  | extendMenu part =>
      cases h
      exact endsWith_extendMenu call part
  | reviseMenuItem part itemPart =>
      cases h
      exact endsWith_reviseMenuItem call part itemPart
  | changeStatus part =>
      cases h
      exact endsWith_changeStatus call part
  | listOwnOrders =>
      cases h
      exact endsWith_listOwnOrders call
  | placeOrder =>
      cases h
      exact endsWith_placeOrder call
  | listRestaurantOrders part =>
      cases h
      exact endsWith_listRestaurantOrders call part

end Service

end FoodOrdering
