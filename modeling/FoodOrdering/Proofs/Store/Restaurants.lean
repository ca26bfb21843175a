import FoodOrdering.Proofs.Lists
import FoodOrdering.Proofs.Store.Records
import FoodOrdering.Store.Restaurants
import Mathlib.Data.List.Perm.Basic

/-!
# Restaurants and menus over a history of calls

What the store of restaurants holds is read off the calls that it answered: the records that came
in, each of them as the last update of it that was not refused left it.  Main statement: this holds
after every run of calls, and what names a record that is not there is refused and changes nothing.
-/

namespace FoodOrdering.RestaurantStore

/-! ## Calls and answers -/

/-- What the store can be asked to change. -/
inductive Call where
  | create (draft : Restaurant)
  | setStatus (id : Int64) (status : Restaurant.Status)
  | addMenuItem (draft : MenuItem)
  | updateMenuItem (restaurantId itemId : Int64) (content : MenuItem.Content)

/-- A call and its answer. -/
inductive Answered where
  | created (draft stored : Restaurant)
  | statusSet (id : Int64) (status : Restaurant.Status) (answer : Except StoreError Restaurant)
  | itemAdded (draft : MenuItem) (answer : Except StoreError MenuItem)
  | itemUpdated (restaurantId itemId : Int64) (content : MenuItem.Content)
      (answer : Except StoreError MenuItem)

def Call.run (store : RestaurantStore) : Call → Answered × RestaurantStore
  | .create draft =>
      let (stored, later) := store.create draft
      (.created draft stored, later)
  | .setStatus id status =>
      let (answer, later) := store.setStatus id status
      (.statusSet id status answer, later)
  | .addMenuItem draft =>
      let (answer, later) := store.addMenuItem draft
      (.itemAdded draft answer, later)
  | .updateMenuItem restaurantId itemId content =>
      let (answer, later) := store.updateMenuItem restaurantId itemId content
      (.itemUpdated restaurantId itemId content answer, later)

/-- The answers to calls that are made one after the other, and the store after them. -/
def perform (store : RestaurantStore) : List Call → List Answered × RestaurantStore
  | [] => ([], store)
  | call :: rest =>
      let (answered, later) := call.run store
      let (others, last) := perform later rest
      (answered :: others, last)

namespace Answered

def isRefused : Answered → Bool
  | .statusSet _ _ (.error _) | .itemAdded _ (.error _) | .itemUpdated _ _ _ (.error _) => true
  | _ => false

/-- The restaurant that came in: what was drafted, under the id that was handed out. -/
def restaurant? : Answered → Option Restaurant
  | .created draft stored => some { draft with id := stored.id }
  | _ => none

/-- The menu item that came in: what was drafted, under the id that was handed out. -/
def menuItem? : Answered → Option MenuItem
  | .itemAdded draft (.ok stored) => some { draft with id := stored.id }
  | _ => none

/-- The status that a restaurant was given. -/
def status? (id : Int64) : Answered → Option Restaurant.Status
  | .statusSet named status (.ok _) => if named = id then some status else none
  | _ => none

/-- The content that a menu item was given. -/
def content? (id : Int64) : Answered → Option MenuItem.Content
  | .itemUpdated _ named content (.ok _) => if named = id then some content else none
  | _ => none

end Answered

/-! ## What a history says -/

/-- The restaurants that came in, as they came in. -/
def newRestaurants (history : List Answered) : List Restaurant :=
  history.filterMap Answered.restaurant?

/-- The menu items that came in, as they came in. -/
def newMenuItems (history : List Answered) : List MenuItem :=
  history.filterMap Answered.menuItem?

def statuses (history : List Answered) (id : Int64) : List Restaurant.Status :=
  history.filterMap (Answered.status? id)

def contents (history : List Answered) (id : Int64) : List MenuItem.Content :=
  history.filterMap (Answered.content? id)

def inStatus (restaurant : Restaurant) (status : Restaurant.Status) : Restaurant :=
  { restaurant with status }

/-- The restaurants that came in, each of them in the status that it was given last. -/
def restaurantsOf (history : List Answered) : List Restaurant :=
  overlaid Restaurant.id inStatus (newRestaurants history) (statuses history)

/-- The menu items that came in, each of them with the content that it was given last. -/
def menuItemsOf (history : List Answered) : List MenuItem :=
  overlaid MenuItem.id MenuItem.withContent (newMenuItems history) (contents history)

/-- How many records came in. -/
def insertions (history : List Answered) : Nat :=
  (newRestaurants history).length + (newMenuItems history).length

/-- The call names a restaurant, or a menu item of a restaurant, that never came in. -/
def Call.IsAstray (history : List Answered) : Call → Prop
  | .create _ => False
  | .setStatus id _ => ∀ restaurant ∈ newRestaurants history, restaurant.id ≠ id
  | .addMenuItem draft =>
      ∀ restaurant ∈ newRestaurants history, restaurant.id ≠ draft.restaurantId
  | .updateMenuItem restaurantId itemId _ =>
      ∀ item ∈ newMenuItems history, item.id = itemId → item.restaurantId ≠ restaurantId

theorem isOverlay_inStatus : IsOverlay Restaurant.id inStatus where
  id_eq _ _ := rfl
  again _ _ _ := rfl

theorem isOverlay_withContent : IsOverlay MenuItem.id MenuItem.withContent where
  id_eq _ _ := rfl
  again _ _ _ := rfl

theorem restaurantId_asUpdated (item : MenuItem) (updates : List MenuItem.Content) :
    (asUpdated MenuItem.withContent item updates).restaurantId = item.restaurantId := by
  unfold asUpdated
  cases updates.getLast? <;> rfl

section Concat

variable {β : Type} (history : List Answered) (answered : Answered)

@[simp]
theorem newRestaurants_concat :
    newRestaurants (history ++ [answered]) =
      newRestaurants history ++ answered.restaurant?.toList :=
  filterMap_concat _ history answered

@[simp]
theorem newMenuItems_concat :
    newMenuItems (history ++ [answered]) = newMenuItems history ++ answered.menuItem?.toList :=
  filterMap_concat _ history answered

@[simp]
theorem statuses_concat :
    statuses (history ++ [answered]) = fun id =>
      statuses history id ++ (answered.status? id).toList :=
  funext fun _ => filterMap_concat _ history answered

@[simp]
theorem contents_concat :
    contents (history ++ [answered]) = fun id =>
      contents history id ++ (answered.content? id).toList :=
  funext fun _ => filterMap_concat _ history answered

end Concat

/-! ## One call -/

section Run

variable {store : RestaurantStore}

theorem run_create (store : RestaurantStore) (draft : Restaurant) :
    (Call.create draft).run store =
      (.created draft { draft with id := store.lastRestaurantId + 1 },
        { store with
          restaurants := store.restaurants.insert (store.lastRestaurantId + 1)
            { draft with id := store.lastRestaurantId + 1 }
          lastRestaurantId := store.lastRestaurantId + 1 }) :=
  rfl

theorem run_setStatus_of_some {id : Int64} {restaurant : Restaurant}
    (status : Restaurant.Status) (hfound : store.restaurants.find? id = some restaurant) :
    (Call.setStatus id status).run store =
      (.statusSet id status (.ok (inStatus restaurant status)),
        { store with
          restaurants := store.restaurants.insert id (inStatus restaurant status) }) := by
  rw [Call.run, setStatus, hfound]
  rfl

theorem run_setStatus_of_none {id : Int64} (status : Restaurant.Status)
    (hnone : store.restaurants.find? id = none) :
    (Call.setStatus id status).run store =
      (.statusSet id status (.error (.restaurantNotFound id)), store) := by
  rw [Call.run, setStatus, hnone]

theorem run_addMenuItem_of_some {draft : MenuItem} {restaurant : Restaurant}
    (hfound : store.restaurants.find? draft.restaurantId = some restaurant) :
    (Call.addMenuItem draft).run store =
      (.itemAdded draft (.ok { draft with id := store.lastMenuItemId + 1 }),
        { store with
          menuItems := store.menuItems.insert (store.lastMenuItemId + 1)
            { draft with id := store.lastMenuItemId + 1 }
          lastMenuItemId := store.lastMenuItemId + 1 }) := by
  have hcontains : store.restaurants.contains draft.restaurantId = true := by
    rw [Table.contains, hfound]
    rfl
  rw [Call.run, addMenuItem, if_pos hcontains]

theorem run_addMenuItem_of_none {draft : MenuItem}
    (hnone : store.restaurants.find? draft.restaurantId = none) :
    (Call.addMenuItem draft).run store =
      (.itemAdded draft (.error (.noSuchRestaurant draft.restaurantId)), store) := by
  have hcontains : ¬ store.restaurants.contains draft.restaurantId = true := by
    rw [Table.contains, hnone]
    exact Bool.false_ne_true
  rw [Call.run, addMenuItem, if_neg hcontains]

theorem run_updateMenuItem_of_some {restaurantId itemId : Int64} {item : MenuItem}
    (content : MenuItem.Content) (hfound : store.menuItems.find? itemId = some item)
    (hplace : item.restaurantId = restaurantId) :
    (Call.updateMenuItem restaurantId itemId content).run store =
      (.itemUpdated restaurantId itemId content (.ok (item.withContent content)),
        { store with
          menuItems := store.menuItems.insert itemId (item.withContent content) }) := by
  have hkept : ((some item).filter fun item => item.restaurantId == restaurantId) = some item :=
    Option.filter_some_pos (beq_iff_eq.2 hplace)
  rw [Call.run, updateMenuItem, hfound, hkept]

theorem run_updateMenuItem_of_none {restaurantId itemId : Int64} (content : MenuItem.Content)
    (hnone : ∀ item, store.menuItems.find? itemId = some item →
      item.restaurantId ≠ restaurantId) :
    (Call.updateMenuItem restaurantId itemId content).run store =
      (.itemUpdated restaurantId itemId content (.error (.menuItemNotFound itemId)), store) := by
  have hlost : ((store.menuItems.find? itemId).filter fun item =>
      item.restaurantId == restaurantId) = none := by
    refine Option.filter_eq_none_iff.2 fun item hfound => ?_
    rw [beq_iff_eq]
    exact hnone item hfound
  rw [Call.run, updateMenuItem, hlost]

end Run

/-! ## Following a history -/

/-- The store holds what a history says, and every menu item has a restaurant. -/
structure Follows (store : RestaurantStore) (history : List Answered) : Prop where
  restaurants : store.restaurants.Tracks Restaurant.id inStatus store.lastRestaurantId
    (newRestaurants history) (statuses history)
  menuItems : store.menuItems.Tracks MenuItem.id MenuItem.withContent store.lastMenuItemId
    (newMenuItems history) (contents history)
  placed : ∀ item ∈ newMenuItems history,
    ∃ restaurant ∈ newRestaurants history, restaurant.id = item.restaurantId

theorem follows_empty : empty.Follows [] :=
  ⟨Table.tracks_empty, Table.tracks_empty, nofun⟩

variable {store : RestaurantStore} {history : List Answered}

/-- Nothing comes in and nothing is updated by what is refused. -/
theorem Answered.eq_none_of_isRefused {answered : Answered} (h : answered.isRefused = true) :
    answered.restaurant? = none ∧ answered.menuItem? = none ∧
      (∀ id, answered.status? id = none) ∧ ∀ id, answered.content? id = none := by
  unfold isRefused at h
  split at h
  next => exact ⟨rfl, rfl, fun _ => rfl, fun _ => rfl⟩
  next => exact ⟨rfl, rfl, fun _ => rfl, fun _ => rfl⟩
  next => exact ⟨rfl, rfl, fun _ => rfl, fun _ => rfl⟩
  next => cases h

theorem Follows.refused (h : store.Follows history) {answered : Answered}
    (hrefused : answered.isRefused = true) : store.Follows (history ++ [answered]) := by
  obtain ⟨hrestaurant, hitem, hstatus, hcontent⟩ := Answered.eq_none_of_isRefused hrefused
  constructor
  · simpa [hrestaurant, hstatus] using h.restaurants
  · simpa [hitem, hcontent] using h.menuItems
  · simpa [hrestaurant, hitem] using h.placed

theorem Follows.create (h : store.Follows history) (draft : Restaurant)
    (hroom : (newRestaurants history).length + 1 < idLimit) :
    ((Call.create draft).run store).2.Follows
      (history ++ [((Call.create draft).run store).1]) := by
  rw [run_create]
  have hnext := h.restaurants.insert_next isOverlay_inStatus
    (show ({ draft with id := store.lastRestaurantId + 1 } : Restaurant).id = _ from rfl) hroom
  constructor
  · simpa [Answered.restaurant?, Answered.status?] using hnext
  · simpa [Answered.menuItem?, Answered.content?] using h.menuItems
  · intro item hitem
    have hitem : item ∈ newMenuItems history := by simpa [Answered.menuItem?] using hitem
    obtain ⟨restaurant, hmem, hid⟩ := h.placed item hitem
    rw [newRestaurants_concat]
    exact ⟨restaurant, List.mem_append_left _ hmem, hid⟩

theorem Follows.setStatus (h : store.Follows history) {id : Int64} (status : Restaurant.Status)
    {restaurant : Restaurant} (hfound : store.restaurants.find? id = some restaurant) :
    ((Call.setStatus id status).run store).2.Follows
      (history ++ [((Call.setStatus id status).run store).1]) := by
  rw [run_setStatus_of_some status hfound]
  constructor
  · simp only [newRestaurants_concat, statuses_concat, Answered.restaurant?, Option.toList_none,
      List.append_nil]
    exact h.restaurants.insert_known isOverlay_inStatus status hfound
  · simpa [Answered.menuItem?, Answered.content?] using h.menuItems
  · simpa [Answered.menuItem?, Answered.restaurant?] using h.placed

theorem Follows.addMenuItem (h : store.Follows history) {draft : MenuItem}
    {restaurant : Restaurant}
    (hfound : store.restaurants.find? draft.restaurantId = some restaurant)
    (hroom : (newMenuItems history).length + 1 < idLimit) :
    ((Call.addMenuItem draft).run store).2.Follows
      (history ++ [((Call.addMenuItem draft).run store).1]) := by
  rw [run_addMenuItem_of_some hfound]
  have hnext := h.menuItems.insert_next isOverlay_withContent
    (show ({ draft with id := store.lastMenuItemId + 1 } : MenuItem).id = _ from rfl) hroom
  constructor
  · simpa [Answered.restaurant?, Answered.status?] using h.restaurants
  · simpa [Answered.menuItem?, Answered.content?] using hnext
  · have hplace := (h.restaurants.exists_find?_iff isOverlay_inStatus).1 ⟨restaurant, hfound⟩
    simp only [newRestaurants_concat, newMenuItems_concat, Answered.restaurant?,
      Answered.menuItem?, Option.toList_none, Option.toList_some, List.append_nil]
    intro item hitem
    rcases List.mem_append.1 hitem with hold | hnew
    · exact h.placed item hold
    · cases List.mem_singleton.1 hnew
      exact hplace

theorem Follows.updateMenuItem (h : store.Follows history) {restaurantId itemId : Int64}
    (content : MenuItem.Content) {item : MenuItem}
    (hfound : store.menuItems.find? itemId = some item)
    (hplace : item.restaurantId = restaurantId) :
    ((Call.updateMenuItem restaurantId itemId content).run store).2.Follows
      (history ++ [((Call.updateMenuItem restaurantId itemId content).run store).1]) := by
  rw [run_updateMenuItem_of_some content hfound hplace]
  constructor
  · simpa [Answered.restaurant?, Answered.status?] using h.restaurants
  · simp only [newMenuItems_concat, contents_concat, Answered.menuItem?, Option.toList_none,
      List.append_nil]
    exact h.menuItems.insert_known isOverlay_withContent content hfound
  · simpa [Answered.menuItem?, Answered.restaurant?] using h.placed

theorem Follows.exists_item_iff (h : store.Follows history) {restaurantId itemId : Int64} :
    (∃ item, store.menuItems.find? itemId = some item ∧ item.restaurantId = restaurantId) ↔
      ∃ item ∈ newMenuItems history, item.id = itemId ∧ item.restaurantId = restaurantId := by
  constructor
  · rintro ⟨item, hfound, hplace⟩
    obtain ⟨origin, hmem, hid, rfl⟩ :=
      (h.menuItems.find?_eq_some_iff isOverlay_withContent).1 hfound
    rw [restaurantId_asUpdated] at hplace
    exact ⟨origin, hmem, hid, hplace⟩
  · rintro ⟨origin, hmem, hid, hplace⟩
    refine ⟨_, (h.menuItems.find?_eq_some_iff isOverlay_withContent).2 ⟨origin, hmem, hid, rfl⟩, ?_⟩
    rw [restaurantId_asUpdated, hplace]

theorem insertions_created (history : List Answered) (draft stored : Restaurant) :
    (newRestaurants history).length + 1 ≤ insertions (history ++ [.created draft stored]) := by
  rw [insertions, newRestaurants_concat, List.length_append]
  exact Nat.le_add_right _ _

theorem insertions_itemAdded (history : List Answered) (draft stored : MenuItem) :
    (newMenuItems history).length + 1 ≤
      insertions (history ++ [.itemAdded draft (.ok stored)]) := by
  rw [insertions, newMenuItems_concat, List.length_append]
  exact Nat.le_add_left _ _

/-- All that a call can do: what is astray is refused and changes nothing, and nothing else is
refused. -/
theorem Follows.run_cases (h : store.Follows history) (call : Call) :
    (call.IsAstray history ∧ (call.run store).1.isRefused = true ∧ (call.run store).2 = store) ∨
    (¬ call.IsAstray history ∧ (call.run store).1.isRefused = false ∧
      (insertions (history ++ [(call.run store).1]) < idLimit →
        (call.run store).2.Follows (history ++ [(call.run store).1]))) := by
  cases call with
  | create draft =>
      refine Or.inr ⟨id, rfl, fun hroom => h.create draft ?_⟩
      exact Nat.lt_of_le_of_lt (insertions_created history draft _) hroom
  | setStatus id status =>
      cases hfound : store.restaurants.find? id with
      | none =>
          rw [run_setStatus_of_none status hfound]
          exact Or.inl ⟨(h.restaurants.find?_eq_none_iff isOverlay_inStatus).1 hfound, rfl, rfl⟩
      | some restaurant =>
          refine Or.inr ⟨?_, ?_, fun _ => h.setStatus status hfound⟩
          · intro hastray
            have hnone := (h.restaurants.find?_eq_none_iff isOverlay_inStatus).2 hastray
            cases hnone.symm.trans hfound
          · rw [run_setStatus_of_some status hfound]
            rfl
  | addMenuItem draft =>
      cases hfound : store.restaurants.find? draft.restaurantId with
      | none =>
          rw [run_addMenuItem_of_none hfound]
          exact Or.inl ⟨(h.restaurants.find?_eq_none_iff isOverlay_inStatus).1 hfound, rfl, rfl⟩
      | some restaurant =>
          refine Or.inr ⟨?_, ?_, fun hroom => h.addMenuItem hfound ?_⟩
          · intro hastray
            have hnone := (h.restaurants.find?_eq_none_iff isOverlay_inStatus).2 hastray
            cases hnone.symm.trans hfound
          · rw [run_addMenuItem_of_some hfound]
            rfl
          · rw [run_addMenuItem_of_some hfound] at hroom
            exact Nat.lt_of_le_of_lt (insertions_itemAdded history draft _) hroom
  | updateMenuItem restaurantId itemId content =>
      by_cases hplaced :
          ∃ item, store.menuItems.find? itemId = some item ∧ item.restaurantId = restaurantId
      · obtain ⟨item, hfound, hplace⟩ := hplaced
        refine Or.inr ⟨?_, ?_, fun _ => h.updateMenuItem content hfound hplace⟩
        · intro hastray
          obtain ⟨origin, hmem, hid, horigin⟩ := h.exists_item_iff.1 ⟨item, hfound, hplace⟩
          exact hastray origin hmem hid horigin
        · rw [run_updateMenuItem_of_some content hfound hplace]
          rfl
      · rw [run_updateMenuItem_of_none content fun item hfound hplace =>
          hplaced ⟨item, hfound, hplace⟩]
        refine Or.inl ⟨?_, rfl, rfl⟩
        intro item hmem hid hplace
        exact hplaced (h.exists_item_iff.2 ⟨item, hmem, hid, hplace⟩)

/-! ## A run -/

theorem Follows.step (h : store.Follows history) (call : Call)
    (hroom : insertions (history ++ [(call.run store).1]) < idLimit) :
    (call.run store).2.Follows (history ++ [(call.run store).1]) := by
  rcases h.run_cases call with ⟨-, hrefused, hsame⟩ | ⟨-, -, hfollows⟩
  · rw [hsame]
    exact h.refused hrefused
  · exact hfollows hroom

theorem insertions_le_append (history later : List Answered) :
    insertions history ≤ insertions (history ++ later) := by
  unfold insertions newRestaurants newMenuItems
  rw [List.filterMap_append, List.filterMap_append, List.length_append, List.length_append]
  omega

theorem Follows.perform (h : store.Follows history) (calls : List Call)
    (hroom : insertions (history ++ (store.perform calls).1) < idLimit) :
    (store.perform calls).2.Follows (history ++ (store.perform calls).1) := by
  induction calls generalizing store history with
  | nil =>
      rw [RestaurantStore.perform, List.append_nil]
      exact h
  | cons call rest ih =>
      have hstep : history ++ (store.perform (call :: rest)).1 =
          history ++ [(call.run store).1] ++ ((call.run store).2.perform rest).1 := by
        rw [List.append_assoc]
        rfl
      rw [hstep] at hroom ⊢
      exact ih (h.step call (Nat.lt_of_le_of_lt (insertions_le_append _ _) hroom)) hroom

/-! ## What the tables hold -/

/-- One, two, three and so on, so many numbers. -/
def firstIds (count : Nat) : List Int :=
  (List.range count).map fun index : Nat => (index : Int) + 1

/-- The tables hold what a history says: ids were handed out one after the other to what came in,
all of it is listed in the order of the ids as the updates left it, each menu item under its
restaurant, and what is astray would change nothing. -/
structure TellsOf (store : RestaurantStore) (history : List Answered) : Prop where
  restaurantIds : (newRestaurants history).map (fun restaurant => restaurant.id.toInt) =
    firstIds (newRestaurants history).length
  menuItemIds : (newMenuItems history).map (fun item => item.id.toInt) =
    firstIds (newMenuItems history).length
  all_eq : store.all = restaurantsOf history
  all_ascending : store.all.Pairwise fun first second => first.id < second.id
  menus_perm : (store.all.flatMap fun restaurant => store.menu restaurant.id).Perm
    (menuItemsOf history)
  menu_eq : ∀ id, store.menu id = (menuItemsOf history).filter fun item => item.restaurantId == id
  menu_ascending : ∀ id, (store.menu id).Pairwise fun first second => first.id < second.id
  isRefused_iff : ∀ call : Call, (call.run store).1.isRefused = true ↔ call.IsAstray history
  unchanged : ∀ call : Call, (call.run store).1.isRefused = true → (call.run store).2 = store

/-- Every menu item belongs to one of the restaurants. -/
theorem Follows.restaurantId_mem (h : store.Follows history) {item : MenuItem}
    (hitem : item ∈ menuItemsOf history) :
    item.restaurantId ∈ (restaurantsOf history).map Restaurant.id := by
  obtain ⟨origin, horigin, rfl⟩ := List.mem_map.1 hitem
  obtain ⟨restaurant, hmem, hid⟩ := h.placed origin horigin
  rw [restaurantId_asUpdated, restaurantsOf, isOverlay_inStatus.map_idOf_overlaid, ← hid]
  exact List.mem_map_of_mem hmem

theorem Follows.tellsOf (h : store.Follows history) : store.TellsOf history := by
  have hrestaurants := h.restaurants.holds
  have hitems := h.menuItems.holds
  have hall : store.all = restaurantsOf history := hrestaurants.values_eq
  have hmenu : ∀ id, store.menu id =
      (menuItemsOf history).filter fun item => item.restaurantId == id := by
    intro id
    rw [menu, hitems.values_eq]
    rfl
  refine ⟨h.restaurants.ids_eq isOverlay_inStatus, h.menuItems.ids_eq isOverlay_withContent, hall,
    ?_, ?_, hmenu, ?_, ?_, ?_⟩
  · rw [hall]
    exact hrestaurants.pairwise_lt
  · have hperm := perm_flatMap_filter hrestaurants.nodup_ids (menuItemsOf history)
      fun item hitem => h.restaurantId_mem hitem
    rw [List.flatMap_map] at hperm
    simp only [hall, hmenu]
    exact hperm
  · intro id
    rw [hmenu]
    exact hitems.pairwise_lt.filter _
  · intro call
    rcases h.run_cases call with ⟨hastray, hrefused, -⟩ | ⟨hnot, hserved, -⟩
    · exact iff_of_true hrefused hastray
    · exact iff_of_false (hserved ▸ Bool.false_ne_true) hnot
  · intro call hrefused
    rcases h.run_cases call with ⟨-, -, hsame⟩ | ⟨-, hserved, -⟩
    · exact hsame
    · cases hrefused.symm.trans hserved

/-- After every run of calls on an empty store the tables hold what its history says. -/
theorem tables_tell_their_history (calls : List Call)
    (hroom : insertions (empty.perform calls).1 < idLimit) :
    (empty.perform calls).2.TellsOf (empty.perform calls).1 :=
  (follows_empty.perform calls hroom).tellsOf

/-- Two restaurants with a menu item each, of which one is updated, and three calls that are
refused. -/
theorem tables_tell_of_two_menus :
    let calls : List Call :=
      [.create (.pending "Noodle Bar" "Noodles" "Harbour" 7 (.ofSeconds 0)),
        .create (.pending "Tea Room" "Tea" "Park" 8 (.ofSeconds 0)),
        .addMenuItem (.draft 1 ⟨"Soup", "Hot", 4.5⟩), .addMenuItem (.draft 3 ⟨"Cake", "Old", 3.0⟩),
        .addMenuItem (.draft 2 ⟨"Tea", "Black", 2.0⟩), .setStatus 2 .active, .setStatus 3 .active,
        .updateMenuItem 1 2 ⟨"Soup", "Cold", 4.0⟩, .updateMenuItem 2 2 ⟨"Tea", "Green", 2.5⟩]
    let history := (empty.perform calls).1
    let store := (empty.perform calls).2
    insertions history < idLimit ∧ store.TellsOf history ∧
      (store.all.map fun restaurant => (restaurant.id, restaurant.name, restaurant.status)) =
        [(1, "Noodle Bar", .pending), (2, "Tea Room", .active)] ∧
      ((store.menu 2).map fun item => (item.id, item.name, item.description)) =
        [(2, "Tea", "Green")] := by
  intro calls history store
  have hroom : insertions history < idLimit := by decide +kernel
  have htells := tables_tell_their_history calls hroom
  refine ⟨hroom, htells, ?_, ?_⟩
  · rw [htells.all_eq]
    decide +kernel
  · rw [htells.menu_eq]
    decide +kernel

end FoodOrdering.RestaurantStore
