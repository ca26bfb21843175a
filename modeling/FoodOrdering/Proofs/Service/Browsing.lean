import FoodOrdering.Proofs.Service.Ending
import FoodOrdering.Proofs.Service.Listing
import FoodOrdering.Proofs.Store.Arrivals

/-!
# Lists of restaurants

Whoever lists the restaurants reads them first, and then their menus one after the other, while
others may write.  Main statement: the list shows the restaurants that were committed before it was
begun and no others, and of each menu all that was committed before, nothing of another restaurant
and nothing that was committed later; and whatever is shown was held by the store when it was read.
-/

namespace FoodOrdering.Service

/-! ## What came in by a journal -/

/-- The changes that the visits of a journal made. -/
def changesOf (journal : List (Nat × Visit)) : List Change :=
  journal.filterMap fun entry => entry.2.change?

/-- The restaurants that were committed by the visits of a journal. -/
def restaurantsOf (journal : List (Nat × Visit)) : List Restaurant :=
  Change.restaurants (changesOf journal)

/-- The menu items that were committed by the visits of a journal. -/
def menuItemsOf (journal : List (Nat × Visit)) : List MenuItem :=
  Change.menuItems (changesOf journal)

theorem menuItemsOf_append (earlier later : List (Nat × Visit)) :
    menuItemsOf (earlier ++ later) = menuItemsOf earlier ++ menuItemsOf later := by
  unfold menuItemsOf changesOf Change.menuItems
  rw [List.filterMap_append, List.filterMap_append]

variable {service : Service} {moves : List Move} {index : Nat} {task : Task}

theorem remembers_after (service : Service) (moves : List Move) :
    (service.after moves).stores.Remembers (service.after moves).history := by
  induction moves using List.reverseRecOn with
  | nil => exact Stores.remembers_empty
  | append_singleton moves move ih =>
      rw [after_concat]
      cases move with
      | arrive now request => exact ih
      | turn index =>
          show ((service.after moves).advance index).stores.Remembers
            ((service.after moves).advance index).history
          rcases (service.after moves).advance_cases index with hsame | ⟨_, _, _, _, _, hnext⟩ |
            ⟨_, step, _, _, _, hnext⟩
          · rw [hsame]
            exact ih
          · rw [hnext]
            exact ih
          · rw [hnext]
            exact ih.run step

theorem givesIdsOnce_after (moves : List Move)
    (hroom : (service.after moves).inserts < idLimit) :
    Change.GivesIdsOnce (service.after moves).history := by
  induction moves using List.reverseRecOn with
  | nil => exact ⟨List.nodup_nil, List.nodup_nil⟩
  | append_singleton moves move ih =>
      have hearlier := Nat.lt_of_le_of_lt (inserts_after_le service moves [move]) hroom
      have honce := ih hearlier
      rw [after_concat] at hroom ⊢
      cases move with
      | arrive now request => exact honce
      | turn index =>
          have hguarded := guarded_after service moves hearlier
          have hremembers := remembers_after service moves
          change ((service.after moves).advance index).inserts < idLimit at hroom
          show Change.GivesIdsOnce ((service.after moves).advance index).history
          rcases (service.after moves).advance_cases index with hsame | ⟨_, _, _, _, _, hnext⟩ |
            ⟨_, step, _, _, _, hnext⟩
          · rw [hsame]
            exact honce
          · rw [hnext]
            exact honce
          · rw [hnext] at hroom ⊢
            cases hchange : step.change? (service.after moves).stores with
            | none => exact (List.append_nil (service.after moves).history).symm ▸ honce
            | some change =>
                have hsum : (service.after moves).inserts + change.inserts < idLimit := by
                  rw [hchange] at hroom
                  exact Change.insertsOf_append _ [change] ▸ hroom
                exact honce.concat hremembers hguarded.numbered hguarded.counts hsum
                  (hremembers.stores_run hchange).2

/-- At a visit the store remembers what was committed before it. -/
theorem remembers_of_journal {before after : List (Nat × Visit)} {entry : Nat × Visit}
    (h : service.journal moves = before ++ entry :: after) :
    entry.2.stores.Remembers (changesOf before) := by
  obtain ⟨earlier, later, -, rfl, hstores⟩ := exists_earlier_of_journal h
  rw [← hstores, changesOf, ← history_after]
  exact remembers_after service earlier

/-! ## What the request does -/

/-- A last conversion of the value adds no visits. -/
theorem Program.Reaches.of_convert_done {α β : Type} (convert : α → β) {program : Program α}
    {visits : List Visit} {final : Except Problem β}
    (h : (program >>= fun value => (.done (.ok (convert value)) : Program β)).Reaches visits
      (.done final)) :
    ∃ outcome, program.Reaches visits (.done outcome) ∧ final = outcome.map convert := by
  induction program generalizing visits with
  | done outcome =>
      cases outcome with
      | ok value =>
          obtain ⟨rfl, hfinal⟩ := Reaches.of_done h
          cases hfinal
          exact ⟨.ok value, .here _, rfl⟩
      | error problem =>
          obtain ⟨rfl, hfinal⟩ := Reaches.of_done h
          cases hfinal
          exact ⟨.error problem, .here _, rfl⟩
  | access step next ih =>
      obtain ⟨stores, others, rfl, hothers⟩ := Reaches.of_access_done h
      obtain ⟨outcome, hreaches, hfinal⟩ := ih _ hothers
      exact ⟨outcome, .access stores hreaches, hfinal⟩
  | perform effect next ih =>
      obtain ⟨outcome, hreaches, hfinal⟩ := ih (Reaches.of_perform_done h)
      exact ⟨outcome, .perform hreaches, hfinal⟩

/-- The menus are read one after the other, each of them in stores of its own. -/
theorem Program.Reaches.of_withMenus_done {restaurants : List Restaurant} {visits : List Visit}
    {outcome : Except Problem (List Json)}
    (h : (withMenus restaurants).Reaches visits (.done outcome)) :
    ∃ reads : List (Restaurant × Stores), reads.map Prod.fst = restaurants ∧
      visits = reads.map (fun read => { access := .menu read.1.id, stores := read.2 }) ∧
      outcome = .ok (reads.map fun read =>
        restaurantView read.1 (read.2.restaurants.menu read.1.id)) := by
  induction restaurants generalizing visits outcome with
  | nil =>
      obtain ⟨rfl, hdone⟩ := Reaches.of_done h
      cases hdone
      exact ⟨[], rfl, rfl, rfl⟩
  | cons restaurant rest ih =>
      obtain ⟨stores, others, rfl, hothers⟩ := Reaches.of_access_done h
      obtain ⟨outcome, hrest, rfl⟩ := Reaches.of_convert_done
        (fun views => restaurantView restaurant _ :: views) hothers
      obtain ⟨reads, rfl, rfl, rfl⟩ := ih hrest
      exact ⟨(restaurant, stores) :: reads, rfl, rfl, rfl⟩

/-! ## What is shown -/

/-- A restaurant as it is listed. -/
structure Listed where
  restaurant : Restaurant
  menu : List MenuItem

def Listed.view (listed : Listed) : Json :=
  restaurantView listed.restaurant listed.menu

/-- The menu was read from these stores; so many visits had been made when the list was begun, and
so many when the menu was read. -/
structure Listed.ShowsMenu (listed : Listed) (begun read : List (Nat × Visit)) (stores : Stores) :
    Prop where
  ascending : (listed.menu.map MenuItem.id).Pairwise (· < ·)
  held : ∀ item ∈ listed.menu, stores.restaurants.menuItems.find? item.id = some item ∧
    item.restaurantId = listed.restaurant.id
  /-- Each item was committed before the menu was read, and was updated since then at most. -/
  committed : ∀ item ∈ listed.menu, ∃ origin ∈ menuItemsOf read,
    item = origin ∨ ∃ content, item = origin.withContent content
  /-- Each item that was committed before the list was begun is there, if its id did not go to
  another restaurant in the meantime. -/
  complete : ∀ origin ∈ menuItemsOf begun, origin.restaurantId = listed.restaurant.id →
    origin.id ∈ listed.menu.map MenuItem.id ∨
      ∃ other ∈ menuItemsOf read, other.id = origin.id ∧ other.restaurantId ≠ origin.restaurantId

/-- The list was begun after some visits, in these stores. -/
structure ShowsRestaurants (index : Nat) (begun : List (Nat × Visit)) (seen : Stores)
    (rest : List (Nat × Visit)) (shown : List Listed) : Prop where
  first : visitsOf index begun = []
  ascending : (shown.map fun listed => listed.restaurant.id).Pairwise (· < ·)
  mem_iff : ∀ id, id ∈ (shown.map fun listed => listed.restaurant.id) ↔
    id ∈ (restaurantsOf begun).map Restaurant.id
  held : ∀ listed ∈ shown, seen.restaurants.find? listed.restaurant.id = some listed.restaurant
  /-- Each restaurant was committed before the list was begun, and changed its status since then at
  most. -/
  committed : ∀ listed ∈ shown, ∃ origin ∈ restaurantsOf begun,
    listed.restaurant = origin ∨
      ∃ status, listed.restaurant = RestaurantStore.inStatus origin status
  /-- Each menu was read by the request after that. -/
  menus : ∀ listed ∈ shown, ∃ between stores after,
    rest = between ++ (index, ⟨.menu listed.restaurant.id, stores⟩) :: after ∧
      listed.ShowsMenu begun (begun ++ (index, ⟨.allRestaurants, seen⟩) :: between) stores

/-- What a menu shows when it is read. -/
theorem showsMenu_of_journal {begun between after : List (Nat × Visit)} {stores : Stores}
    (restaurant : Restaurant)
    (h : service.journal moves =
      (begun ++ between) ++ (index, ⟨.menu restaurant.id, stores⟩) :: after) :
    Listed.ShowsMenu ⟨restaurant, stores.restaurants.menu restaurant.id⟩ begun (begun ++ between)
      stores := by
  have hitems := (remembers_of_journal h).menuItems
  have hmem : ∀ {item}, item ∈ stores.restaurants.menu restaurant.id ↔
      stores.restaurants.menuItems.find? item.id = some item ∧
        item.restaurantId = restaurant.id := by
    intro item
    rw [RestaurantStore.menu, List.mem_filter, hitems.mem_values_iff, beq_iff_eq]
  constructor
  case ascending => exact hitems.pairwise_values.sublist (List.filter_sublist.map _)
  case held => exact fun item hitem => hmem.1 hitem
  case committed => exact fun item hitem => (hitems.found _ item (hmem.1 hitem).1).2
  case complete =>
    intro origin horigin hplace
    have hlater : origin ∈ menuItemsOf (begun ++ between) := by
      rw [menuItemsOf_append]
      exact List.mem_append_left _ horigin
    obtain ⟨item, hfound⟩ := hitems.kept origin hlater
    obtain ⟨hid, other, hother, hsame⟩ := hitems.found _ item hfound
    have hkept : other.id = item.id ∧ other.restaurantId = item.restaurantId := by
      rcases hsame with rfl | ⟨content, rfl⟩
      · exact ⟨rfl, rfl⟩
      · exact ⟨rfl, rfl⟩
    by_cases hstays : other.restaurantId = origin.restaurantId
    · left
      refine List.mem_map.2 ⟨item, hmem.2 ⟨hid ▸ hfound, ?_⟩, hid⟩
      rw [← hkept.2, hstays, hplace]
    · exact Or.inr ⟨other, hother, hkept.1.trans hid, hstays⟩

/-- What the list shows is what was found when it was begun. -/
theorem showsRestaurants_of_journal {begun rest : List (Nat × Visit)} {seen : Stores}
    {shown : List Listed}
    (h : service.journal moves = begun ++ (index, ⟨.allRestaurants, seen⟩) :: rest)
    (hbegun : visitsOf index begun = [])
    (hshown : shown.map Listed.restaurant = seen.restaurants.all)
    (hmenus : ∀ listed ∈ shown, ∃ between stores after,
      rest = between ++ (index, ⟨.menu listed.restaurant.id, stores⟩) :: after ∧
        listed.ShowsMenu begun (begun ++ (index, ⟨.allRestaurants, seen⟩) :: between) stores) :
    ShowsRestaurants index begun seen rest shown := by
  have hremembers : seen.Remembers (changesOf begun) := remembers_of_journal h
  have hrestaurants := hremembers.restaurants
  have hids : (shown.map fun listed => listed.restaurant.id) =
      seen.restaurants.all.map Restaurant.id := by
    rw [← hshown, List.map_map]
    rfl
  have hheld : ∀ listed ∈ shown,
      seen.restaurants.find? listed.restaurant.id = some listed.restaurant := by
    intro listed hlisted
    have hmem : listed.restaurant ∈ seen.restaurants.all :=
      hshown ▸ List.mem_map_of_mem hlisted
    exact hrestaurants.mem_values_iff.1 hmem
  constructor
  case first => exact hbegun
  case ascending => exact hids ▸ hrestaurants.pairwise_values
  case mem_iff =>
    intro id
    rw [hids, RestaurantStore.all, hrestaurants.mem_map_values_iff, List.mem_map]
    exact hrestaurants.exists_find?_iff RestaurantStore.isOverlay_inStatus
  case held => exact hheld
  case committed => exact fun listed hlisted => (hrestaurants.found _ _ (hheld listed hlisted)).2
  case menus => exact hmenus

/-- A request for the list that has come to its end has read the restaurants and then the menu of
each of them, and is answered with all that. -/
theorem exists_reads {outcome : Except Problem Http.Response}
    (htask : (service.after moves).tasks[index]? = some task) (hreading : task.request.IsReading)
    (hpath : Resource.ofPath? task.request.target.path = some .restaurants)
    (hdone : task.rest = .done outcome) :
    ∃ seen, ∃ reads : List (Restaurant × Stores), reads.map Prod.fst = seen.restaurants.all ∧
      visitsOf index (service.journal moves) = ⟨.allRestaurants, seen⟩ ::
        reads.map (fun read => ⟨.menu read.1.id, read.2⟩) ∧
      task.IsAnswered (.ok "Restaurants retrieved" (.list (reads.map fun read =>
        restaurantView read.1 (read.2.restaurants.menu read.1.id)))) := by
  have hreaches := reaches_after moves htask
  rw [service.answer_eq_of_action task.now (ne_question_of_isReading hreading) hpath
    (action?_of_isReading hreading _) rfl, hdone] at hreaches
  obtain ⟨envelope, hlist, rfl⟩ := hreaches.of_performing_done.of_settle_done
  unfold listRestaurants at hlist
  rw [permit_eq_done (authorize_eq_ok_iff.2 (.inl rfl))] at hlist
  obtain ⟨seen, others, hvisits, hmenus⟩ := hlist.of_access_done
  obtain ⟨views, hviews, rfl⟩ := Program.Reaches.of_convert_done
    (fun views => Envelope.ok "Restaurants retrieved" (.list views)) hmenus
  obtain ⟨reads, hreads, rfl, rfl⟩ := hviews.of_withMenus_done
  exact ⟨seen, reads, hreads, hvisits, hdone⟩

theorem exists_showsRestaurants {outcome : Except Problem Http.Response}
    (htask : (service.after moves).tasks[index]? = some task) (hreading : task.request.IsReading)
    (hpath : Resource.ofPath? task.request.target.path = some .restaurants)
    (hdone : task.rest = .done outcome) :
    ∃ begun seen rest shown,
      service.journal moves = begun ++ (index, ⟨.allRestaurants, seen⟩) :: rest ∧
        task.IsAnswered (.ok "Restaurants retrieved" (.list (shown.map Listed.view))) ∧
        ShowsRestaurants index begun seen rest shown := by
  obtain ⟨seen, reads, hreads, hvisits, hanswered⟩ := exists_reads htask hreading hpath hdone
  obtain ⟨begun, rest, hjournal, hbegun, hrest⟩ :=
    exists_of_visitsOf_eq_append (hvisits.trans (List.nil_append _).symm)
  refine ⟨begun, seen, rest,
    reads.map fun read => ⟨read.1, read.2.restaurants.menu read.1.id⟩, hjournal, ?_, ?_⟩
  · rw [List.map_map]
    exact hanswered
  · refine showsRestaurants_of_journal hjournal hbegun (by rw [List.map_map]; exact hreads) ?_
    intro listed hlisted
    obtain ⟨⟨restaurant, stores⟩, hread, rfl⟩ := List.mem_map.1 hlisted
    obtain ⟨earlier, later, rfl⟩ := List.append_of_mem hread
    rw [List.map_append, List.map_cons] at hrest
    obtain ⟨between, after, rfl, -, -⟩ := exists_of_visitsOf_eq_append hrest
    have hparts : service.journal moves =
        (begun ++ (index, ⟨.allRestaurants, seen⟩) :: between) ++
          (index, ⟨.menu restaurant.id, stores⟩) :: after := by
      rw [hjournal, List.append_assoc, List.cons_append]
    exact ⟨between, stores, after, rfl, showsMenu_of_journal restaurant hparts⟩

/-- As long as there is room for ids, no menu item is missed. -/
theorem ShowsRestaurants.complete {begun rest : List (Nat × Visit)} {seen : Stores}
    {shown : List Listed} (h : ShowsRestaurants index begun seen rest shown)
    (honce : Change.GivesIdsOnce
      (changesOf (begun ++ (index, ⟨.allRestaurants, seen⟩) :: rest)))
    {listed : Listed} (hlisted : listed ∈ shown) {origin : MenuItem}
    (horigin : origin ∈ menuItemsOf begun)
    (hplace : origin.restaurantId = listed.restaurant.id) :
    origin.id ∈ listed.menu.map MenuItem.id := by
  obtain ⟨between, stores, after, rfl, hmenu⟩ := h.menus listed hlisted
  rcases hmenu.complete origin horigin hplace with hshown | ⟨other, hother, hid, hne⟩
  · exact hshown
  · rw [← List.cons_append, ← List.append_assoc] at honce
    have hall : ∀ item ∈ menuItemsOf (begun ++ (index, ⟨.allRestaurants, seen⟩) :: between),
        item ∈ menuItemsOf (begun ++ (index, ⟨.allRestaurants, seen⟩) :: between ++
          (index, ⟨.menu listed.restaurant.id, stores⟩) :: after) := fun item hitem => by
      rw [menuItemsOf_append]
      exact List.mem_append_left _ hitem
    have hbegun : origin ∈ menuItemsOf
        (begun ++ (index, ⟨.allRestaurants, seen⟩) :: between) := by
      rw [menuItemsOf_append]
      exact List.mem_append_left _ horigin
    cases List.inj_on_of_nodup_map honce.2 (hall other hother) (hall origin hbegun) hid
    exact absurd rfl hne

/-- Whatever is asked by whom, and however the requests fall between one another: a request for the
list of restaurants can always be brought to its end, and what it shows then is what was committed
before it was begun, each menu with what was committed until it was read, and each record as the
store held it when it was read. -/
theorem listing_is_a_faithful_read (service : Service) (moves : List Move) {index : Nat}
    {task : Task} (htask : (service.after moves).tasks[index]? = some task)
    (hreading : task.request.IsReading)
    (hpath : Resource.ofPath? task.request.target.path = some .restaurants) :
    (∃ count outcome, (service.after (moves ++ List.replicate count (.turn index))).tasks[index]? =
      some { task with rest := .done outcome }) ∧
    ∀ outcome, task.rest = .done outcome → ∃ begun seen rest shown,
      service.journal moves = begun ++ (index, ⟨.allRestaurants, seen⟩) :: rest ∧
        task.IsAnswered (.ok "Restaurants retrieved" (.list (shown.map Listed.view))) ∧
        ShowsRestaurants index begun seen rest shown ∧
        ((service.after moves).inserts < idLimit →
          Change.GivesIdsOnce (changesOf (service.journal moves)) ∧
            ∀ listed ∈ shown, ∀ origin ∈ menuItemsOf begun,
              origin.restaurantId = listed.restaurant.id →
                origin.id ∈ listed.menu.map MenuItem.id) := by
  constructor
  · obtain ⟨count, history, hturns⟩ := Pool.exists_turns service (service.after moves) htask
    refine ⟨count, (task.rest.run (service.after moves).stores).outcome, ?_⟩
    rw [after_append, hturns]
    exact List.getElem?_set_self (List.getElem?_eq_some_iff.1 htask).1
  · intro outcome hdone
    obtain ⟨begun, seen, rest, shown, hjournal, hanswered, hshows⟩ :=
      exists_showsRestaurants htask hreading hpath hdone
    refine ⟨begun, seen, rest, shown, hjournal, hanswered, hshows, fun hroom => ?_⟩
    have honce := givesIdsOnce_after moves hroom
    rw [history_after] at honce
    refine ⟨honce, fun listed hlisted origin horigin hplace => ?_⟩
    exact hshows.complete (hjournal ▸ honce) hlisted horigin hplace

theorem Task.exists_response_of_status? {status : Nat} (h : task.status? = some status) :
    ∃ response, task.rest = .done (.ok response) := by
  unfold Task.status? at h
  split at h
  next response hrest => exact ⟨response, hrest⟩
  next => cases h

/-- The restaurants are listed while an owner extends a menu and another one registers. -/
theorem listing_among_owners_is_faithful :
    let service : FoodOrdering.Service := { zone := .privateNetwork }
    let request (user path body : String) : Http.Request :=
      { method := "POST", target := ⟨path, none⟩, body := body.toUTF8
        peer := some (.v4 ⟨10, 0, 0, 7⟩)
        headers := .ofList [("X-User-Id", Text.utf8 user), ("X-User-Role", Text.utf8 "OWNER"),
          ("Content-Type", Text.utf8 "application/json")] }
    let registering (user name : String) : Move :=
      .arrive (.ofSeconds 0) (request user "/api/restaurants"
        ("[\"" ++ name ++ "\",\"Pizza\",\"Rome\",null,null,null]"))
    let extending (name : String) : Move :=
      .arrive (.ofSeconds 1) (request "7" "/api/restaurants/1/menu"
        ("[\"" ++ name ++ "\",\"Classic\",9.5]"))
    let listing : Move :=
      .arrive (.ofSeconds 2) { request "7" "/api/restaurants" "" with method := "GET" }
    let moves : List Move :=
      [registering "7" "Vito", .turn 0, extending "Margherita", .turn 1, .turn 1, listing, .turn 2,
        extending "Marinara", .turn 3, .turn 3, registering "9" "Anna", .turn 4, .turn 2]
    (service.after moves).tasks.map Task.status? =
        [some 201, some 200, some 200, some 200, some 201] ∧
      ∃ task outcome, (service.after moves).tasks[2]? = some task ∧
        task.request.IsReading ∧
        Resource.ofPath? task.request.target.path = some .restaurants ∧
        task.rest = .done outcome ∧ (service.after moves).inserts < idLimit ∧
        ∃ begun seen rest shown,
          service.journal moves = begun ++ (2, ⟨.allRestaurants, seen⟩) :: rest ∧
            task.IsAnswered (.ok "Restaurants retrieved" (.list (shown.map Listed.view))) ∧
            ShowsRestaurants 2 begun seen rest shown := by
  intro service request registering extending listing moves
  have hstatuses : (service.after moves).tasks.map Task.status? =
      [some 201, some 200, some 200, some 200, some 201] := by decide +kernel
  have hthird : ((service.after moves).tasks[2]?.map fun task =>
      (task.request.method, Resource.ofPath? task.request.target.path, task.status?)) =
        some ("GET", some .restaurants, some 200) := by decide +kernel
  obtain ⟨task, htask, hparts⟩ := Option.map_eq_some_iff.1 hthird
  obtain ⟨hmethod, hrest⟩ := Prod.mk.inj hparts
  obtain ⟨hpath, hstatus⟩ := Prod.mk.inj hrest
  have hreading : task.request.IsReading := Or.inl hmethod
  obtain ⟨response, hdone⟩ := Task.exists_response_of_status? hstatus
  obtain ⟨begun, seen, rest, shown, hjournal, hanswered, hshows, -⟩ :=
    (listing_is_a_faithful_read service moves htask hreading hpath).2 _ hdone
  exact ⟨hstatuses, task, _, htask, hreading, hpath, hdone,
    Nat.lt_of_le_of_lt (inserts_le_length service moves) (by decide),
    begun, seen, rest, shown, hjournal, hanswered, hshows⟩

end FoodOrdering.Service
