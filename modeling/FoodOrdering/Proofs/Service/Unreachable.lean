import FoodOrdering.Identity.Guard
import FoodOrdering.Proofs.Except
import FoodOrdering.Proofs.Identity.Roles
import FoodOrdering.Proofs.Service.Conduct
import FoodOrdering.Proofs.Service.Ending
import FoodOrdering.Proofs.Service.Progress
import FoodOrdering.Proofs.Service.Required
import FoodOrdering.Proofs.Store.Presence

/-!
# What never comes up

The service has answers for cases that are ruled out elsewhere: a menu item whose restaurant is
gone, a caller without an identity behind the guard, an identity without a role, a field that is
missing behind judgement.  A restaurant that was found stays, and so none of them comes up in any
run.
-/

namespace FoodOrdering

namespace Identity

/-- An identity that is created has a first role, the first one that was presented. -/
theorem head?_of_create {userId : Int64} {roles : List Role} {email : String}
    {identity : Identity} (h : create userId roles email = .ok identity) :
    roles.head? = some identity.primaryRole := by
  unfold create at h
  split at h
  next =>
    split at h
    next => cases h
    next hroles =>
      cases h
      rw [← Role.head?_distinct]
      exact List.head?_eq_some_head (Role.distinct_ne_nil hroles)
  next => cases h

/-- So has an identity that a request states. -/
theorem head?_of_reconstruct {zone : TrustZone} {peer : Option Address} {headers : Http.Headers}
    {identity : Identity} (h : reconstruct zone peer headers = some identity) :
    (Role.readList ((headers.getText? IdentityHeaders.userRole).getD "")).head? =
      some identity.primaryRole := by
  unfold reconstruct at h
  obtain ⟨stated, -, hadmitted⟩ := Option.bind_eq_some_iff.1 h
  obtain ⟨_, -, hread⟩ := Option.bind_eq_some_iff.1 hadmitted
  obtain ⟨userId, -, hcreate⟩ := Option.bind_eq_some_iff.1 hread
  exact head?_of_create (eq_ok_of_toOption hcreate)

end Identity

namespace Access

variable {stores : Stores}

/-- Only an addition is refused for want of a restaurant; other changes name what is missing. -/
theorem run_setStatus_error {id : Int64} {status : Restaurant.Status} {fault : StoreError}
    (h : ((setStatus id status).run stores).1 = .error fault) : fault = .restaurantNotFound id := by
  change (stores.restaurants.setStatus id status).1 = _ at h
  unfold RestaurantStore.setStatus at h
  split at h
  · cases h
    rfl
  · cases h

theorem run_updateMenuItem_error {restaurantId itemId : Int64} {content : MenuItem.Content}
    {fault : StoreError}
    (h : ((updateMenuItem restaurantId itemId content).run stores).1 = .error fault) :
    fault = .menuItemNotFound itemId := by
  change (stores.restaurants.updateMenuItem restaurantId itemId content).1 = _ at h
  unfold RestaurantStore.updateMenuItem at h
  split at h
  · cases h
    rfl
  · cases h

end Access

namespace Service

/-- A problem that comes up: the stores do not contradict themselves, and what is denied is an
operation of the guard. -/
def Problem.Arises : Problem → Prop
  | .internal _ => False
  | .forbidden name _ => ∃ operation : Operation, name = operation.name
  | .notFound _ | .invalid _ | .body _ | .path _ => True

theorem Problem.Arises.ne_identify {problem : Problem} (h : problem.Arises) (denial : Denial) :
    problem ≠ .forbidden "identify_caller" denial := by
  rintro rfl
  obtain ⟨operation, hname⟩ := h
  cases operation <;> exact absurd hname (by decide)

theorem Problem.Arises.status_ne {problem : Problem} (h : problem.Arises) :
    problem.status ≠ 500 := by
  cases problem with
  | internal detail => exact h.elim
  | forbidden name denial => exact nofun
  | notFound message => exact nofun
  | invalid errors => exact nofun
  | body fault => exact nofun
  | path fault => exact nofun

/-- What is said of a request that does not pass concerns its fields. -/
theorem arises_of_finish_bind {α : Type} {errors : FieldErrors} {value : α} {problem : Problem}
    (h : (do errors.finish; return value : Except Problem α) = .error problem) :
    problem.Arises := by
  unfold FieldErrors.finish at h
  split at h
  next => cases h
  next =>
    cases h
    exact trivial

theorem StatusRequest.arises_of_toStatus (request : StatusRequest) {problem : Problem}
    (h : request.toStatus = .error problem) : problem.Arises := by
  unfold toStatus at h
  split at h
  next =>
    cases h
    exact trivial
  next =>
    split at h
    next => cases h
    next =>
      cases h
      exact trivial

/-- A menu item is added only where there is a restaurant. -/
def presence : Terms where
  sound := Stores.Keyed
  rely := Stores.KeepsRestaurants
  grants stores access :=
    ∀ draft, access = .addMenuItem draft → stores.HasRestaurant draft.restaurantId
  rely_refl := Stores.KeepsRestaurants.refl
  rely_trans := Stores.KeepsRestaurants.trans

/-- The request is served, as far as the answer goes. -/
def Serves (_ : Stores) (envelope : Envelope) : Prop :=
  envelope.status = 200 ∨ envelope.status = 201

namespace Program

variable {α β : Type} {call : Call} {stores : Stores} {post : Stores → α → Prop}

/-- The program ends as it may where restaurants stay. -/
abbrev EndsWell (post : Stores → α → Prop) (program : Program α) (stores : Stores) : Prop :=
  program.Ends presence Problem.Arises post stores

theorem endsWell_permit_bind {operation : Operation} {owner : Option Int64}
    {next : Unit → Program α}
    (h : authorize call.caller operation owner = .ok () → (next ()).EndsWell post stores) :
    (permit call operation owner >>= next).EndsWell post stores :=
  (ends_permit h fun _ => ⟨operation, rfl⟩).bind

/-- Behind the guard of an operation that is not public there is an identity. -/
theorem endsWell_identify_bind {operation : Operation} {owner : Option Int64}
    {next : Identity → Program α}
    (hadmitted : authorize call.caller operation owner = .ok ())
    (hprotected : operation.isPublic = false)
    (h : ∀ identity, (next identity).EndsWell post stores) :
    (identify call >>= next).EndsWell post stores := by
  apply Ends.bind
  rcases authorize_eq_ok_iff.1 hadmitted with hpublic | ⟨identity, hcaller, -⟩
  · rw [hprotected] at hpublic
    cases hpublic
  · exact ends_identify hcaller (h identity)

/-- What is wrong with a path may be told. -/
theorem endsWell_path_bind {source : Except PathFault β} {next : β → Program α}
    (h : ∀ value, (next value).EndsWell post stores) :
    (ofExcept .path source >>= next).EndsWell post stores :=
  (ends_ofExcept (fun value _ => h value) fun _ _ => trivial).bind

/-- What is wrong with a body may be told. -/
theorem endsWell_readCall_bind {item : Json.Reader β} {next : β → Program α}
    (h : ∀ value, (next value).EndsWell post stores) :
    (readCall item call >>= next).EndsWell post stores :=
  (ends_ofExcept (fun value _ => h value) fun _ _ => trivial).bind

/-- What a request is judged to be wrong in may be told, if that comes up. -/
theorem endsWell_judged_bind {judged : Except Problem β} {next : β → Program α}
    (harises : ∀ problem, judged = .error problem → problem.Arises)
    (h : ∀ value, (next value).EndsWell post stores) :
    (ofExcept (fun problem => problem) judged >>= next).EndsWell post stores :=
  (ends_ofExcept (fun value _ => h value) harises).bind

/-- Nobody is kept from hearing that there is no such restaurant. -/
theorem endsWell_found_bind {id : Int64} {result : Option Restaurant}
    {next : Restaurant → Program α}
    (h : ∀ restaurant, result = some restaurant → (next restaurant).EndsWell post stores) :
    (found id result >>= next).EndsWell post stores :=
  (ends_found h trivial).bind

/-- An access to which nothing is added may always be made. -/
theorem endsWell_access {step : Access} {next : step.Result → Program α}
    (hstep : ∀ draft, step ≠ .addMenuItem draft)
    (h : ∀ later, later.Keyed → stores.KeepsRestaurants later →
      (next (step.run later).1).EndsWell post (step.run later).2) :
    (Program.access step next).EndsWell post stores := by
  intro later hkeyed hkeeps
  exact ⟨fun draft heq => absurd heq (hstep draft), h later hkeyed hkeeps⟩

end Program

open Program

/-! ## What is served -/

variable (call : Call) (stores : Stores)

theorem endsWell_admitted (operation : Operation) (id : Int64) :
    (admitted call operation id).EndsWell
      (fun stores restaurant => stores.HasRestaurant restaurant.id) stores := by
  apply Ends.bind
  apply endsWell_access
  · nofun
  intro later hkeyed _
  apply endsWell_permit_bind
  intro _
  apply ends_found
  · intro restaurant hfound
    exact ⟨restaurant, (hkeyed id restaurant hfound).symm ▸ hfound⟩
  · exact trivial

theorem endsWell_registerRestaurant : (registerRestaurant call).EndsWell Serves stores := by
  apply endsWell_permit_bind
  intro hadmitted
  apply endsWell_identify_bind hadmitted rfl
  intro user
  apply endsWell_readCall_bind
  intro request
  apply endsWell_judged_bind
  case harises => exact fun _ hproblem => arises_of_finish_bind hproblem
  intro draft
  apply Ends.bind
  apply endsWell_access
  · nofun
  intro later _ _
  exact Or.inr rfl

theorem endsWell_withMenus (restaurants : List Restaurant) :
    (withMenus restaurants).EndsWell anything stores := by
  induction restaurants generalizing stores with
  | nil => exact trivial
  | cons restaurant rest ih =>
      apply Ends.bind
      apply endsWell_access
      · nofun
      intro later _ _
      apply (ih _).andThen
      intro _ others _
      exact trivial

theorem endsWell_listRestaurants : (listRestaurants call).EndsWell Serves stores := by
  apply endsWell_permit_bind
  intro _
  apply Ends.bind
  apply endsWell_access
  · nofun
  intro later _ _
  apply (endsWell_withMenus _ _).andThen
  intro _ views _
  exact Or.inl rfl

theorem endsWell_showRestaurant (part : String) :
    (showRestaurant part call).EndsWell Serves stores := by
  apply endsWell_permit_bind
  intro _
  apply endsWell_path_bind
  intro id
  apply Ends.bind
  apply endsWell_access
  · nofun
  intro later _ _
  apply endsWell_found_bind
  intro restaurant _
  apply Ends.bind
  apply endsWell_access
  · nofun
  intro last _ _
  exact Or.inl rfl

theorem endsWell_showMenu (part : String) : (showMenu part call).EndsWell Serves stores := by
  apply endsWell_permit_bind
  intro _
  apply endsWell_path_bind
  intro id
  apply Ends.bind
  apply endsWell_access
  · nofun
  intro later _ _
  apply endsWell_found_bind
  intro restaurant _
  apply Ends.bind
  apply endsWell_access
  · nofun
  intro last _ _
  exact Or.inl rfl

theorem endsWell_extendMenu (part : String) : (extendMenu part call).EndsWell Serves stores := by
  apply endsWell_path_bind
  intro id
  apply (endsWell_admitted call _ _ _).andThen
  intro stores restaurant hrestaurant
  apply endsWell_readCall_bind
  intro request
  apply endsWell_judged_bind
  case harises => exact fun _ hproblem => arises_of_finish_bind hproblem
  intro content
  apply Ends.bind
  intro later _ hkeeps
  -- The restaurant was found before the body was read, and it has stayed since then.
  have hpresent : later.HasRestaurant (MenuItem.draft restaurant.id content).restaurantId :=
    hkeeps _ hrestaurant
  obtain ⟨item, hitem⟩ := Access.run_addMenuItem_of_hasRestaurant hpresent
  refine ⟨fun draft heq => by cases heq; exact hpresent, ?_⟩
  show (ofExcept Problem.ofStore ((Access.addMenuItem _).run later).1).EndsWell _ _
  rw [hitem]
  exact Or.inl rfl

theorem endsWell_reviseMenuItem (part itemPart : String) :
    (reviseMenuItem part itemPart call).EndsWell Serves stores := by
  apply endsWell_path_bind
  intro ids
  apply (endsWell_admitted call _ _ _).andThen
  intro stores restaurant _
  apply endsWell_readCall_bind
  intro request
  apply endsWell_judged_bind
  case harises => exact fun _ hproblem => arises_of_finish_bind hproblem
  intro content
  apply Ends.bind
  apply endsWell_access
  · nofun
  intro later _ _
  apply ends_ofExcept
  case hproper =>
    intro fault hfault
    rw [Access.run_updateMenuItem_error hfault]
    exact trivial
  intro item _
  exact Or.inl rfl

theorem endsWell_changeStatus (part : String) :
    (changeStatus part call).EndsWell Serves stores := by
  apply endsWell_permit_bind
  intro _
  apply endsWell_path_bind
  intro id
  apply endsWell_readCall_bind
  intro request
  apply endsWell_judged_bind
  case harises => exact fun _ hproblem => request.arises_of_toStatus hproblem
  intro status
  apply Ends.bind
  apply endsWell_access
  · nofun
  intro later _ _
  apply ends_ofExcept
  case hproper =>
    intro fault hfault
    rw [Access.run_setStatus_error hfault]
    exact trivial
  intro restaurant _
  apply Ends.bind
  apply endsWell_access
  · nofun
  intro last _ _
  exact Or.inl rfl

theorem endsWell_placeOrder : (placeOrder call).EndsWell Serves stores := by
  apply endsWell_permit_bind
  intro hadmitted
  apply endsWell_identify_bind hadmitted rfl
  intro user
  apply endsWell_readCall_bind
  intro request
  apply endsWell_judged_bind
  case harises => exact fun _ hproblem => arises_of_finish_bind hproblem
  intro draft
  apply Ends.bind
  apply endsWell_access
  · nofun
  intro later _ _
  apply endsWell_found_bind
  intro restaurant _
  apply Ends.bind
  apply endsWell_access
  · nofun
  intro last _ _
  exact Or.inr rfl

theorem endsWell_listOwnOrders : (listOwnOrders call).EndsWell Serves stores := by
  apply endsWell_permit_bind
  intro hadmitted
  apply endsWell_identify_bind hadmitted rfl
  intro user
  apply Ends.bind
  apply endsWell_access
  · nofun
  intro later _ _
  exact Or.inl rfl

theorem endsWell_listRestaurantOrders (part : String) :
    (listRestaurantOrders part call).EndsWell Serves stores := by
  apply endsWell_path_bind
  intro id
  apply (endsWell_admitted call _ _ _).andThen
  intro stores restaurant _
  apply Ends.bind
  apply endsWell_access
  · nofun
  intro later _ _
  exact Or.inl rfl

theorem endsWell_envelope {action : Action} {program : Call → Program Envelope}
    (h : action.envelope? = some program) : (program call).EndsWell Serves stores := by
  cases action with
  | showHealth => cases h
  | listRestaurants =>
      cases h
      exact endsWell_listRestaurants call stores
  | registerRestaurant =>
      cases h
      exact endsWell_registerRestaurant call stores
  | showRestaurant part =>
      cases h
      exact endsWell_showRestaurant call stores part
  | showMenu part =>
      cases h
      exact endsWell_showMenu call stores part
  | extendMenu part =>
      cases h
      exact endsWell_extendMenu call stores part
  | reviseMenuItem part itemPart =>
      cases h
      exact endsWell_reviseMenuItem call stores part itemPart
  | changeStatus part =>
      cases h
      exact endsWell_changeStatus call stores part
  | listOwnOrders =>
      cases h
      exact endsWell_listOwnOrders call stores
  | placeOrder =>
      cases h
      exact endsWell_placeOrder call stores
  | listRestaurantOrders part =>
      cases h
      exact endsWell_listRestaurantOrders call stores part

/-- Whatever is answered, the answer is not that something went wrong inside. -/
def IsNoFailure (_ : Stores) (response : Http.Response) : Prop :=
  response.status ≠ 500

theorem endsWell_programOf : (programOf call).EndsWell IsNoFailure stores := by
  unfold programOf
  split
  next => exact nofun
  next resource _ =>
    split
    next => exact nofun
    next action _ =>
      unfold Action.program
      split
      next => exact nofun
      next program hprogram =>
        apply (endsWell_envelope call stores hprogram).andThen
        rintro _ envelope (hstatus | hstatus)
        · show envelope.status ≠ 500
          omega
        · show envelope.status ≠ 500
          omega

theorem obeys_presence_answer (service : Service) (now : Instant) (request : Http.Request) :
    (service.answer now request).Obeys presence IsNoFailure stores := by
  unfold answer
  split
  next =>
    show (sent request Http.CrossOrigin.permission).status ≠ 500
    rw [sent, Http.status_finished]
    decide
  next =>
    apply Obeys.performing
    apply (endsWell_programOf _ stores).settle
    intro _ outcome houtcome
    rw [IsNoFailure, status_sent]
    cases outcome with
    | ok response => exact houtcome
    | error problem => exact Problem.Arises.status_ne houtcome

/-! ## Runs -/

theorem presence_step (service : Service) {pool : Pool} (hkeyed : pool.stores.Keyed) (move : Move) :
    (pool.step service move).stores.Keyed ∧
      pool.stores.KeepsRestaurants (pool.step service move).stores := by
  cases hvisit : pool.visit? move with
  | none =>
      rw [Pool.stores_step_of_no_visit service hvisit]
      exact ⟨hkeyed, .refl _⟩
  | some entry =>
      rw [Pool.stores_step_of_visit? service hvisit, (Pool.of_visit?_eq_some hvisit).2.1]
      exact ⟨Access.keyed_run hkeyed _, Access.keepsRestaurants_run hkeyed _⟩

theorem keyed_after (service : Service) (moves : List Move) :
    (service.after moves).stores.Keyed := by
  induction moves using List.reverseRecOn with
  | nil => exact Stores.keyed_empty
  | append_singleton moves move ih =>
      rw [after_concat]
      exact (presence_step service ih move).1

/-- The visits of a request find the restaurants that were there before them. -/
theorem chained_presence (service : Service) (index : Nat) (moves : List Move) :
    Chained presence .empty (visitsOf index (service.journal moves)) := by
  refine (chained_after service (keyed_after service) ?_ index moves).1
  intro moves move
  rw [after_concat]
  exact (presence_step service (keyed_after service moves) move).2

/-- What is ruled out in a run. -/
structure RulesOut (service : Service) (moves : List Move) : Prop where
  /-- Nobody is told of a failure inside, and whoever is told anything is told the outcome of the
  program. -/
  answered : ∀ index task final, (service.after moves).tasks[index]? = some task →
    task.rest = .done final →
      ∃ response, final = .ok response ∧ response.status ≠ 500 ∧
        (task.request.method ≠ Http.CrossOrigin.question →
          ∃ outcome, (programOf (service.callOf task.now task.request)).Reaches
              (visitsOf index (service.journal moves)) (.done outcome) ∧
            response = sent task.request
              (Http.CrossOrigin.opened (outcomeResponse task.now outcome)))
  /-- No program fails for a contradiction in the stores or for want of an identity. -/
  problems : ∀ index task problem, (service.after moves).tasks[index]? = some task →
    (programOf (service.callOf task.now task.request)).Reaches
        (visitsOf index (service.journal moves)) (.done (.error problem)) →
      (∀ detail, problem ≠ .internal detail) ∧
        ∀ denial, problem ≠ .forbidden "identify_caller" denial
  /-- The stores add every menu item that they are asked to add. -/
  additions : ∀ entry ∈ service.journal moves, ∀ draft, entry.2.access = .addMenuItem draft →
    ∃ item, ((Access.addMenuItem draft).run entry.2.stores).1 = .ok item

theorem mem_visitsOf {index : Nat} {visit : Visit} {journal : List (Nat × Visit)}
    (h : (index, visit) ∈ journal) : visit ∈ visitsOf index journal :=
  List.mem_map.2 ⟨(index, visit), List.mem_filter.2 ⟨h, beq_self_eq_true index⟩, rfl⟩

theorem rulesOut (service : Service) (moves : List Move) : service.RulesOut moves := by
  refine ⟨?_, ?_, ?_⟩
  · intro index task final htask hfinal
    have hreaches := reaches_after moves htask
    obtain ⟨-, last, hlast⟩ := Program.Obeys.of_reaches hreaches
      (obeys_presence_answer .empty service task.now task.request)
      (chained_presence service index moves)
    rw [hfinal] at hreaches hlast
    unfold answer at hreaches
    split at hreaches
    next hquestion =>
      obtain ⟨-, hdone⟩ := Program.Reaches.of_done hreaches
      cases hdone
      exact ⟨_, rfl, hlast, fun hne => absurd hquestion hne⟩
    next =>
      obtain ⟨outcome, houtcome, rfl⟩ := hreaches.of_performing_done.of_settle_done
      exact ⟨_, rfl, hlast, fun _ => ⟨outcome, houtcome, rfl⟩⟩
  · intro index task problem _ hreaches
    obtain ⟨-, last, hlast⟩ := Program.Obeys.of_reaches (hreaches.settle id)
      (endsWell_programOf (service.callOf task.now task.request) .empty)
      (chained_presence service index moves)
    have harises : problem.Arises := hlast
    refine ⟨?_, harises.ne_identify⟩
    rintro detail rfl
    exact harises
  · rintro ⟨index, visit⟩ hentry draft haccess
    obtain ⟨task, htask⟩ : ∃ task, (service.after moves).tasks[index]? = some task :=
      ⟨_, List.getElem?_eq_getElem (lt_length_of_mem_journal moves hentry)⟩
    obtain ⟨hgrants, -⟩ := Program.Obeys.of_reaches (reaches_after moves htask)
      (obeys_presence_answer .empty service task.now task.request)
      (chained_presence service index moves)
    exact Access.run_addMenuItem_of_hasRestaurant
      (hgrants visit (mem_visitsOf hentry) draft haccess)

/-- Whatever is asked by whom, and however the requests fall between one another, the service never
needs its fallbacks: there is no failure inside, no caller without an identity behind the guard, no
identity without a first role, and no record with a default in the place of a field. -/
theorem fallbacks_never_come_up (service : Service) (moves : List Move) :
    service.RulesOut moves ∧
      (∀ userId roles email identity, Identity.create userId roles email = .ok identity →
        roles.head? = some identity.primaryRole) ∧
      (∀ peer (headers : Http.Headers) identity,
        Identity.reconstruct service.zone peer headers = some identity →
          (Role.readList ((headers.getText? IdentityHeaders.userRole).getD "")).head? =
            some identity.primaryRole) ∧
      (∀ (request : OrderRequest) customerId now draft,
        request.toOrder customerId now = .ok draft → request.Becomes draft) ∧
      (∀ (request : RestaurantRequest) ownerId now draft,
        request.toRestaurant ownerId now = .ok draft → request.Becomes draft) ∧
      (∀ (request : MenuItemRequest) content,
        request.toContent = .ok content → request.Becomes content) ∧
      ∀ (request : StatusRequest) status, request.toStatus = .ok status →
        ∃ name, request.status = some name ∧ StatusRequest.statusOf? name = some status :=
  ⟨rulesOut service moves,
    fun _ _ _ _ => Identity.head?_of_create,
    fun _ _ _ => Identity.head?_of_reconstruct,
    fun _ _ _ _ => OrderRequest.becomes_of_toOrder,
    fun _ _ _ _ => RestaurantRequest.becomes_of_toRestaurant,
    fun _ _ => MenuItemRequest.becomes_of_toContent,
    fun _ _ => StatusRequest.exists_of_toStatus⟩

/-- Two owners extend a menu at the same time, and one of them has the restaurant. -/
theorem menu_is_extended_among_owners :
    let service : FoodOrdering.Service := { zone := .privateNetwork }
    let request (user path body : String) : Http.Request :=
      { method := "POST", target := ⟨path, none⟩, body := body.toUTF8
        peer := some (.v4 ⟨10, 0, 0, 7⟩)
        headers := .ofList [("X-User-Id", Text.utf8 user), ("X-User-Role", Text.utf8 "OWNER"),
          ("Content-Type", Text.utf8 "application/json")] }
    let registering :=
      request "7" "/api/restaurants" "[\"Vito\",\"Pizza\",\"Rome\",null,null,null]"
    let extending (user : String) :=
      request user "/api/restaurants/1/menu" "[\"Margherita\",\"Classic\",9.5]"
    let moves : List Move :=
      [.arrive (.ofSeconds 0) registering, .turn 0, .arrive (.ofSeconds 1) (extending "7"),
        .arrive (.ofSeconds 1) (extending "9"), .turn 1, .turn 2, .turn 2, .turn 1]
    (service.after moves).tasks.map Task.status? = [some 201, some 200, some 403] ∧
      (∃ task response, (service.after moves).tasks[1]? = some task ∧
        task.rest = .done (.ok response) ∧ response.status ≠ 500) ∧
      ∃ identity, Identity.create 7 [.owner, .user, .owner] "" = .ok identity ∧
        identity.primaryRole = .owner := by
  intro service request registering extending moves
  have hstatuses : (service.after moves).tasks.map Task.status? =
      [some 201, some 200, some 403] := by decide +kernel
  obtain ⟨hruled, hcreated, -⟩ := fallbacks_never_come_up service moves
  refine ⟨hstatuses, ?_, ?_⟩
  · have hsecond : ((service.after moves).tasks[1]?.bind Task.status?) = some 200 := by
      decide +kernel
    obtain ⟨task, htask, hstatus⟩ := Option.bind_eq_some_iff.1 hsecond
    unfold Task.status? at hstatus
    split at hstatus
    next response hrest =>
      obtain ⟨told, htold, hne, -⟩ := hruled.answered 1 task _ htask hrest
      cases htold
      exact ⟨task, response, htask, hrest, hne⟩
    next => cases hstatus
  · obtain ⟨identity, hidentity⟩ :
        ∃ identity, Identity.create 7 [.owner, .user, .owner] "" = .ok identity := ⟨_, rfl⟩
    exact ⟨identity, hidentity, (Option.some.inj (hcreated _ _ _ _ hidentity)).symm⟩

end Service

end FoodOrdering
