import FoodOrdering.Proofs.Json.Written
import FoodOrdering.Proofs.Service.Ending
import FoodOrdering.Proofs.Service.FieldFailure
import FoodOrdering.Proofs.Service.Refusal
import FoodOrdering.Proofs.Service.Reply
import FoodOrdering.Proofs.Text.Segments

/-!
# Answers in envelopes

An envelope is an object with four members, one of which is the status of the response.  Main
statement: whatever is asked of whatever stores, alone or among others, the answer is an envelope if
the path takes the method, with data where the request was served or its fields are at fault, and
otherwise it has no body.
-/

namespace FoodOrdering.Service

open Json Reader Reading

namespace Envelope

variable {α : Type}

/-- What a reader finds in an envelope. -/
structure Found (α : Type) where
  status : Int64
  message : String
  data : α
  timestamp : String

/-- The values met so far. -/
structure Partial (α : Type) where
  status : Option Int64 := none
  message : Option String := none
  data : Option α := none
  timestamp : Option String := none

/-- One of the four members, which may be met once only; there is no other. -/
def member (item : Reader α) (name : String) (read : Partial α) : Reader (Partial α) :=
  if name = "status" then do
    let value ← once read.status int64
    return { read with status := value }
  else if name = "message" then do
    let value ← once read.message text
    return { read with message := value }
  else if name = "data" then do
    let value ← once read.data item
    return { read with data := value }
  else if name = "timestamp" then do
    let value ← once read.timestamp text
    return { read with timestamp := value }
  else fail .mismatch

/-- An object with all four members and nothing else. -/
def reader (item : Reader α) : Reader (Found α) :=
  record
    (do
      let read ← members (member item) {}
      match read.status, read.message, read.data, read.timestamp with
      | some status, some message, some data, some timestamp =>
          return { status, message, data, timestamp }
      | _, _, _, _ => fail .mismatch)
    (fail .mismatch)

/-- An object of texts, as names and texts in their order. -/
def entries : Reader (List (String × String)) :=
  record
    (members (fun name read => do
      let value ← memberValue text
      return read ++ [(name, value)]) [])
    (fail .mismatch)

end Envelope

/-- The body of a response is an envelope that states the status of the response, and this is the
data in it. -/
def IsEnvelope {α : Type} (response : Http.Response) (item : Reader α) (data : α) : Prop :=
  ∃ found, read (Envelope.reader item) response.body.data.toList = .ok found ∧
    found.status.toInt = response.status ∧ found.data = data

/-! ## What is written is read -/

theorem reads_entries (said : List (String × String)) :
    Reads Envelope.entries (.object (said.map fun entry => (entry.1, .text entry.2))) said := by
  have htakes : ∀ (said before : List (String × String)),
      TakesAll (fun name read => do
        let value ← memberValue text
        return read ++ [(name, value)]) before (said.map fun entry => (entry.1, .text entry.2))
        (before ++ said) := by
    intro said
    induction said with
    | nil =>
        intro before
        rw [List.append_nil]
        exact .nil before
    | cons entry others ih =>
        intro before
        have hothers := ih (before ++ [entry])
        rw [List.append_assoc] at hothers
        exact .cons (fun rest hrest =>
          (gives_memberValue (reads_text entry.2) hrest).bind (gives_done _ rest)) hothers
  intro rest _
  exact gives_record (gives_members (htakes said []) rest)

theorem reads_null : Reads null .null () := by
  intro rest _
  refine (gives_peekToken _ (by decide)).bind ((gives_next _ _).bind ?_)
  rw [wordAfter_eq]
  exact gives_literal_iff.2 rfl

namespace Envelope

variable {α : Type} {item : Reader α} {data : α} {envelope : Envelope} {now : Instant}
  {request : Http.Request}

theorem takesAll_member {status : Int64} (hstatus : status.toInt = envelope.status)
    (hdata : Reads item envelope.data data) :
    TakesAll (member item) {}
      [("status", .integer envelope.status), ("message", .text envelope.message),
        ("data", envelope.data), ("timestamp", .text now.zulu)]
      { status := some status, message := some envelope.message, data := some data
        timestamp := some now.zulu } := by
  rw [← hstatus]
  exact
    .cons (fun rest hrest => (gives_once (reads_int64 status) hrest).bind (gives_done _ rest)) <|
    .cons (fun rest hrest =>
      (gives_once (reads_text envelope.message) hrest).bind (gives_done _ rest)) <|
    .cons (fun rest hrest => (gives_once hdata hrest).bind (gives_done _ rest)) <|
    .cons (fun rest hrest => (gives_once (reads_text now.zulu) hrest).bind (gives_done _ rest)) <|
    .nil _

/-- What goes out with an envelope is read as this envelope again. -/
theorem isEnvelope_reply (hhead : request.method ≠ "HEAD") (hstatus : envelope.status < 2 ^ 63)
    (hdata : Reads item envelope.data data) :
    IsEnvelope (reply now request envelope) item data := by
  have hbody : (reply now request envelope).body.data.toList =
      Text.charBytes (envelope.toJson now).chars := by
    rw [← utf8_render, reply, sent, Http.body_finished, if_neg hhead]
    rfl
  refine ⟨{ status := .ofNat envelope.status, message := envelope.message, data
            timestamp := now.zulu }, ?_, ?_, rfl⟩
  · rw [hbody, ← List.append_nil (Text.charBytes (envelope.toJson now).chars)]
    apply read_of_gives
    apply gives_record
    exact (gives_members (takesAll_member (Int64.toInt_ofNat_of_lt hstatus) hdata) []).bind
      (gives_done _ _)
  · rw [status_reply]
    exact Int64.toInt_ofNat_of_lt hstatus

end Envelope

/-! ## Answers -/

/-- What is asked for, if the path of the request takes its method. -/
def Action.ofRequest? (request : Http.Request) : Option Action :=
  (Resource.ofPath? request.target.path).bind fun resource => resource.action? request.method

/-- A request that is no question of a browser, wants more than the head and is not about health. -/
structure IsOrdinary (request : Http.Request) : Prop where
  question : request.method ≠ Http.CrossOrigin.question
  head : request.method ≠ "HEAD"
  path : request.target.path ≠ "/health"

instance (request : Http.Request) : Decidable (IsOrdinary request) :=
  decidable_of_iff (request.method ≠ Http.CrossOrigin.question ∧ request.method ≠ "HEAD" ∧
      request.target.path ≠ "/health")
    ⟨fun ⟨hquestion, hhead, hpath⟩ => ⟨hquestion, hhead, hpath⟩,
      fun ⟨hquestion, hhead, hpath⟩ => ⟨hquestion, hhead, hpath⟩⟩

/-- How the end of a program shows in the response. -/
inductive Shows (action : Action) (request : Http.Request) (response : Http.Response) :
    Except Problem Envelope → Prop
  | success {envelope : Envelope} (hstatus : response.IsSuccess)
      (hbody : IsEnvelope response skipValue ()) : Shows action request response (.ok envelope)
  /-- The fields that the body states are at fault, and the data tells what was said of them. -/
  | fields {errors : FieldErrors} (hstatus : response.status = 400)
      (hfound : action.FindsFault request errors) (hsaid : errors.joined ≠ [])
      (hbody : IsEnvelope response Envelope.entries errors.joined) :
      Shows action request response (.error (.invalid errors))
  | failure {problem : Problem} (hother : ∀ errors, problem ≠ .invalid errors)
      (hstatus : ¬ response.IsSuccess) (hbody : IsEnvelope response null ()) :
      Shows action request response (.error problem)

/-- How the service answers a request whose program makes these visits to the stores. -/
structure IsAnswered (service : Service) (now : Instant) (request : Http.Request)
    (visits : List Visit) (response : Http.Response) : Prop where
  taken : ∀ action, Action.ofRequest? request = some action →
    ∃ program outcome, action.envelope? = some program ∧
      (program (service.callOf now request)).Reaches visits (.done outcome) ∧
      Shows action request response outcome
  untaken : Action.ofRequest? request = none → response.body = .empty ∧
    response.status = if (Resource.ofPath? request.target.path).isSome then 405 else 404

section

variable {now : Instant} {request : Http.Request} {action : Action}

theorem status_le (problem : Problem) : problem.status ≤ 500 := by
  cases problem <;> exact Nat.le_of_ble_eq_true rfl

theorem shows_reply (hhead : request.method ≠ "HEAD") {outcome : Except Problem Envelope}
    (h : (Program.done outcome).EndsWith (action.FindsFault request) Envelope.IsServed) :
    Shows action request (reply now request (.ofOutcome outcome)) outcome := by
  cases outcome with
  | ok envelope =>
      have hstatus : 200 ≤ envelope.status ∧ envelope.status < 300 := by
        rcases h with heq | heq
        · omega
        · omega
      refine .success ?_ (Envelope.isEnvelope_reply hhead ?_ (reads_skipValue envelope.data))
      · rw [Http.Response.IsSuccess, status_reply]
        exact hstatus
      · show envelope.status < 2 ^ 63
        omega
  | error problem =>
      have hfailed : ¬ (reply now request (.ofProblem problem)).IsSuccess := by
        have hle := le_status problem
        rw [Http.Response.IsSuccess, status_reply]
        show ¬ (200 ≤ problem.status ∧ problem.status < 300)
        omega
      have hread : ∀ {α : Type} {item : Reader α} {data : α}, Reads item problem.data data →
          IsEnvelope (reply now request (.ofProblem problem)) item data := by
        intro α item data hdata
        have hle := status_le problem
        refine Envelope.isEnvelope_reply hhead ?_ hdata
        show problem.status < 2 ^ 63
        omega
      cases problem with
      | invalid errors =>
          exact .fields status_reply h.1 h.2 (hread (reads_entries errors.joined))
      | forbidden | notFound | body | path | internal =>
          exact .failure nofun hfailed (hread reads_null)

theorem eq_of_ofSegments?_health {parts : List String}
    (h : Resource.ofSegments? parts = some .health) : parts = ["health"] := by
  have hother : ∀ {id : String} {resource : Resource}, resource ≠ .health →
      Resource.endingIn id resource ≠ some .health := by
    intro id resource hne heq
    unfold Resource.endingIn at heq
    split at heq
    next => cases heq
    next => exact hne (Option.some.inj heq)
  unfold Resource.ofSegments? at h
  split at h
  next => rfl
  next => cases h
  next => exact absurd h (hother nofun)
  next => cases h
  next => cases h
  next => exact absurd h (hother nofun)
  next => cases h
  next => exact absurd h (hother nofun)
  next => cases h

/-- No other path is the one of the health resource. -/
theorem ofPath?_ne_health {path : String} (h : path ≠ "/health") :
    Resource.ofPath? path ≠ some .health := by
  intro hhealth
  unfold Resource.ofPath? at hhealth
  split at hhealth
  next rest hpath =>
    obtain ⟨first, others, hsegments, hfirst, hothers⟩ :=
      List.map_eq_cons_iff.1 (eq_of_ofSegments?_health hhealth)
    have hpieces := Text.flatMap_segments '/' rest
    rw [hsegments, List.map_eq_nil_iff.1 hothers, List.flatMap_singleton] at hpieces
    apply h
    rw [← String.toList_inj, hpath, ← hpieces, ← String.toList_ofList (l := first), hfirst]
    rfl
  next => cases hhealth

/-- Every action but the one of the health resource answers with an envelope. -/
theorem exists_envelope? {resource : Resource} (hresource : resource ≠ .health) {method : String}
    (h : resource.action? method = some action) : ∃ program, action.envelope? = some program := by
  have hread : resource.reading? ≠ some .showHealth := by
    cases resource with
    | health => exact absurd rfl hresource
    | restaurants | restaurant | menu | menuItem | status | orders | restaurantOrders => nofun
  have hwrite : resource.writing? method ≠ some .showHealth := by
    cases resource with
    | health | restaurant | restaurantOrders => nofun
    | restaurants | menu | menuItem | status | orders =>
        dsimp only [Resource.writing?]
        split
        next => nofun
        next => nofun
  cases action with
  | showHealth =>
      unfold Resource.action? at h
      split at h
      next => exact absurd h hread
      next => exact absurd h hwrite
  | _ => exact ⟨_, rfl⟩

/-- The answer where the path is not known or does not take the method. -/
def untakenResponse (request : Http.Request) : Http.Response :=
  sent request (Http.CrossOrigin.opened
    (.bare (if (Resource.ofPath? request.target.path).isSome then 405 else 404)))

theorem answer_eq_of_untaken (service : Service) (now : Instant)
    (hquestion : request.method ≠ Http.CrossOrigin.question)
    (h : Action.ofRequest? request = none) :
    service.answer now request =
      (Program.done (.ok (untakenResponse request))).performing
        (callerEffects (service.callOf now request)) := by
  unfold Action.ofRequest? at h
  have hprogramOf : programOf (service.callOf now request) =
      .done (.ok (.bare (if (Resource.ofPath? request.target.path).isSome then 405 else 404))) := by
    unfold programOf
    split
    next hnone =>
      rw [show Resource.ofPath? request.target.path = none from hnone]
      rfl
    next resource hresource =>
      have hpath : Resource.ofPath? request.target.path = some resource := hresource
      rw [hpath, Option.bind_some] at h
      rw [show resource.action? (service.callOf now request).request.method = none from h, hpath]
      rfl
  unfold answer
  rw [if_neg hquestion]
  dsimp only
  rw [hprogramOf]
  rfl

theorem exists_reaches_run {α : Type} (program : Program α) (stores : Stores) :
    ∃ visits, program.Reaches visits (.done (program.run stores).outcome) := by
  induction program generalizing stores with
  | done outcome => exact ⟨[], .here _⟩
  | access step next ih =>
      obtain ⟨visits, hreaches⟩ := ih (step.run stores).1 (step.run stores).2
      exact ⟨_, .access stores hreaches⟩
  | perform effect next ih =>
      obtain ⟨visits, hreaches⟩ := ih stores
      exact ⟨visits, .perform hreaches⟩

theorem isAnswered_of_reaches (service : Service) (hordinary : IsOrdinary request)
    {visits : List Visit} {final : Except Problem Http.Response}
    (h : (service.answer now request).Reaches visits (.done final)) :
    ∃ response, final = .ok response ∧ IsAnswered service now request visits response := by
  cases hasked : Action.ofRequest? request with
  | none =>
      rw [answer_eq_of_untaken service now hordinary.question hasked] at h
      obtain ⟨-, hfinal⟩ := h.of_performing_done.of_done
      cases hfinal
      refine ⟨_, rfl, ?_, fun _ => ⟨?_, status_sent request _⟩⟩
      · intro action haction
        cases hasked.symm.trans haction
      · rw [untakenResponse, sent, Http.body_finished, if_neg hordinary.head]
        rfl
  | some action =>
      obtain ⟨resource, hpath, haction⟩ := Option.bind_eq_some_iff.1 hasked
      obtain ⟨program, hprogram⟩ := exists_envelope?
        (fun hhealth => ofPath?_ne_health hordinary.path (hhealth ▸ hpath)) haction
      rw [answer_eq_of_action service now hordinary.question hpath haction hprogram] at h
      obtain ⟨outcome, houtcome, rfl⟩ := h.of_performing_done.of_settle_done
      refine ⟨_, rfl, ?_, fun hnone => ?_⟩
      · intro other hother
        cases hasked.symm.trans hother
        refine ⟨program, outcome, hprogram, houtcome, shows_reply hordinary.head ?_⟩
        exact (endsWith_envelope (service.callOf now request) hprogram).of_reaches houtcome
      · cases hasked.symm.trans hnone

end

/-- Whatever is asked of whatever stores, alone or among others, the answer is an envelope if the
path takes the method.  It states the status of the response, and its data is null where the request
was not served, unless its fields are at fault: then the data tells what was said of them.  If the
path is not known or does not take the method, the answer is a status without a body. -/
theorem answers_are_envelopes_if_taken (service : Service) :
    (∀ now stores request, IsOrdinary request → ∃ visits,
      IsAnswered service now request visits (service.handle now stores request).response) ∧
    ∀ moves index task final, (service.after moves).tasks[index]? = some task →
      task.rest = .done final → IsOrdinary task.request →
        ∃ response, final = .ok response ∧
          IsAnswered service task.now task.request (visitsOf index (service.journal moves))
            response := by
  constructor
  · intro now stores request hordinary
    obtain ⟨visits, hreaches⟩ := exists_reaches_run (service.answer now request) stores
    obtain ⟨response, hresponse, hanswered⟩ := isAnswered_of_reaches service hordinary hreaches
    rw [run_answer] at hresponse
    cases hresponse
    exact ⟨visits, hanswered⟩
  · intro moves index task final htask hfinal hordinary
    have hreaches := reaches_after moves htask
    rw [hfinal] at hreaches
    exact isAnswered_of_reaches service hordinary hreaches

/-- The owner of a restaurant without a name is told so in an envelope, alone and among others. -/
theorem nameless_restaurant_is_told_of_in_envelope :
    let service : FoodOrdering.Service := { zone := .privateNetwork }
    let request : Http.Request :=
      { method := "POST", target := ⟨"/api/restaurants", none⟩
        body := "[\" \",\"Pizza\",\"Rome\",null,null,null]".toUTF8
        peer := some (.v4 ⟨10, 0, 0, 7⟩)
        headers := .ofList [("X-User-Id", Text.utf8 "7"), ("X-User-Role", Text.utf8 "OWNER"),
          ("Content-Type", Text.utf8 "application/json")] }
    let now : Instant := .ofSeconds 0
    let moves : List Move := [.arrive now request, .turn 0]
    let response := (service.handle now .empty request).response
    (IsOrdinary request ∧ response.status = 400 ∧
      ∃ errors, Action.registerRestaurant.FindsFault request errors ∧
        IsEnvelope response Envelope.entries errors.joined) ∧
      ∃ task told, (service.after moves).tasks[0]? = some task ∧ task.rest = .done (.ok told) ∧
        told.status = 400 ∧
        IsAnswered service task.now task.request (visitsOf 0 (service.journal moves)) told := by
  intro service request now moves response
  have hordinary : IsOrdinary request := by decide
  have hasked : Action.ofRequest? request = some .registerRestaurant := by decide +kernel
  have hstatus : response.status = 400 := by decide +kernel
  have hdata : (read (Envelope.reader null) response.body.data.toList).toOption.isNone = true := by
    decide +kernel
  obtain ⟨halone, hamong⟩ := answers_are_envelopes_if_taken service
  refine ⟨⟨hordinary, hstatus, ?_⟩, ?_⟩
  · obtain ⟨visits, hanswered⟩ := halone now .empty request hordinary
    obtain ⟨program, outcome, -, -, hshows⟩ := hanswered.taken _ hasked
    cases hshows with
    | success hsuccess =>
        rw [Http.Response.IsSuccess, hstatus] at hsuccess
        omega
    | fields _ hfound _ hbody => exact ⟨_, hfound, hbody⟩
    | failure _ _ hbody =>
        obtain ⟨found, hread, -⟩ := hbody
        rw [hread] at hdata
        cases hdata
  · have hdone : ((service.after moves).tasks[0]?.bind fun task =>
        task.status?.filter fun _ => IsOrdinary task.request) = some 400 := by
      decide +kernel
    obtain ⟨task, htask, hfiltered⟩ := Option.bind_eq_some_iff.1 hdone
    obtain ⟨htold, htaskOrdinary⟩ := Option.filter_eq_some_iff.1 hfiltered
    unfold Task.status? at htold
    split at htold
    next told hrest =>
      obtain ⟨same, hsame, hanswered⟩ :=
        hamong moves 0 task _ htask hrest (of_decide_eq_true htaskOrdinary)
      cases hsame
      exact ⟨task, told, htask, hrest, Option.some.inj htold, hanswered⟩
    next => cases htold

/-- There is nothing to be found under an unknown path, and no envelope that says so. -/
theorem unknown_path_is_answered_without_envelope :
    let service : FoodOrdering.Service := { zone := .privateNetwork }
    let request : Http.Request :=
      { method := "GET", target := ⟨"/nope", none⟩, headers := .empty, body := .empty
        peer := none }
    let response := (service.handle (.ofSeconds 0) .empty request).response
    IsOrdinary request ∧ response.status = 404 ∧ ¬ IsEnvelope response skipValue () := by
  intro service request response
  have hbody : response.body = .empty := by decide +kernel
  refine ⟨by decide, by decide +kernel, ?_⟩
  rintro ⟨found, hread, -⟩
  rw [hbody] at hread
  cases hread

end FoodOrdering.Service
