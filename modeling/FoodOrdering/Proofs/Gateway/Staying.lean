import FoodOrdering.Proofs.Gateway.Mediation
import FoodOrdering.Proofs.Gateway.Resolution
import FoodOrdering.Proofs.Network.Origin

/-!
# Requests that stay on their routes

A route is chosen by the path of a request as it came in, and the path that a service is asked for
is read from an address made of that text.  The two are the same for settled paths.  Another path is
walked on the way and may come out below the prefix of another route, which the gate has not looked
at.
-/

namespace FoodOrdering

namespace Route

variable {route : Route}

/-- The service stands at an origin, with a path of its own in front of what is asked for there. -/
structure IsAt (route : Route) (origin base : List Char) : Prop where
  service : Text.dropEnd (· == '/') route.service.toList = origin ++ base
  origin : Url.IsOrigin origin
  rooted : base = [] ∨ base.head? = some '/'
  within : Url.IsWithin base

/-- An accepted service without backslashes, queries and fragments has an origin and a path. -/
theorem exists_isAt (hservice : Settings.isService route.service = true)
    (hwithin : Url.IsWithin route.service.toList) (hslash : '\\' ∉ route.service.toList) :
    ∃ origin base, route.IsAt origin base := by
  obtain ⟨scheme, authority, path, htext, hscheme, hne, hnone, hrooted⟩ :=
    Settings.exists_of_isService hservice
  have hplain : ∀ c ∈ authority, Url.endsAuthority c = false ∧ 0x20 < c.toNat := by
    intro c hc
    have hmem : c ∈ route.service.toList := by simp [htext, hc]
    have hback : c ≠ '\\' := fun heq => hslash (heq ▸ hmem)
    have hfront : c ≠ '/' := fun heq => hnone (heq ▸ hc)
    exact ⟨by simp [Url.endsAuthority, Url.isSlash, hfront, hback, (hwithin c hmem).2.1,
      (hwithin c hmem).2.2], (hwithin c hmem).1⟩
  have hbase : Text.dropEnd (· == '/') path <+: path := Text.dropEnd_prefix _ _
  have hend : Text.dropEnd (· == '/') (authority ++ path) =
      authority ++ Text.dropEnd (· == '/') path := by
    apply Text.dropEnd_append
    intro c hc
    simpa using fun heq : c = '/' => hnone (heq ▸ hc)
  refine ⟨scheme ++ authority, Text.dropEnd (· == '/') path, ?_,
    ⟨scheme, authority, rfl, hscheme, hne, hplain⟩, ?_, ?_⟩
  · rw [htext, List.append_assoc, Text.dropEnd_append_of_ne_nil (by simp [hend, hne]), hend,
      List.append_assoc]
  · obtain ⟨behind, heq⟩ := hbase
    cases hleft : Text.dropEnd (· == '/') path with
    | nil => exact Or.inl rfl
    | cons c others =>
        rw [← heq, hleft] at hrooted
        exact Or.inr (by simpa using hrooted)
  · intro c hc
    have hmem := hbase.subset hc
    exact hwithin c (by simp [htext, hmem])

end Route

namespace Gateway

/-- A target that begins with a slash is asked for with its path and at most a query behind it. -/
theorem exists_targetText {target : Http.Target} (h : target.path.toList.head? = some '/') :
    ∃ tail, Url.IsQuery tail ∧ (targetText target).toList = target.path.toList ++ tail := by
  have hne : target.path.toList ≠ [] := by
    intro hnil
    rw [hnil] at h
    cases h
  obtain ⟨tail, htail, htext⟩ : ∃ tail, Url.IsQuery tail ∧
      target.text.toList = target.path.toList ++ tail := by
    unfold Http.Target.text
    split
    next => exact ⟨[], Or.inl rfl, by simp⟩
    next query _ => exact ⟨'?' :: query.toList, Or.inr rfl, by simp⟩
  refine ⟨tail, htail, ?_⟩
  have hempty : target.text.isEmpty = false := by
    rw [String.isEmpty_eq_false_iff, ne_eq, ← String.toList_eq_nil_iff, htext]
    simp [hne]
  rw [targetText, hempty, if_neg Bool.false_ne_true, htext]

/-- A service is asked for the path of the target behind its own path, settled. -/
theorem parse_address {route : Route} {origin base : List Char} (hat : route.IsAt origin base)
    {home : Url} (hhome : Url.parse (String.ofList origin) = some home) {target : Http.Target}
    (hrooted : target.path.toList.head? = some '/') (hwithin : Url.IsWithin target.path.toList) :
    ∃ url, Url.parse (route.address (targetText target)) = some url ∧ url.SameHost home ∧
      url.path = Url.settle (base ++ target.path.toList) := by
  obtain ⟨tail, htail, htext⟩ := exists_targetText hrooted
  have hboth : Url.IsWithin (base ++ target.path.toList) := by
    intro c hc
    rcases List.mem_append.1 hc with hc | hc
    · exact hat.within c hc
    · exact hwithin c hc
  have hhead : (base ++ target.path.toList).head? = some '/' := by
    rcases hat.rooted with rfl | hbase
    · exact hrooted
    · rw [List.head?_append, hbase]
      rfl
  have haddress : route.address (targetText target) =
      String.ofList (origin ++ (base ++ target.path.toList) ++ tail) := by
    rw [← String.toList_inj, Route.address, String.toList_append, String.toList_ofList,
      hat.service, htext, String.toList_ofList]
    simp only [List.append_assoc]
  rw [haddress]
  exact Url.parse_behind_origin hat.origin hhome hboth hhead htail

variable {gateway : Gateway} {now : Instant} {request : Http.Request}

/-- What is asked for on behalf of a request that has passed goes to its route. -/
theorem exists_route_of_passed {outgoing : Http.Outgoing}
    (hasked : request.method ≠ Http.CrossOrigin.question) {passed : Http.Request}
    {found : Option Route} {verified : List String} {counters : List Counter}
    (hpass : pass gateway.routes gateway.verify request =
      ⟨.ok ⟨passed, found⟩, verified, spoofedCounters request.headers ++ counters⟩)
    (htarget : passed.target = request.target)
    (h : outgoing ∈ (gateway.handle now request).sent) :
    ∃ route, found = some route ∧
      outgoing.address = route.address (targetText request.target) := by
  rw [(handle_of_passed now hasked hpass).2.1] at h
  unfold serve at h
  split at h
  · unfold forward at h
    cases found with
    | none => cases h
    | some route =>
        refine ⟨route, rfl, ?_⟩
        dsimp only at h
        rw [← htarget]
        split at h
        · cases h
        · split at h
          · rw [List.mem_singleton.1 h]
            rfl
          · rw [List.mem_singleton.1 h]
            rfl
  · split at h
    · cases h
    · cases h

/-- Whatever the gateway asks for, it asks for on the route of the request, and with an accepted
token where the route needs one. -/
theorem exists_route_of_sent {outgoing : Http.Outgoing}
    (h : outgoing ∈ (gateway.handle now request).sent) :
    ∃ route, gateway.routes.resolve request.target.path = some route ∧
      outgoing.address = route.address (targetText request.target) ∧
      (route.authenticated = true →
        ∃ token claims id, Opens gateway.verify request.headers token claims id) := by
  have hasked : request.method ≠ Http.CrossOrigin.question := by
    intro heq
    rw [handle, if_pos heq] at h
    cases h
  cases hroute : gateway.routes.resolve request.target.path with
  | none =>
      obtain ⟨route, hnone, -⟩ :=
        exists_route_of_passed hasked (pass_unmatched gateway.verify hroute) rfl h
      cases hnone
  | some route =>
      cases hauthenticated : route.authenticated with
      | false =>
          obtain ⟨found, hfound, haddress⟩ := exists_route_of_passed hasked
            (pass_public gateway.verify hroute hauthenticated) rfl h
          cases hfound
          exact ⟨route, rfl, haddress, fun hneeds => absurd (hauthenticated ▸ hneeds) (by simp)⟩
      | true =>
          by_cases hopens :
              ∃ token claims id, Opens gateway.verify request.headers token claims id
          · obtain ⟨token, claims, id, hopened⟩ := id hopens
            obtain ⟨found, hfound, haddress⟩ := exists_route_of_passed hasked
              (pass_entered hroute hauthenticated hopened) rfl h
            cases hfound
            exact ⟨route, rfl, haddress, fun _ => hopens⟩
          · obtain ⟨fault, verified, hpass, -⟩ := pass_refused hroute hauthenticated
              fun token claims id hopened => hopens ⟨token, claims, id, hopened⟩
            rw [(handle_of_refused now hasked hpass).2.1] at h
            cases h

/-- A service is asked for the path of a request, settled.  A path that is settled behind the path
of the service is asked for as it stands, and so on the route that it was admitted for; no other
path is. -/
theorem settled_paths_stay_on_their_routes (settings : Settings.Gateway)
    (hvalid : settings.validate = .ok ()) (gateway : Gateway)
    (htable : gateway.routes = .ofList settings.routes) (now : Instant) (request : Http.Request)
    (hwithin : Url.IsWithin request.target.path.toList) {outgoing : Http.Outgoing}
    (hsent : outgoing ∈ (gateway.handle now request).sent) :
    ∃ route, gateway.routes.resolve request.target.path = some route ∧
      (route.authenticated = true →
        ∃ token claims id, Opens gateway.verify request.headers token claims id) ∧
      (Url.IsWithin route.service.toList → '\\' ∉ route.service.toList →
        ∃ origin base, route.IsAt origin base) ∧
      ∀ origin base home, route.IsAt origin base →
        Url.parse (String.ofList origin) = some home →
          ∃ url, Url.parse outgoing.address = some url ∧ url.SameHost home ∧
            url.path = Url.settle (base ++ request.target.path.toList) ∧
            (url.path = base ++ request.target.path.toList ↔
              Url.IsSettled (base ++ request.target.path.toList)) ∧
            (Url.IsSettled (base ++ request.target.path.toList) → ∀ rest : String,
              url.path = base ++ rest.toList → gateway.routes.resolve rest = some route) := by
  obtain ⟨route, hroute, haddress, hopens⟩ := exists_route_of_sent hsent
  have hroutes := Settings.Gateway.areRoutes_of_validate hvalid
  have hlongest : RouteTable.IsLongest settings.routes request.target.path route :=
    RouteTable.isLongest_of_resolve hroutes.pairwise_ne (htable ▸ hroute)
  have hrooted : request.target.path.toList.head? = some '/' := by
    obtain ⟨rest, hpath⟩ := hlongest.takes.begins
    rw [← hpath, List.head?_append, hroutes.rooted route hlongest.mem]
    rfl
  refine ⟨route, hroute, hopens,
    Route.exists_isAt (hroutes.service route hlongest.mem), ?_⟩
  intro origin base home hat hhome
  obtain ⟨url, hurl, hsame, hpath⟩ := parse_address hat hhome hrooted hwithin
  refine ⟨url, haddress ▸ hurl, hsame, hpath, ?_, ?_⟩
  · rw [hpath]
    exact Url.settle_eq_self_iff
  · intro hsettled rest hrest
    rw [hpath, Url.settle_of_isSettled hsettled, List.append_cancel_left_eq,
      String.toList_inj] at hrest
    rw [← hrest]
    exact hroute

/-- An order is asked for behind the path of its service. -/
theorem order_stays_on_its_route :
    let route : Route := ⟨"/api/orders", "http://orders:8081/v1/", true⟩
    let settings : Settings.Gateway := { routes := [route, ⟨"/api", "https://web/", false⟩] }
    let claims : Claims := { sub := "7", role := "USER", email := "", iat := 0, exp := 9 }
    let gateway : Gateway :=
      { routes := ⟨settings.routes⟩
        verify := fun token => if token = "t" then .ok claims else .error .invalidSignature
        client := fun _ => .error .unreachable }
    let request : Http.Request :=
      { method := "GET", target := ⟨"/api/orders/7", some "full"⟩
        headers := .ofList [("authorization", Text.utf8 "Bearer t")]
        body := .empty, peer := none }
    settings.validate = .ok () ∧ gateway.routes = .ofList settings.routes ∧
      Url.IsWithin request.target.path.toList ∧
      ∃ outgoing ∈ (gateway.handle (.ofSeconds 0) request).sent,
        ∃ url, Url.parse outgoing.address = some url ∧ url.path = "/v1/api/orders/7".toList ∧
          ∃ token claims id, Opens gateway.verify request.headers token claims id := by
  intro route settings claims gateway request
  have hvalid : settings.validate = .ok () := by decide +kernel
  have htable : gateway.routes = .ofList settings.routes :=
    (RouteTable.ofList_of_pairwise (by decide +kernel)).symm
  have hwithin : Url.IsWithin "/api/orders/7".toList := by simp [Url.IsWithin]
  have hlength : (gateway.handle (.ofSeconds 0) request).sent.length = 1 := by decide +kernel
  obtain ⟨outgoing, hsent⟩ := List.exists_mem_of_length_pos (hlength ▸ Nat.one_pos)
  obtain ⟨found, hfound, hopens, -, hasked⟩ :=
    settled_paths_stay_on_their_routes settings hvalid gateway htable (.ofSeconds 0) request
      hwithin hsent
  have hroute : gateway.routes.resolve request.target.path = some route := by decide +kernel
  obtain rfl : route = found := Option.some.inj (hroute.symm.trans hfound)
  have hat : route.IsAt "http://orders:8081".toList "/v1".toList :=
    { service := by decide
      origin := ⟨"http://".toList, "orders:8081".toList, by decide, Or.inl rfl, by decide,
        by simp [Url.endsAuthority, Url.isSlash]⟩
      rooted := Or.inr rfl
      within := by simp [Url.IsWithin] }
  have hhome : (Url.parse (String.ofList "http://orders:8081".toList)).isSome = true := by
    decide +kernel
  obtain ⟨home, hhome⟩ := Option.isSome_iff_exists.1 hhome
  obtain ⟨url, hurl, -, -, hkept, -⟩ := hasked _ _ home hat hhome
  have hpath : url.path = "/v1/api/orders/7".toList := by
    rw [hkept.2 (by decide +kernel)]
    decide
  exact ⟨hvalid, htable, hwithin, outgoing, hsent, url, hurl, hpath, hopens rfl⟩

/-- Segments of points lead from a public route to the orders of the default routes, and nobody
asks for a token. -/
theorem public_path_asks_for_orders :
    let settings : Settings.Gateway := {}
    let gateway : Gateway :=
      { routes := .ofList settings.routes
        verify := fun _ => .error .invalidSignature
        client := fun _ => .error .unreachable }
    let request : Http.Request :=
      { method := "GET", target := ⟨"/auth/../api/orders", none⟩, headers := .empty
        body := .empty, peer := none }
    settings.validate = .ok () ∧
      gateway.routes.resolve "/auth/../api/orders" =
        some ⟨"/auth", "http://127.0.0.1:8083", false⟩ ∧
      (gateway.handle (.ofSeconds 0) request).verified = [] ∧
      ((gateway.handle (.ofSeconds 0) request).sent.map fun outgoing =>
        (Url.parse outgoing.address).map Url.path) = [some "/api/orders".toList] ∧
      gateway.routes.resolve "/api/orders" =
        some ⟨"/api/orders", "http://127.0.0.1:8081", true⟩ := by
  intro settings gateway request
  have hvalid : settings.validate = .ok () := by decide +kernel
  have hdistinct := (Settings.Gateway.areRoutes_of_validate hvalid).pairwise_ne
  have hpublic : gateway.routes.resolve request.target.path =
      some ⟨"/auth", "http://127.0.0.1:8083", false⟩ :=
    (RouteTable.resolve_ofList_eq_some_iff hdistinct).2 (by decide +kernel)
  have horders : gateway.routes.resolve "/api/orders" =
      some ⟨"/api/orders", "http://127.0.0.1:8081", true⟩ :=
    (RouteTable.resolve_ofList_eq_some_iff hdistinct).2 (by decide +kernel)
  obtain ⟨-, hsent, hverified, -⟩ := handle_of_passed (.ofSeconds 0) (by decide)
    (pass_public gateway.verify hpublic rfl)
  refine ⟨hvalid, hpublic, hverified, ?_, horders⟩
  rw [hsent]
  decide +kernel

end Gateway

end FoodOrdering
