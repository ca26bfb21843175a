import FoodOrdering.Gateway.Route
import FoodOrdering.Proofs.Settings.Routes
import Mathlib.Data.List.Basic
import Mathlib.Data.List.Infix

/-!
# Which route takes a path

A table answers with the first route, in descending size of the prefixes, that takes a path.  Two
routes that take one path have prefixes of which one begins with the other, and so the first is the
only one of its length, whatever the order in which the routes were given.
-/

namespace FoodOrdering

namespace Route

variable {route other : Route} {path : String}

/-- The paths of a route: its prefix, what continues the prefix behind a slash, and whatever
continues it if it ends in a slash itself. -/
def Takes (route : Route) (path : String) : Prop :=
  path = route.pathPrefix ∨
    route.pathPrefix.toList ++ ['/'] <+: path.toList ∨
    ['/'] <:+ route.pathPrefix.toList ∧ route.pathPrefix.toList <+: path.toList

theorem isMatch_eq_true_iff : route.isMatch path = true ↔ route.Takes path := by
  have hend : route.pathPrefix.toList.getLast? = some '/' ↔ ['/'] <:+ route.pathPrefix.toList := by
    constructor
    · intro h
      obtain ⟨start, heq⟩ := List.getLast?_eq_some_iff.1 h
      exact ⟨start, heq.symm⟩
    · rintro ⟨start, heq⟩
      exact List.getLast?_eq_some_iff.2 ⟨start, heq.symm⟩
  cases hrest : after? route.pathPrefix.toList path.toList with
  | none =>
      have hno : ¬ route.pathPrefix.toList <+: path.toList := by
        rintro ⟨rest, heq⟩
        rw [after?_eq_some_iff.2 heq.symm] at hrest
        cases hrest
      refine iff_of_false (by simp [isMatch, hrest]) ?_
      rintro (rfl | h | ⟨-, h⟩)
      · exact hno List.prefix_rfl
      · exact hno ((List.prefix_append _ _).trans h)
      · exact hno h
  | some rest =>
      have hpath := after?_eq_some_iff.1 hrest
      have hsame : path = route.pathPrefix ↔ rest = [] := by
        rw [← String.toList_inj, hpath, List.append_right_eq_self]
      have hslash : route.pathPrefix.toList ++ ['/'] <+: path.toList ↔ rest.head? = some '/' := by
        rw [hpath, List.prefix_append_right_inj]
        cases rest <;> simp [eq_comm]
      have hbegin : route.pathPrefix.toList <+: path.toList := hpath ▸ List.prefix_append _ _
      simp [isMatch, hrest, Takes, hsame, hslash, hend, hbegin, or_assoc]

instance : Decidable (route.Takes path) :=
  decidable_of_iff _ isMatch_eq_true_iff

/-- A path that a route takes begins with its prefix. -/
theorem Takes.begins (h : route.Takes path) : route.pathPrefix.toList <+: path.toList := by
  rcases h with rfl | h | ⟨-, h⟩
  · exact List.prefix_rfl
  · exact (List.prefix_append _ _).trans h
  · exact h

/-- One prefix is shorter than another, counted in characters and in bytes. -/
def IsShorter (route other : Route) : Prop :=
  route.pathPrefix.length < other.pathPrefix.length ∧ route.size < other.size

instance : Decidable (route.IsShorter other) :=
  inferInstanceAs (Decidable (_ ∧ _))

theorem isShorter_of_begins (h : route.pathPrefix.toList <+: other.pathPrefix.toList)
    (hne : route.pathPrefix ≠ other.pathPrefix) : route.IsShorter other := by
  obtain ⟨rest, heq⟩ := h
  have hother : other.pathPrefix = route.pathPrefix ++ String.ofList rest := by
    rw [← String.toList_inj, ← heq]
    simp
  have hrest : String.ofList rest ≠ "" := by
    intro hnil
    rw [hnil, String.append_empty] at hother
    exact hne hother.symm
  have hlength : 0 < (String.ofList rest).length := by
    rw [Nat.pos_iff_ne_zero, ← String.length_toList]
    simpa using hrest
  have hsize : 0 < (String.ofList rest).utf8ByteSize :=
    Nat.pos_of_ne_zero (mt String.utf8ByteSize_eq_zero_iff.1 hrest)
  constructor
  · rw [hother, String.length_append]
    omega
  · rw [size, size, hother, String.utf8ByteSize_append]
    omega

/-- Of two routes that take one path the smaller has the shorter prefix. -/
theorem Takes.isShorter (h : route.Takes path) (hother : other.Takes path)
    (hne : other.pathPrefix ≠ route.pathPrefix) (hsize : other.size ≤ route.size) :
    other.IsShorter route := by
  rcases List.prefix_or_prefix_of_prefix h.begins hother.begins with hbegins | hbegins
  · exact absurd (isShorter_of_begins hbegins hne.symm).2 (Nat.not_lt.2 hsize)
  · exact isShorter_of_begins hbegins hne

end Route

namespace RouteTable

variable {routes others : List Route} {path : String} {route other : Route}

/-- The route that takes a path, with a longer prefix than all the others that do. -/
structure IsLongest (routes : List Route) (path : String) (route : Route) : Prop where
  mem : route ∈ routes
  takes : route.Takes path
  longer : ∀ other ∈ routes.erase route, other.Takes path → other.IsShorter route

instance : Decidable (IsLongest routes path route) :=
  decidable_of_iff
    (route ∈ routes ∧ route.Takes path ∧
      ∀ other ∈ routes.erase route, other.Takes path → other.IsShorter route)
    ⟨fun ⟨hmem, htakes, hlonger⟩ => ⟨hmem, htakes, hlonger⟩,
      fun h => ⟨h.mem, h.takes, h.longer⟩⟩

theorem IsLongest.perm (h : IsLongest routes path route) (hperm : routes.Perm others) :
    IsLongest others path route :=
  ⟨hperm.mem_iff.1 h.mem, h.takes,
    fun other hother => h.longer other ((hperm.erase route).mem_iff.2 hother)⟩

theorem IsLongest.eq (h : IsLongest routes path route) (hother : IsLongest routes path other) :
    route = other := by
  by_contra hne
  have hlonger := h.longer other ((List.mem_erase_of_ne (Ne.symm hne)).2 hother.mem) hother.takes
  have hshorter := hother.longer route ((List.mem_erase_of_ne hne).2 h.mem) h.takes
  exact Nat.lt_asymm hlonger.1 hshorter.1

/-! ## The order of a table -/

theorem ofList_perm (routes : List Route) : (ofList routes).routes.Perm routes :=
  List.mergeSort_perm routes _

theorem ofList_pairwise (routes : List Route) :
    (ofList routes).routes.Pairwise fun first second => second.size ≤ first.size := by
  have hsorted : (ofList routes).routes.Pairwise fun first second =>
      decide (second.size ≤ first.size) = true := by
    refine List.pairwise_mergeSort (fun first second third h h' => ?_) (fun first second => ?_) _
    · simp only [decide_eq_true_eq] at h h' ⊢
      omega
    · simp only [Bool.or_eq_true, decide_eq_true_eq]
      omega
  exact hsorted.imp fun h => of_decide_eq_true h

/-- Routes that stand in order stay as they are. -/
theorem ofList_of_pairwise (h : routes.Pairwise fun first second => second.size ≤ first.size) :
    ofList routes = ⟨routes⟩ := by
  rw [ofList, List.mergeSort_of_pairwise (h.imp fun hle => decide_eq_true hle)]

theorem isSome_resolve_ofList_iff :
    ((ofList routes).resolve path).isSome = true ↔ ∃ route ∈ routes, route.Takes path := by
  rw [resolve, List.find?_isSome]
  simp only [(ofList_perm routes).mem_iff, Route.isMatch_eq_true_iff]

/-- The first route in a table that takes a path is the longest, where no prefix is there twice. -/
theorem isLongest_of_resolve
    (hdistinct : routes.Pairwise fun first second => first.pathPrefix ≠ second.pathPrefix)
    (h : (ofList routes).resolve path = some route) : IsLongest routes path route := by
  obtain ⟨htakes, before, behind, htable, hbefore⟩ := List.find?_eq_some_iff_append.1 h
  rw [Route.isMatch_eq_true_iff] at htakes
  have hperm : (before ++ route :: behind).Perm routes := htable ▸ ofList_perm routes
  have hpairwise := (hperm.pairwise_iff fun hne => Ne.symm hne).2 hdistinct
  have hsorted := htable ▸ ofList_pairwise routes
  have herase : (before ++ behind).Perm (routes.erase route) :=
    (List.cons_perm_iff_perm_erase.1 (List.perm_middle.symm.trans hperm)).2
  refine ⟨hperm.mem_iff.1 (by simp), htakes, fun other hother hothertakes => ?_⟩
  rcases List.mem_append.1 (herase.mem_iff.2 hother) with hmem | hmem
  · have hno := hbefore other hmem
    simp [Route.isMatch_eq_true_iff.2 hothertakes] at hno
  · have hsize : other.size ≤ route.size :=
      (List.pairwise_cons.1 (List.pairwise_append.1 hsorted).2.1).1 other hmem
    have hne : route.pathPrefix ≠ other.pathPrefix :=
      (List.pairwise_cons.1 (List.pairwise_append.1 hpairwise).2.1).1 other hmem
    exact htakes.isShorter hothertakes hne.symm hsize

theorem resolve_ofList_eq_some_iff
    (hdistinct : routes.Pairwise fun first second => first.pathPrefix ≠ second.pathPrefix) :
    (ofList routes).resolve path = some route ↔ IsLongest routes path route := by
  constructor
  · exact isLongest_of_resolve hdistinct
  · intro hlongest
    have hsome := isSome_resolve_ofList_iff.2 ⟨route, hlongest.mem, hlongest.takes⟩
    obtain ⟨found, hfound⟩ := Option.isSome_iff_exists.1 hsome
    rw [hfound, hlongest.eq (isLongest_of_resolve hdistinct hfound)]

/-- The order in which routes are given has no part in what they take. -/
theorem resolve_ofList_perm
    (hdistinct : routes.Pairwise fun first second => first.pathPrefix ≠ second.pathPrefix)
    (hperm : others.Perm routes) :
    (ofList others).resolve path = (ofList routes).resolve path := by
  have hothers := (hperm.pairwise_iff fun hne => Ne.symm hne).2 hdistinct
  ext route
  rw [resolve_ofList_eq_some_iff hothers, resolve_ofList_eq_some_iff hdistinct]
  exact ⟨fun h => h.perm hperm, fun h => h.perm hperm.symm⟩

/-- The routes of accepted settings answer with the longest prefix that takes a path, in whatever
order they are given. -/
theorem resolves_to_longest_prefix (gateway : Settings.Gateway) (hvalid : gateway.validate = .ok ())
    (path : String) :
    (((ofList gateway.routes).resolve path).isSome = true ↔
        ∃ route ∈ gateway.routes, route.Takes path) ∧
      (∀ route, (ofList gateway.routes).resolve path = some route ↔
        IsLongest gateway.routes path route) ∧
      ∀ routes, routes.Perm gateway.routes →
        (ofList routes).resolve path = (ofList gateway.routes).resolve path := by
  have hdistinct := (Settings.Gateway.areRoutes_of_validate hvalid).pairwise_ne
  exact ⟨isSome_resolve_ofList_iff, fun route => resolve_ofList_eq_some_iff hdistinct,
    fun routes => resolve_ofList_perm hdistinct⟩

/-- Prefixes within each other, of which one counts more bytes than characters and one is cut off
within a segment. -/
theorem resolves_to_nested_prefix :
    let gateway : Settings.Gateway :=
      { routes :=
          [⟨"/", "http://web:80", false⟩, ⟨"/api/öl/", "http://oil:80", true⟩,
            ⟨"/api", "http://api:80", true⟩, ⟨"/api/ö", "http://o:80", false⟩] }
    gateway.validate = .ok () ∧
      (ofList gateway.routes).resolve "/api/öl/7" = some ⟨"/api/öl/", "http://oil:80", true⟩ ∧
      (ofList gateway.routes).resolve "/api/öl" = some ⟨"/api", "http://api:80", true⟩ ∧
      ∀ routes, routes.Perm gateway.routes →
        (ofList routes).resolve "/apis" = (ofList gateway.routes).resolve "/apis" := by
  intro gateway
  have hvalid : gateway.validate = .ok () := by decide +kernel
  obtain ⟨-, hoil, -⟩ := resolves_to_longest_prefix gateway hvalid "/api/öl/7"
  obtain ⟨-, hapi, -⟩ := resolves_to_longest_prefix gateway hvalid "/api/öl"
  obtain ⟨-, -, hperm⟩ := resolves_to_longest_prefix gateway hvalid "/apis"
  exact ⟨hvalid, (hoil _).2 (by decide +kernel), (hapi _).2 (by decide +kernel), hperm⟩

end RouteTable

end FoodOrdering
