import FoodOrdering.Settings.Validity
import Mathlib.Data.List.TakeWhile

/-!
# Accepted routes

What the judgement of a gateway's settings says about its routes: every prefix starts with a slash,
no two prefixes are the same up to the slashes at their ends, and every service is an address that
names a host.
-/

namespace FoodOrdering.Settings

/-- An accepted service is a scheme, what names a host, and nothing or a path. -/
theorem exists_of_isService {service : String} (h : isService service = true) :
    ∃ scheme authority path, service.toList = scheme ++ authority ++ path ∧
      (scheme = "http://".toList ∨ scheme = "https://".toList) ∧ authority ≠ [] ∧
        '/' ∉ authority ∧ (path = [] ∨ path.head? = some '/') := by
  unfold isService at h
  cases hrest : afterScheme? service.toList with
  | none => simp [hrest] at h
  | some rest =>
      obtain ⟨scheme, hscheme, htext⟩ : ∃ scheme,
          (scheme = "http://".toList ∨ scheme = "https://".toList) ∧
            service.toList = scheme ++ rest := by
        unfold afterScheme? at hrest
        split at hrest
        next found hhttp =>
          cases hrest
          exact ⟨_, Or.inl rfl, Route.after?_eq_some_iff.1 hhttp⟩
        next => exact ⟨_, Or.inr rfl, Route.after?_eq_some_iff.1 hrest⟩
      refine ⟨scheme, rest.takeWhile (· != '/'), rest.dropWhile (· != '/'), ?_, hscheme, ?_, ?_, ?_⟩
      · rw [htext, List.append_assoc, List.takeWhile_append_dropWhile]
      · cases rest with
        | nil => simp [hrest] at h
        | cons c others =>
            have hc : c ≠ '/' := by simpa [hrest] using h
            simp [hc]
      · intro hslash
        simpa using List.mem_takeWhile_imp hslash
      · cases hpath : rest.dropWhile (· != '/') with
        | nil => exact Or.inl rfl
        | cons c others =>
            have hhead := List.head?_dropWhile_not (· != '/') rest
            rw [hpath] at hhead
            exact Or.inr (by simpa using hhead)

/-- Routes that may stand in one table. -/
structure AreRoutes (routes : List Route) : Prop where
  rooted : ∀ route ∈ routes, route.pathPrefix.toList.head? = some '/'
  service : ∀ route ∈ routes, isService route.service = true
  distinct : routes.Pairwise fun first second =>
    bareEnd first.pathPrefix ≠ bareEnd second.pathPrefix

theorem areRoutes_nil : AreRoutes [] :=
  ⟨by simp, by simp, List.Pairwise.nil⟩

theorem areRoutes_cons_iff {route : Route} {rest : List Route} :
    AreRoutes (route :: rest) ↔
      route.pathPrefix.toList.head? = some '/' ∧ isService route.service = true ∧
        (∀ other ∈ rest, bareEnd route.pathPrefix ≠ bareEnd other.pathPrefix) ∧
        AreRoutes rest := by
  constructor
  · rintro ⟨hrooted, hservice, hdistinct⟩
    obtain ⟨hfirst, hrest⟩ := List.pairwise_cons.1 hdistinct
    rw [List.forall_mem_cons] at hrooted hservice
    exact ⟨hrooted.1, hservice.1, hfirst, hrooted.2, hservice.2, hrest⟩
  · rintro ⟨hrooted, hservice, hfirst, hrest⟩
    exact ⟨List.forall_mem_cons.2 ⟨hrooted, hrest.rooted⟩,
      List.forall_mem_cons.2 ⟨hservice, hrest.service⟩,
      List.pairwise_cons.2 ⟨hfirst, hrest.distinct⟩⟩

theorem validateRoutes_cons_eq_ok_iff {seen : List (List Char)} {route : Route}
    {rest : List Route} :
    validateRoutes seen (route :: rest) = .ok () ↔
      route.pathPrefix.toList.head? = some '/' ∧ bareEnd route.pathPrefix ∉ seen ∧
        isService route.service = true ∧
        validateRoutes (bareEnd route.pathPrefix :: seen) rest = .ok () := by
  by_cases hrooted : route.pathPrefix.toList.head? = some '/' <;>
    by_cases hseen : bareEnd route.pathPrefix ∈ seen <;>
      by_cases hservice : isService route.service = true <;>
        simp [validateRoutes, hrooted, hseen, hservice]

/-- Routes are accepted behind others whose prefixes are not among theirs. -/
theorem validateRoutes_eq_ok_iff {seen : List (List Char)} {routes : List Route} :
    validateRoutes seen routes = .ok () ↔
      AreRoutes routes ∧ ∀ route ∈ routes, bareEnd route.pathPrefix ∉ seen := by
  induction routes generalizing seen with
  | nil => simp [validateRoutes, areRoutes_nil]
  | cons route rest ih =>
      rw [validateRoutes_cons_eq_ok_iff, areRoutes_cons_iff, List.forall_mem_cons, ih]
      constructor
      · rintro ⟨hrooted, hseen, hservice, hrest, hothers⟩
        have hnew : ∀ other ∈ rest, bareEnd route.pathPrefix ≠ bareEnd other.pathPrefix :=
          fun other hother heq => hothers other hother (heq ▸ List.mem_cons_self)
        exact ⟨⟨hrooted, hservice, hnew, hrest⟩, hseen,
          fun other hother hold => hothers other hother (List.mem_cons_of_mem _ hold)⟩
      · rintro ⟨⟨hrooted, hservice, hnew, hrest⟩, hseen, hothers⟩
        refine ⟨hrooted, hseen, hservice, hrest, fun other hother hmem => ?_⟩
        rcases List.mem_cons.1 hmem with heq | hold
        · exact hnew other hother heq.symm
        · exact hothers other hother hold

/-- What is accepted as the settings of a gateway has routes that may stand in one table. -/
theorem Gateway.areRoutes_of_validate {gateway : Gateway} (h : gateway.validate = .ok ()) :
    AreRoutes gateway.routes := by
  unfold Gateway.validate at h
  split at h
  · cases h
  split at h
  · cases h
  split at h
  · cases h
  exact (validateRoutes_eq_ok_iff.1 h).1

/-- Two accepted prefixes are different texts. -/
theorem AreRoutes.pairwise_ne {routes : List Route} (h : AreRoutes routes) :
    routes.Pairwise fun first second => first.pathPrefix ≠ second.pathPrefix :=
  h.distinct.imp fun hne heq => hne (congrArg bareEnd heq)

end FoodOrdering.Settings
