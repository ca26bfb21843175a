import FoodOrdering.Gateway.Basic

/-!
# Passages through the gate

What the gateway does with a request is decided at the gate: a refused one is answered there, and
any other is served as it comes out behind the gate.
-/

namespace FoodOrdering.Gateway

/-- The gate hands on the target that it was asked for. -/
theorem target_of_passBare {routes : RouteTable} {verify : String → Except TokenError Claims}
    {request : Http.Request} {admission : Admission}
    (h : (passBare routes verify request).outcome = .ok admission) :
    admission.request.target = request.target := by
  unfold passBare at h
  split at h
  · cases h
    rfl
  · split at h
    · unfold enter at h
      split at h
      · cases h
      · split at h
        · cases h
        · cases h
          rfl
    · cases h
      rfl

section

variable {gateway : Gateway} {now : Instant} {request : Http.Request}

theorem handleInner_of_error {fault : TokenError}
    (h : (pass gateway.routes gateway.verify request).outcome = .error fault) :
    gateway.handleInner now request =
      { response := (refusal fault).response
        verified := (pass gateway.routes gateway.verify request).verified
        sent := []
        counters := (pass gateway.routes gateway.verify request).counters } := by
  unfold handleInner
  dsimp only
  rw [h]

theorem handleInner_of_ok {admission : Admission}
    (h : (pass gateway.routes gateway.verify request).outcome = .ok admission) :
    gateway.handleInner now request =
      { response := outcomeResponse (gateway.serve now admission).outcome
        verified := (pass gateway.routes gateway.verify request).verified
        sent := (gateway.serve now admission).sent
        counters := (pass gateway.routes gateway.verify request).counters ++
          (gateway.serve now admission).counters } := by
  unfold handleInner
  dsimp only
  rw [h]

/-- A request that is no browser's question goes to the gate. -/
theorem handle_of_ne (h : request.method ≠ Http.CrossOrigin.question) :
    gateway.handle now request =
      { gateway.handleInner now request with
        response := Http.finished (knownMethods request.target.path) request.method
          (Http.CrossOrigin.opened (gateway.handleInner now request).response) } := by
  unfold handle
  dsimp only
  rw [if_neg h]

theorem status_refusal (fault : TokenError) : (refusal fault).response.status = 401 := by
  cases fault <;> rfl

end

end FoodOrdering.Gateway
