import FoodOrdering.Http.Endpoint

/-!
# What finishing a response keeps

On its way out a response gets headers and loses its body where only the head is asked for.  Its
status stays, and what becomes of its headers depends on its headers alone.
-/

namespace FoodOrdering

theorem Health.status_answer (program : String) (now : Instant) :
    (Health.answer program now).status = 200 := rfl

theorem Health.headers_answer (program : String) (now : Instant) :
    (Health.answer program now).headers =
      Http.Headers.empty.insertText "content-type" "application/json" := rfl

namespace Http

@[simp]
theorem CrossOrigin.status_opened (response : Response) :
    (CrossOrigin.opened response).status = response.status := rfl

@[simp]
theorem status_finished (methods : Option Methods) (method : String) (response : Response) :
    (finished methods method response).status = response.status := by
  unfold finished
  cases methods with
  | none =>
      dsimp only
      split
      · rfl
      · rfl
  | some known =>
      dsimp only
      split
      · split
        · rfl
        · rfl
      · split
        · rfl
        · rfl

/-- The body stays, or goes where only the head is asked for. -/
theorem body_finished (methods : Option Methods) (method : String) (response : Response) :
    (finished methods method response).body =
      if method = "HEAD" then .empty else response.body := by
  unfold finished
  dsimp only
  split
  · rfl
  · cases methods with
    | none => rfl
    | some known =>
        dsimp only
        split
        · rfl
        · rfl

/-- Responses with the same headers are sent with the same headers. -/
theorem headers_finished_congr (methods : Option Methods) (method : String)
    {first second : Response} (h : first.headers = second.headers) :
    (finished methods method first).headers = (finished methods method second).headers := by
  have hbody : ∀ response : Response,
      (if method = "HEAD" then response.withoutBody else response).headers = response.headers := by
    intro response
    split
    · rfl
    · rfl
  unfold finished
  rw [hbody, hbody]
  cases methods with
  | none => exact h
  | some known =>
      dsimp only
      rw [h]
      split
      · exact h
      · unfold Response.withHeader
        rw [h]

end Http

end FoodOrdering
