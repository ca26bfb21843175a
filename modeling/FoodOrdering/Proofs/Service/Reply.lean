import FoodOrdering.Proofs.Http.Response
import FoodOrdering.Proofs.Service.Interleaving

/-!
# Replies

All that is done about a request for an action is the program of the action, and what goes out is a
form of the envelope that the program ends with, or of the problem.
-/

namespace FoodOrdering.Service

/-- What goes out with an envelope. -/
def reply (now : Instant) (request : Http.Request) (envelope : Envelope) : Http.Response :=
  sent request (Http.CrossOrigin.opened (envelope.response now))

variable {now : Instant} {request : Http.Request} {envelope : Envelope}

@[simp]
theorem status_reply : (reply now request envelope).status = envelope.status :=
  Http.status_finished _ _ _

/-- The envelope that a program ends with; a problem has one too. -/
def Envelope.ofOutcome : Except Problem Envelope → Envelope
  | .ok envelope => envelope
  | .error problem => .ofProblem problem

namespace Program

variable {α β γ : Type}

/-- A last conversion may be left to whoever goes on from the outcome. -/
theorem settle_bind_done (convert : α → β) (close : Except Problem β → γ) (program : Program α) :
    (program >>= fun value => (.done (.ok (convert value)) : Program β)).settle close =
      program.settle fun outcome => close (outcome.map convert) := by
  induction program with
  | done outcome =>
      cases outcome with
      | ok value => rfl
      | error problem => rfl
  | access step next ih => exact congrArg (Program.access step) (funext fun result => ih result)
  | perform effect next ih => exact congrArg (Program.perform effect) ih

end Program

/-- The answer to a request for an action. -/
theorem answer_eq_of_action {resource : Resource} {action : Action}
    {program : Call → Program Envelope} (service : Service) (now : Instant)
    (hquestion : request.method ≠ Http.CrossOrigin.question)
    (hpath : Resource.ofPath? request.target.path = some resource)
    (haction : resource.action? request.method = some action)
    (hprogram : action.envelope? = some program) :
    service.answer now request =
      ((program (service.callOf now request)).settle fun outcome =>
        reply now request (.ofOutcome outcome)).performing
          (callerEffects (service.callOf now request)) := by
  have hprogramOf : programOf (service.callOf now request) =
      (program (service.callOf now request) >>= fun envelope =>
        .done (.ok (envelope.response now))) := by
    unfold programOf
    split
    next hnone => cases hpath.symm.trans hnone
    next known hknown =>
      cases hpath.symm.trans hknown
      split
      next hnone => cases haction.symm.trans hnone
      next meant hmeant =>
        cases haction.symm.trans hmeant
        rw [Action.program, hprogram]
        rfl
  unfold answer
  rw [if_neg hquestion]
  dsimp only
  rw [hprogramOf, Program.settle_bind_done]
  congr 2
  funext outcome
  cases outcome with
  | ok envelope => rfl
  | error problem => rfl

/-- A request for an action is answered with the envelope that its program ends with. -/
theorem response_of_action {resource : Resource} {action : Action}
    {program : Call → Program Envelope} (service : Service) (now : Instant) (stores : Stores)
    (hquestion : request.method ≠ Http.CrossOrigin.question)
    (hpath : Resource.ofPath? request.target.path = some resource)
    (haction : resource.action? request.method = some action)
    (hprogram : action.envelope? = some program) :
    (service.handle now stores request).response =
      reply now request
        (.ofOutcome ((program (service.callOf now request)).run stores).outcome) := by
  have hrun := run_answer service now request stores
  rw [answer_eq_of_action service now hquestion hpath haction hprogram, Program.run_performing,
    Program.run_settle] at hrun
  exact (Except.ok.inj (congrArg Program.Run.outcome hrun)).symm

end FoodOrdering.Service
