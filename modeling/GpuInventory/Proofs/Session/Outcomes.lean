import GpuInventory.Proofs.Engine.Containment
import GpuInventory.Proofs.Session.History

/-!
Sessions in which no command is refused.

What starting a process comes to is set by the world, at the beginning of a session and by some of
its actions.  If a refusal is not among these outcomes, none is met at any time, and then every
failure that a run of the tool comes to is one that callers reckon with.
-/

namespace GpuInventory
namespace Session

/-- What starting a process comes to from an action on, if the action changes it. -/
def Action.outcome? : Action → Option Command.Outcome
  | .setOutcome outcome _ => some outcome
  | _ => none

/-- Everything that starting a process may come to while some actions happen. -/
def outcomes (world : World) (actions : List Action) : List Command.Outcome :=
  world.machine.outcome :: actions.filterMap Action.outcome?

theorem step_outcome (session : Session) (action : Action) :
    (session.step action).state.world.machine.outcome =
      action.outcome?.getD session.world.machine.outcome := by
  cases action <;> rfl

theorem ne_refused_of_outcomes_eq {world : World} {actions : List Action}
    (h : outcomes world actions = [.timedOut]) :
    ∀ outcome ∈ outcomes world actions, ∀ reason, outcome ≠ .refused reason := by
  intro outcome ho reason
  rw [h] at ho
  rw [List.mem_singleton.mp ho]
  exact Command.Outcome.noConfusion

/-- What a process may come to after a step was to be expected before it. -/
theorem mem_outcomes_of_step {session : Session} {action : Action} {rest : List Action}
    {outcome : Command.Outcome} (h : outcome ∈ outcomes (session.step action).state.world rest) :
    outcome ∈ outcomes session.world (action :: rest) := by
  rw [outcomes, step_outcome] at h
  rw [outcomes, List.filterMap_cons]
  cases ha : action.outcome? with
  | none =>
    rw [ha] at h
    exact h
  | some changed =>
    rw [ha] at h
    exact List.mem_cons_of_mem _ h

theorem outcome_after_mem (session : Session) (actions : List Action) :
    (session.after actions).world.machine.outcome ∈ outcomes session.world actions := by
  induction actions generalizing session with
  | nil => exact List.mem_cons_self
  | cons action rest ih => exact mem_outcomes_of_step (ih (session.step action).state)

theorem not_refuses_after (session : Session) {actions : List Action}
    (h : ∀ outcome ∈ outcomes session.world actions, ∀ reason, outcome ≠ .refused reason) :
    ¬ Engine.Refuses (session.after actions).world.machine := fun ⟨reason, ho⟩ =>
  h _ (outcome_after_mem session actions) reason ho

end Session
end GpuInventory
