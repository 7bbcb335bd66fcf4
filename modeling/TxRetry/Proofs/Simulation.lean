import TxRetry.Run

/-!
# Two computations compared

Two computations that differ in something nobody should notice run in step: from states that belong
together they reach states that belong together, their results belong together, and the events of
the one are what is left of the events of the other.  This module carries such a comparison through
the ways in which computations are put together.

## Main definitions

* `Simulation` — which states belong together, and what is left of an event
* `Simulation.handles` — a comparison of worlds carried over to open handles
* `Step.Simulates` — two computations run in step
* `Fallible.Agree`, `Ending.Agree` — results that belong together when their values do

## Main statements

* `Step.simulates_bind`, `Fallible.simulates_bind`, `Action.simulates_bind` — what is put together
  from computations in step runs in step, for each of the three kinds of computation

## Design notes

**A comparison may presume something of the first run.**  The second computation is compared with
those runs of the first whose events are all *fair*.  Since events are never taken back, a run that
is fair as a whole is fair in each of its parts.
-/

namespace TxRetry

variable {σ τ ν μ η θ α β γ : Type}

/-- How **two computations are compared.** -/
structure Simulation (σ τ ν μ : Type) where
  /-- The states that belong together. -/
  States : σ → τ → Prop
  /-- What is presumed of the events of the first computation. -/
  Fair : ν → Prop
  /-- What is left of an event of the first computation in the second one. -/
  image? : ν → Option μ

/-- A comparison of worlds, **with an open handle** on each side. -/
def Simulation.handles (sim : Simulation σ τ ν μ) (H : η → θ → Prop) :
    Simulation (σ × η) (τ × θ) ν μ where
  States s t := sim.States s.1 t.1 ∧ H s.2 t.2
  Fair := sim.Fair
  image? := sim.image?

/-- Results that may be an error **agree** if they are the same error, or values that belong
together. -/
inductive Fallible.Agree (R : α → β → Prop) : Except Error α → Except Error β → Prop
  | ok {a b} (values : R a b) : Agree R (.ok a) (.ok b)
  | error (e : Error) : Agree R (.error e) (.error e)

/-- Endings **agree** if they are the same error or panic, or values that belong together. -/
inductive Ending.Agree (R : α → β → Prop) : Ending α → Ending β → Prop
  | returned {a b} (values : R a b) : Agree R (.returned a) (.returned b)
  | failed (e : Error) : Agree R (.failed e) (.failed e)
  | panicked (p : Payload) : Agree R (.panicked p) (.panicked p)

theorem Fallible.agree_of_eq {x y : Except Error α} (same : x = y) : Agree (· = ·) x y := by
  subst same
  cases x with
  | ok a => exact .ok rfl
  | error e => exact .error e

theorem Fallible.Agree.eq {x y : Except Error α} (agree : Agree (· = ·) x y) : x = y := by
  cases agree with
  | ok values => exact congrArg _ values
  | error e => rfl

theorem Ending.agree_of_eq {x y : Ending α} (same : x = y) : Ending.Agree (· = ·) x y := by
  subst same
  cases x with
  | returned a => exact .returned rfl
  | failed e => exact .failed e
  | panicked p => exact .panicked p

theorem Ending.Agree.eq {x y : Ending α} (agree : Ending.Agree (· = ·) x y) : x = y := by
  cases agree with
  | returned values => exact congrArg _ values
  | failed e => rfl
  | panicked p => rfl

/-- Endings that agree look the same from outside. -/
theorem Ending.Agree.void_eq {R : α → β → Prop} {x : Ending α} {y : Ending β}
    (agree : Ending.Agree R x y) : x.void = y.void := by
  cases agree <;> rfl

/-! ### Computations that always have a result -/

namespace Step

/-- Two computations **run in step**, with results related by `R`. -/
def Simulates (sim : Simulation σ τ ν μ) (R : β → γ → Prop) (x : Step σ ν β) (y : Step τ μ γ) :
    Prop :=
  ∀ s t, sim.States s t → (∀ event ∈ (x s).trace, sim.Fair event) →
    R (x s).result (y t).result ∧ sim.States (x s).state (y t).state ∧
      (y t).trace = (x s).trace.filterMap sim.image?

variable {sim : Simulation σ τ ν μ} {R : β → γ → Prop}

theorem simulates_pure {b : β} {c : γ} (results : R b c) :
    Simulates sim R (pure b) (pure c) :=
  fun _ _ together _ => ⟨results, together, rfl⟩

/-- What is read off states that belong together. -/
theorem simulates_gets {f : σ → β} {g : τ → γ} (results : ∀ s t, sim.States s t → R (f s) (g t)) :
    Simulates sim R (gets f) (gets g) :=
  fun s t together _ => ⟨results s t together, together, rfl⟩

/-- States that belong together, looked at. -/
theorem simulates_get : Simulates sim sim.States get get :=
  fun _ _ together _ => ⟨together, together, rfl⟩

/-- An event that is left as it is. -/
theorem simulates_emit {event : ν} {image : μ} (left : sim.image? event = some image) :
    Simulates sim (· = ·) (emit event) (emit image) := by
  intro s t together _
  refine ⟨rfl, together, ?_⟩
  simp [left]

/-- A change of the states that keeps them together. -/
theorem simulates_modify {f : σ → σ} {g : τ → τ}
    (keeps : ∀ s t, sim.States s t → sim.States (f s) (g t)) :
    Simulates sim (· = ·) (modify f) (modify g) :=
  fun s t together _ => ⟨rfl, keeps s t together, rfl⟩

/-- One computation after another, the second one chosen by results that belong together. -/
theorem simulates_bind {β' γ' : Type} {S : β' → γ' → Prop} {x : Step σ ν β} {y : Step τ μ γ}
    {f : β → Step σ ν β'} {g : γ → Step τ μ γ'} (first : Simulates sim R x y)
    (second : ∀ b c, R b c → Simulates sim S (f b) (g c)) :
    Simulates sim S (x >>= f) (y >>= g) := by
  intro s t together fair
  rw [bind_apply] at fair
  obtain ⟨fairFirst, fairSecond⟩ := List.forall_mem_append.mp fair
  obtain ⟨results, between, events⟩ := first s t together fairFirst
  obtain ⟨results', after, events'⟩ := second _ _ results _ _ between fairSecond
  rw [bind_apply, bind_apply]
  refine ⟨results', after, ?_⟩
  show _ ++ _ = List.filterMap _ (_ ++ _)
  rw [events, events', List.filterMap_append]

/-- What two worlds do in step they also do beside open handles. -/
theorem simulates_onWorld {H : η → θ → Prop} {x : Step σ ν β} {y : Step τ μ γ}
    (simulates : Simulates sim R x y) :
    Simulates (sim.handles H) R (onWorld x) (onWorld y) := by
  rintro ⟨s, h⟩ ⟨t, k⟩ ⟨worlds, handles⟩ fair
  obtain ⟨results, after, events⟩ := simulates s t worlds fair
  exact ⟨results, ⟨after, handles⟩, events⟩

/-- A handle of its own on each side is gone when the computations end. -/
theorem simulates_withHandle {H : η → θ → Prop} {h : η} {k : θ} (together : H h k)
    {x : Step (σ × η) ν β} {y : Step (τ × θ) μ γ} (simulates : Simulates (sim.handles H) R x y) :
    Simulates sim R (withHandle h x) (withHandle k y) := by
  intro s t worlds fair
  obtain ⟨results, after, events⟩ := simulates (s, h) (t, k) ⟨worlds, together⟩ fair
  exact ⟨results, after.1, events⟩

end Step

/-! ### Computations that may fail -/

namespace Fallible

variable {sim : Simulation σ τ ν μ}

/-- A computation that cannot fail. -/
theorem simulates_lift {R : β → γ → Prop} {x : Step σ ν β} {y : Step τ μ γ}
    (simulates : Step.Simulates sim R x y) :
    Step.Simulates sim (Agree R) (ExceptT.lift x : Fallible σ ν β).run
      (ExceptT.lift y : Fallible τ μ γ).run := by
  intro s t together fair
  rw [run_lift_apply] at fair ⊢
  rw [run_lift_apply]
  obtain ⟨results, rest⟩ := simulates s t together fair
  exact ⟨.ok results, rest⟩

/-- An error ends both computations at once. -/
theorem simulates_bind {β' γ' : Type} {R : β → γ → Prop} {S : β' → γ' → Prop}
    {x : Fallible σ ν β} {y : Fallible τ μ γ} {f : β → Fallible σ ν β'} {g : γ → Fallible τ μ γ'}
    (first : Step.Simulates sim (Agree R) x.run y.run)
    (second : ∀ b c, R b c → Step.Simulates sim (Agree S) (f b).run (g c).run) :
    Step.Simulates sim (Agree S) (x >>= f).run (y >>= g).run := by
  rw [ExceptT.run_bind, ExceptT.run_bind]
  refine Step.simulates_bind first fun r r' results => ?_
  cases results with
  | ok values => exact second _ _ values
  | error e => exact Step.simulates_pure (.error e)

end Fallible

/-! ### Computations that end like code of a caller -/

namespace Action

variable {sim : Simulation σ τ ν μ}

/-- An error or a panic ends both computations at once. -/
theorem simulates_bind {β' γ' : Type} {R : β → γ → Prop} {S : β' → γ' → Prop}
    {x : Action σ ν β} {y : Action τ μ γ} {f : β → Action σ ν β'} {g : γ → Action τ μ γ'}
    (first : Step.Simulates sim (Ending.Agree R) x y)
    (second : ∀ b c, R b c → Step.Simulates sim (Ending.Agree S) (f b) (g c)) :
    Step.Simulates sim (Ending.Agree S) (x >>= f : Action σ ν β') (y >>= g : Action τ μ γ') := by
  refine Step.simulates_bind first fun r r' results => ?_
  cases results with
  | returned values => exact second _ _ values
  | failed e => exact Step.simulates_pure (.failed e)
  | panicked p => exact Step.simulates_pure (.panicked p)

/-- A computation that may fail, as an action. -/
theorem simulates_ofFallible {R : β → γ → Prop} {x : Step σ ν (Except Error β)}
    {y : Step τ μ (Except Error γ)} (simulates : Step.Simulates sim (Fallible.Agree R) x y) :
    Step.Simulates sim (Ending.Agree R) (ofFallible x) (ofFallible y) := by
  refine Step.simulates_bind simulates fun r r' results => Step.simulates_pure ?_
  cases results with
  | ok values => exact .returned values
  | error e => exact .failed e

/-- A computation that cannot fail, as an action. -/
theorem simulates_ofStep {R : β → γ → Prop} {x : Step σ ν β} {y : Step τ μ γ}
    (simulates : Step.Simulates sim R x y) :
    Step.Simulates sim (Ending.Agree R) (ofStep x) (ofStep y) :=
  Step.simulates_bind simulates fun _ _ results => Step.simulates_pure (.returned results)

/-- The same ending on both sides. -/
theorem simulates_ended (ending : Ending α) :
    Step.Simulates sim (Ending.Agree (· = ·)) (ended ending) (ended ending) :=
  Step.simulates_pure (Ending.agree_of_eq rfl)

end Action

end TxRetry
