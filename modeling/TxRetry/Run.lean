import TxRetry.Error

/-!
# Runs

What a piece of a transactional call does: it starts in a state, ends in one, leaves a trace of
what happened in between, and has a result.

## Main definitions

* `Run` — result, final state and trace
* `Step` — a computation that always has a result
* `Fallible` — a computation that has a result or an error
* `Ending` — the three ways in which code of a caller ends: a value, an error, a panic
* `Action` — a computation with an ending
* `Step.onWorld`, `Step.withHandle` — computations on a world, and on a world with an open handle

## Design notes

**Errors keep the state.**  An `Action` that fails or panics still has a final state and a trace:
what it did to the database stays done.  So an ending is part of the result and not an exception
that would lose them.

**Traces only grow.**  A computation returns the events that it adds and cannot see earlier ones,
which is what makes runs compose by appending their traces.
-/

namespace TxRetry

/-- What a panic carries to the caller. -/
inductive Payload where
  | number (n : Int)
  | text (s : String)
  deriving DecidableEq, Repr

/-- How **a caller's code ends.** -/
inductive Ending (α : Type) where
  | returned (value : α)
  | failed (error : Error)
  | panicked (payload : Payload)
  deriving Repr

namespace Ending

variable {α β : Type}

/-- The value of an ending changed. -/
def map (f : α → β) : Ending α → Ending β
  | .returned value => .returned (f value)
  | .failed error => .failed error
  | .panicked payload => .panicked payload

/-- An ending without its value. -/
def void (e : Ending α) : Ending Unit := e.map fun _ => ()

/-- A value or an error as an ending. -/
def ofExcept : Except Error α → Ending α
  | .ok value => .returned value
  | .error error => .failed error

end Ending

/-- The result of a computation, the state in which it ends and the events that it adds. -/
structure Run (σ ν β : Type) where
  result : β
  state : σ
  trace : List ν

/-- A computation on states `σ` with events `ν` that always has a result. -/
def Step (σ ν β : Type) : Type := σ → Run σ ν β

namespace Step

variable {σ ν β γ η : Type}

@[ext] theorem ext {x y : Step σ ν β} (h : ∀ s, x s = y s) : x = y := funext h

/-- A result without any effect. -/
def done (b : β) : Step σ ν β := fun s => ⟨b, s, []⟩

/-- One computation after another, the second one chosen by the result of the first. -/
def andThen (x : Step σ ν β) (f : β → Step σ ν γ) : Step σ ν γ := fun s =>
  let first := x s
  let second := f first.result first.state
  ⟨second.result, second.state, first.trace ++ second.trace⟩

instance : Monad (Step σ ν) where
  pure := done
  bind := andThen

@[simp] theorem pure_apply (b : β) (s : σ) : (pure b : Step σ ν β) s = ⟨b, s, []⟩ := rfl

@[simp] theorem bind_apply (x : Step σ ν β) (f : β → Step σ ν γ) (s : σ) :
    (x >>= f) s =
      ⟨(f (x s).result (x s).state).result, (f (x s).result (x s).state).state,
        (x s).trace ++ (f (x s).result (x s).state).trace⟩ := rfl

instance : LawfulMonad (Step σ ν) := LawfulMonad.mk' (Step σ ν)
  (fun x => by
    ext s
    show (⟨_, _, (x s).trace ++ []⟩ : Run σ ν _) = _
    rw [List.append_nil]
    rfl)
  (fun _ _ => rfl)
  (fun x f g => by
    ext s
    show (⟨_, _, ((x s).trace ++ _) ++ _⟩ : Run σ ν _) = ⟨_, _, (x s).trace ++ (_ ++ _)⟩
    rw [List.append_assoc]
    rfl)

/-- An event, and nothing else. -/
def emit (event : ν) : Step σ ν Unit := fun s => ⟨(), s, [event]⟩

/-- Something read off the state. -/
def gets (f : σ → β) : Step σ ν β := fun s => ⟨f s, s, []⟩

/-- The state as it is. -/
def get : Step σ ν σ := gets id

/-- The state changed. -/
def modify (f : σ → σ) : Step σ ν Unit := fun s => ⟨(), f s, []⟩

/-- The same computation with each event replaced by any number of others. -/
def mapTrace {μ : Type} (f : ν → List μ) (x : Step σ ν β) : Step σ μ β := fun s =>
  let run := x s
  ⟨run.result, run.state, run.trace.flatMap f⟩

/-- A **computation observed as one event**, which shows its result and what happened inside. -/
def observed {μ : Type} (event : β → List ν → μ) (x : Step σ ν β) : Step σ μ β := fun s =>
  let run := x s
  ⟨run.result, run.state, [event run.result run.trace]⟩

/-- A computation on the world, while a handle is open. -/
def onWorld (x : Step σ ν β) : Step (σ × η) ν β := fun (s, h) =>
  let run := x s
  ⟨run.result, (run.state, h), run.trace⟩

/-- A **computation with a handle of its own.**  The handle does not outlive it. -/
def withHandle (h : η) (x : Step (σ × η) ν β) : Step σ ν β := fun s =>
  let run := x (s, h)
  ⟨run.result, run.state.1, run.trace⟩

@[simp] theorem emit_apply (event : ν) (s : σ) :
    (emit event : Step σ ν Unit) s = ⟨(), s, [event]⟩ := rfl

@[simp] theorem map_apply (f : β → γ) (x : Step σ ν β) (s : σ) :
    (f <$> x) s = ⟨f (x s).result, (x s).state, (x s).trace⟩ := by
  rw [map_eq_pure_bind, bind_apply]
  simp

@[simp] theorem gets_apply (f : σ → β) (s : σ) :
    (gets f : Step σ ν β) s = ⟨f s, s, []⟩ := rfl

@[simp] theorem get_apply (s : σ) : (get : Step σ ν σ) s = ⟨s, s, []⟩ := rfl

@[simp] theorem modify_apply (f : σ → σ) (s : σ) :
    (modify f : Step σ ν Unit) s = ⟨(), f s, []⟩ := rfl

@[simp] theorem observed_apply {μ : Type} (event : β → List ν → μ) (x : Step σ ν β) (s : σ) :
    observed event x s = ⟨(x s).result, (x s).state, [event (x s).result (x s).trace]⟩ := rfl

@[simp] theorem mapTrace_apply {μ : Type} (f : ν → List μ) (x : Step σ ν β) (s : σ) :
    mapTrace f x s = ⟨(x s).result, (x s).state, (x s).trace.flatMap f⟩ := rfl

@[simp] theorem onWorld_apply (x : Step σ ν β) (s : σ) (h : η) :
    onWorld x (s, h) = ⟨(x s).result, ((x s).state, h), (x s).trace⟩ := rfl

@[simp] theorem withHandle_apply (h : η) (x : Step (σ × η) ν β) (s : σ) :
    withHandle h x s = ⟨(x (s, h)).result, (x (s, h)).state.1, (x (s, h)).trace⟩ := rfl

end Step

/-- A computation on states `σ` with events `ν` that ends in a value or in an error. -/
abbrev Fallible (σ ν α : Type) : Type := ExceptT Error (Step σ ν) α

namespace Fallible

variable {σ ν α β : Type} {x : Fallible σ ν α} {f : α → Fallible σ ν β} {s : σ}

/-- After a value, the second computation runs from the state that the first one left. -/
theorem run_bind_of_ok {a : α} (h : (x.run s).result = .ok a) :
    (x >>= f).run s =
      ⟨((f a).run (x.run s).state).result, ((f a).run (x.run s).state).state,
        (x.run s).trace ++ ((f a).run (x.run s).state).trace⟩ := by
  rw [ExceptT.run_bind, Step.bind_apply, h]

/-- After an error, the second computation does not run. -/
theorem run_bind_of_error {e : Error} (h : (x.run s).result = .error e) :
    (x >>= f).run s = ⟨.error e, (x.run s).state, (x.run s).trace⟩ := by
  rw [ExceptT.run_bind, Step.bind_apply, h]
  simp

/-- A result that is known beforehand has no effect, and an error ends the computation. -/
theorem run_bind_of_known (r : Except Error α) (f : α → Fallible σ ν β) :
    (ExceptT.mk (pure r) >>= f).run s =
      match r with
      | .ok a => (f a).run s
      | .error e => ⟨.error e, s, []⟩ := by
  cases r <;> rfl

/-- A reading of the result that may fail changes the result and nothing else. -/
theorem run_bind_read (x : Fallible σ ν α) (read : α → Except Error β) (s : σ) :
    (x >>= fun a => ExceptT.mk (pure (read a))).run s =
      ⟨(x.run s).result.bind read, (x.run s).state, (x.run s).trace⟩ := by
  cases result : (x.run s).result with
  | error e =>
      rw [run_bind_of_error result]
      rfl
  | ok a =>
      rw [run_bind_of_ok result]
      exact congrArg (Run.mk _ _) (List.append_nil _)

@[simp] theorem run_pure_apply (a : α) :
    (pure a : Fallible σ ν α).run s = ⟨.ok a, s, []⟩ := rfl

@[simp] theorem run_throw_apply (e : Error) :
    (throw e : Fallible σ ν α).run s = ⟨.error e, s, []⟩ := rfl

@[simp] theorem run_lift_apply (y : Step σ ν α) :
    (ExceptT.lift y : Fallible σ ν α).run s = ⟨.ok (y s).result, (y s).state, (y s).trace⟩ := by
  show (⟨_, _, (y s).trace ++ []⟩ : Run σ ν _) = _
  rw [List.append_nil]
  rfl

end Fallible

/-- A computation on states `σ` with events `ν` that ends like code of a caller. -/
def Action (σ ν α : Type) : Type := Step σ ν (Ending α)

namespace Action

variable {σ ν α β : Type}

/-- One action after another; the second one runs only if the first one returned. -/
def andThen (x : Action σ ν α) (f : α → Action σ ν β) : Action σ ν β :=
  Step.andThen x fun
    | .returned value => f value
    | .failed error => Step.done (.failed error)
    | .panicked payload => Step.done (.panicked payload)

instance : Monad (Action σ ν) where
  pure value := Step.done (.returned value)
  bind := andThen

section Bind

variable {x : Action σ ν α} {f : α → Action σ ν β} {s : σ}

/-- After a value, the second action runs from the state that the first one left. -/
theorem bind_of_returned {a : α} (h : (x s).result = .returned a) :
    (x >>= f) s =
      ⟨(f a (x s).state).result, (f a (x s).state).state,
        (x s).trace ++ (f a (x s).state).trace⟩ := by
  simp only [bind, andThen, Step.andThen, h]

/-- After an error, the second action does not run. -/
theorem bind_of_failed {e : Error} (h : (x s).result = .failed e) :
    (x >>= f) s = ⟨.failed e, (x s).state, (x s).trace⟩ := by
  simp only [bind, andThen, Step.andThen, h, Step.done, List.append_nil]

/-- After a panic, the second action does not run. -/
theorem bind_of_panicked {p : Payload} (h : (x s).result = .panicked p) :
    (x >>= f) s = ⟨.panicked p, (x s).state, (x s).trace⟩ := by
  simp only [bind, andThen, Step.andThen, h, Step.done, List.append_nil]

/-- If two actions in a row return, both do. -/
theorem exists_of_bind_returned {b : β} (h : ((x >>= f : Action σ ν β) s).result = .returned b) :
    ∃ a, (x s).result = .returned a ∧ (f a (x s).state).result = .returned b := by
  cases first : (x s).result with
  | returned a =>
    rw [bind_of_returned first] at h
    exact ⟨a, rfl, h⟩
  | failed e =>
    rw [bind_of_failed first] at h
    cases h
  | panicked p =>
    rw [bind_of_panicked first] at h
    cases h

end Bind

/-- A computation that cannot fail, as an action. -/
def ofStep (x : Step σ ν β) : Action σ ν β := Step.andThen x fun b => Step.done (.returned b)

/-- A computation that may fail, as an action. -/
def ofFallible (x : Step σ ν (Except Error α)) : Action σ ν α :=
  Step.andThen x fun r => Step.done (Ending.ofExcept r)

theorem ofFallible_apply (x : Step σ ν (Except Error α)) (s : σ) :
    ofFallible x s = ⟨Ending.ofExcept (x s).result, (x s).state, (x s).trace⟩ := by
  show (⟨_, _, (x s).trace ++ []⟩ : Run σ ν _) = _
  rw [List.append_nil]
  rfl

/-- The action with a given ending and no effect. -/
def ended (e : Ending α) : Action σ ν α := Step.done e

def fail (e : Error) : Action σ ν α := ended (.failed e)

def panic (p : Payload) : Action σ ν α := ended (.panicked p)

/-- An action whose ending is looked at by what follows. -/
theorem step_bind_apply (x : Action σ ν α) (f : Ending α → Step σ ν β) (s : σ) :
    Bind.bind (m := Step σ ν) x f s =
      ⟨(f (x s).result (x s).state).result, (f (x s).result (x s).state).state,
        (x s).trace ++ (f (x s).result (x s).state).trace⟩ := rfl

theorem observed_apply {μ : Type} (event : Ending α → List ν → μ) (x : Action σ ν α) (s : σ) :
    Step.observed event x s = ⟨(x s).result, (x s).state, [event (x s).result (x s).trace]⟩ := rfl

end Action

end TxRetry
