import TxRetry.Run

/-!
# Laws of runs

Most of what holds of every run holds because each step of it keeps some relation between the state
before, the events and the state after.  A law is such a relation, and a computation obeys it if all
its runs do.  This module carries laws through the ways in which computations are put together, so
that an argument about an operation is an argument about its single steps.

## Main definitions

* `Law` — a relation that holds of doing nothing and of one run after another
* `Law.only` — the law that there are only events of one kind
* `Step.Obeys` — every run of a computation is as the law says

## Main statements

* `Step.obeys_bind`, `Fallible.obeys_bind`, `Action.obeys_bind` — laws hold of compositions, for
  each of the three kinds of computation

## Design notes

**Laws are closed under composition by definition.**  A relation that is not, for instance a bound
on the length of a trace, becomes one when the state has a part that pays for the events.
-/

namespace TxRetry

variable {σ ν β γ α : Type}

/-- A **law of runs**: what may lie between two states. -/
structure Law (σ ν : Type) where
  Holds : σ → List ν → σ → Prop
  idle : ∀ s, Holds s [] s
  append : ∀ {s t u first second}, Holds s first t → Holds t second u → Holds s (first ++ second) u

/-- The law that there are **only events of one kind.** -/
def Law.only (P : ν → Prop) : Law σ ν where
  Holds _ events _ := ∀ event ∈ events, P event
  idle _ := by simp
  append first second := by
    intro event among
    rcases List.mem_append.mp among with early | late
    · exact first event early
    · exact second event late

/-! ### Computations that always have a result -/

namespace Step

/-- A computation **obeys a law** if the law holds of each of its runs. -/
def Obeys (x : Step σ ν β) (law : Law σ ν) : Prop :=
  ∀ s, law.Holds s (x s).trace (x s).state

variable {law : Law σ ν}

/-- The law holds of a run that is known. -/
theorem Obeys.holds {x : Step σ ν β} (obeys : x.Obeys law) {s t : σ} {b : β} {events : List ν}
    (run : x s = ⟨b, t, events⟩) : law.Holds s events t := by
  have holds := obeys s
  rwa [run] at holds

theorem obeys_pure (b : β) : Obeys (pure b : Step σ ν β) law := law.idle

theorem obeys_gets (f : σ → β) : Obeys (gets f : Step σ ν β) law := law.idle

/-- One computation after another obeys the law, if the first one does, and the second one after
every result that the first one has. -/
theorem obeys_bind_of_results {x : Step σ ν β} {f : β → Step σ ν γ} (first : x.Obeys law)
    (second : ∀ s, (f (x s).result).Obeys law) : (x >>= f).Obeys law := by
  intro s
  rw [bind_apply]
  exact law.append (first s) (second s _)

/-- One computation after another obeys the law, if both do. -/
theorem obeys_bind {x : Step σ ν β} {f : β → Step σ ν γ} (first : x.Obeys law)
    (second : ∀ b, (f b).Obeys law) : (x >>= f).Obeys law :=
  obeys_bind_of_results first fun _ => second _

/-- What a computation does with a handle of its own beside the world, it does in the world. -/
theorem obeys_withHandle {η : Type} {P : ν → Prop} (h : η) {x : Step (σ × η) ν β}
    (obeys : x.Obeys (.only P)) : (withHandle h x).Obeys (.only P) :=
  fun s => obeys (s, h)

end Step

/-! ### Computations that may fail -/

namespace Fallible

variable {law : Law σ ν}

theorem obeys_pure (a : α) : Step.Obeys (pure a : Fallible σ ν α).run law := law.idle

theorem obeys_throw (e : Error) : Step.Obeys (throw e : Fallible σ ν α).run law := law.idle

theorem obeys_lift {y : Step σ ν α} (obeys : y.Obeys law) :
    Step.Obeys (ExceptT.lift y : Fallible σ ν α).run law := by
  intro s
  rw [run_lift_apply]
  exact obeys s

/-- After an error the law has nothing more to say. -/
theorem obeys_bind {x : Fallible σ ν α} {f : α → Fallible σ ν β} (first : Step.Obeys x.run law)
    (second : ∀ a, Step.Obeys (f a).run law) : Step.Obeys (x >>= f).run law := by
  intro s
  cases result : (x.run s).result with
  | error e =>
      rw [run_bind_of_error result]
      exact first s
  | ok a =>
      rw [run_bind_of_ok result]
      exact law.append (first s) (second a _)

end Fallible

/-! ### Computations that end like code of a caller -/

namespace Action

variable {law : Law σ ν}

theorem obeys_ended (e : Ending α) : Step.Obeys (ended e : Action σ ν α) law := law.idle

theorem obeys_ofFallible {x : Step σ ν (Except Error α)} (obeys : x.Obeys law) :
    Step.Obeys (ofFallible x) law := by
  intro s
  rw [ofFallible_apply]
  exact obeys s

theorem obeys_ofStep {x : Step σ ν β} (obeys : x.Obeys law) : Step.Obeys (ofStep x) law := by
  intro s
  show law.Holds s ((x s).trace ++ []) (x s).state
  rw [List.append_nil]
  exact obeys s

/-- After an error or a panic the law has nothing more to say. -/
theorem obeys_bind {x : Action σ ν α} {f : α → Action σ ν β} (first : Step.Obeys x law)
    (second : ∀ a, Step.Obeys (f a) law) : Step.Obeys (x >>= f : Action σ ν β) law := by
  intro s
  cases result : (x s).result with
  | returned a =>
      rw [bind_of_returned result]
      exact law.append (first s) (second a _)
  | failed e =>
      rw [bind_of_failed result]
      exact first s
  | panicked p =>
      rw [bind_of_panicked result]
      exact first s

end Action

end TxRetry
