import TxRetry.Json.Basic
import TxRetry.Mode
import TxRetry.Time.Clock

/-!
# Contexts

A context travels with one request: the caller's deadline and settings, its wishes about the
transactions started from it and, inside a transaction, the number of the attempt.

## Main definitions

* `Context` and its operations `withDeadline`, `withTimeout`, `withSetting`, `withIsolation`,
  `withAccessMode`, `withoutCostCheck`
* `Context.Change` — one such operation as a value, and `Context.apply`
* `Context.forAttempt` — the context that the body of an attempt receives
* `Context.remaining` — the time left

## Design notes

**Settings are a function** from keys to values.  Contexts are only ever asked for one key, so
nothing more is observable, and operations that concern different keys commute as equations.

**The attempt is not a public operation.**  No `Change` sets or clears it, so whatever is derived
from the context of a body is still inside the body's transaction.
-/

namespace TxRetry

/-- The context of one request. -/
structure Context where
  deadline : Option Instant := none
  /-- The number of the attempt, from one, inside a transaction. -/
  attempt : Option Nat := none
  costCheckDisabled : Bool := false
  isolation : Option IsolationLevel := none
  accessMode : Option AccessMode := none
  setting : String → Option Json := fun _ => none

namespace Context

/-- The context with nothing set, outside any transaction. -/
def fresh : Context := {}

instance : Inhabited Context := ⟨fresh⟩

def withDeadline (ctx : Context) (deadline : Instant) : Context :=
  { ctx with deadline := some deadline }

/-- A **deadline `timeout` from now.**  A timeout beyond what a clock can hold leaves the context
as it is. -/
def withTimeout (ctx : Context) (now : Instant) (timeout : Duration) : Context :=
  match now.later? timeout with
  | some deadline => ctx.withDeadline deadline
  | none => ctx

/-- Set one key; the others keep their values. -/
def withSetting (ctx : Context) (key : String) (value : Json) : Context :=
  { ctx with setting := fun k => if k = key then some value else ctx.setting k }

def withIsolation (ctx : Context) (isolation : IsolationLevel) : Context :=
  { ctx with isolation := some isolation }

def withAccessMode (ctx : Context) (mode : AccessMode) : Context :=
  { ctx with accessMode := some mode }

/-- The context whose statements skip the check of plan costs. -/
def withoutCostCheck (ctx : Context) : Context :=
  { ctx with costCheckDisabled := true }

/-- The context that the body of an attempt receives. -/
def forAttempt (ctx : Context) (attempt : Nat) : Context :=
  { ctx with attempt := some attempt }

/-- Whether a context belongs to a transaction. -/
def inTransaction (ctx : Context) : Bool :=
  ctx.attempt.isSome

/-- The time left before the deadline, zero once it has passed. -/
def remaining (ctx : Context) (now : Instant) : Option Duration :=
  ctx.deadline.map (·.remainingAt now)

/-- One **operation on a context.** -/
inductive Change where
  | deadline (t : Instant)
  | timeout (d : Duration)
  | setting (key : String) (value : Json)
  | isolation (level : IsolationLevel)
  | accessMode (mode : AccessMode)
  | noCostCheck

/-- A context after one operation at the instant `now`. -/
def apply (now : Instant) (ctx : Context) : Change → Context
  | .deadline t => ctx.withDeadline t
  | .timeout d => ctx.withTimeout now d
  | .setting key value => ctx.withSetting key value
  | .isolation level => ctx.withIsolation level
  | .accessMode mode => ctx.withAccessMode mode
  | .noCostCheck => ctx.withoutCostCheck

/-- A context after several operations in order, all at the instant `now`. -/
def applyAll (now : Instant) (ctx : Context) (changes : List Change) : Context :=
  changes.foldl (apply now) ctx

/-- No operation leaves or enters a transaction. -/
@[simp] theorem apply_attempt (now : Instant) (ctx : Context) (c : Change) :
    (ctx.apply now c).attempt = ctx.attempt := by
  cases c <;> simp only [apply, withTimeout] <;> first | rfl | (split <;> rfl)

end Context

end TxRetry
