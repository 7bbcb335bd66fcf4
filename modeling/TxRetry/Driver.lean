import TxRetry.Context
import TxRetry.Run

/-!
# Drivers and work

The two parties of a transactional call: a driver, which opens, commits and rolls back one kind of
handle, and the work that a caller wants done inside a transaction.

## Main definitions

* `Driver` — how one kind of transaction is opened and concluded, and which failures are worth
  another attempt
* `Work` — what runs inside the transaction
* `Work.ofAction`, `Work.idle` — work whose preparation has no effect, and no work at all

## Design notes

**Handles are released, not leaked.**  `release` is what happens when a handle goes out of scope.
A handle that was not concluded must be rolled back by it.

**Work has two stages.**  A caller's code first *prepares* an action from the context of the
attempt, and that action then runs.  Both stages can panic, and they differ in what guards them, so
the preparation is a stage of its own: it ends in a panic or in the action, but not in an error.
-/

namespace TxRetry

/-- How **one kind of transaction is opened and concluded.**  The computations act on a world `σ`
and leave events `ν`; an open transaction is a handle `η` beside the world. -/
structure Driver (σ ν η : Type) where
  /-- Open a transaction. -/
  begin : Context → Action σ ν η
  commit : Context → Action (σ × η) ν Unit
  rollback : Context → Action (σ × η) ν Unit
  /-- The handle goes out of scope. -/
  release : Step (σ × η) ν Unit
  /-- The codes that restart a whole transaction. -/
  retryCodes : List String
  /-- The number of attempts allowed in one call. -/
  maxRetries : UInt32
  /-- Whether an error is the handle's report that it was concluded before. -/
  isTxDone : Error → Bool := Error.isTxDone

namespace Driver

variable {σ ν η : Type}

/-- The number of attempts in one call is at least one, whatever the driver says. -/
def attemptLimit (driver : Driver σ ν η) : Nat := max driver.maxRetries.toNat 1

/-- The **code for which an error is worth another attempt**, if it has one and the driver lists
it. -/
def retryableCode (driver : Driver σ ν η) (error : Error) : Option String :=
  error.sqlstate.filter driver.retryCodes.contains

end Driver

/-- What **runs inside a transaction**: an action prepared from the context of the attempt, unless
the preparation panics. -/
def Work (σ ν η α : Type) : Type :=
  Context → Step (σ × η) ν (Except Payload (Action (σ × η) ν α))

namespace Work

variable {σ ν η α : Type}

/-- Work whose preparation has no effect. -/
def ofAction (body : Context → Action (σ × η) ν α) : Work σ ν η α :=
  fun ctx => pure (.ok (body ctx))

/-- No work. -/
def idle : Work σ ν η Unit := ofAction fun _ => pure ()

end Work

end TxRetry
