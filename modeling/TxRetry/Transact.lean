import TxRetry.Driver
import TxRetry.Log

/-!
# Transactional calls

A transactional call runs its work inside a fresh transaction and commits it.  If the attempt fails
with one of the driver's conflict codes, the whole transaction is run again, with a new handle and
a new context, until it succeeds, fails for another reason, or the attempts are used up.

## Main definitions

* `CallEvent` — what a call does, in order
* `attempt` — one attempt, from opening the transaction to releasing its handle
* `attemptsFrom` — the attempts from a number on, with a number of further ones allowed
* `transact` — the whole call
* `CallEvent.flatten` — a call's events as the events of the world around it

## Design notes

**The loop is a recursion on the attempts that are left.**  No attempt counter can overflow and no
call can go on forever; `attemptsFrom_succ` is the equation of the loop.

**Events show the driver's side of a call.**  Each call of the driver and each run of the work is
one event, with the context that it got, how it ended, and the events that happened inside.

**Only running work is guarded.**  A panic of the running action rolls the transaction back and
then goes on to the caller.  A panic of the preparation, or of the driver, goes on to the caller
directly, and the handle is merely released.
-/

namespace TxRetry

/-- One thing that **a call does.** -/
inductive CallEvent (ν : Type) where
  /-- The driver was asked to open a transaction. -/
  | begun (ctx : Context) (ending : Ending Unit) (inside : List ν)
  /-- The work prepared its action; `panic?` is there if that panicked. -/
  | prepared (ctx : Context) (panic? : Option Payload) (inside : List ν)
  /-- The action of the work ran. -/
  | worked (ctx : Context) (ending : Ending Unit) (inside : List ν)
  /-- The driver was asked to commit. -/
  | committed (ctx : Context) (ending : Ending Unit) (inside : List ν)
  /-- The driver was asked to roll back. -/
  | rolledBack (ctx : Context) (ending : Ending Unit) (inside : List ν)
  /-- The handle went out of scope. -/
  | released (ctx : Context) (inside : List ν)
  /-- The call reported something. -/
  | logged (record : LogRecord)

/-- The events of the world behind an event of a call. -/
def CallEvent.flatten {ν : Type} (ofRecord : LogRecord → ν) : CallEvent ν → List ν
  | .begun _ _ inside => inside
  | .prepared _ _ inside => inside
  | .worked _ _ inside => inside
  | .committed _ _ inside => inside
  | .rolledBack _ _ inside => inside
  | .released _ inside => inside
  | .logged record => [ofRecord record]

/-! ### What a call reports -/

namespace Report

def retrying (code : String) (attempt : Nat) : LogRecord :=
  ⟨.warn, "serialization failure " ++ code ++ " on attempt " ++ toString attempt ++ ", retrying"⟩

def givingUp (code : String) (attempts : Nat) : LogRecord :=
  ⟨.warn, "giving up after " ++ toString attempts ++ " attempts, last serialization failure "
    ++ code⟩

def concludedByBody (attempt : Nat) : LogRecord :=
  ⟨.debug, "transaction concluded by its body on attempt " ++ toString attempt⟩

def rollbackSkipped (attempt : Nat) (failure : Error) : LogRecord :=
  ⟨.debug, "rollback skipped on attempt " ++ toString attempt ++ ": " ++ failure.message⟩

def rollbackFailed (attempt : Nat) (failure : Error) : LogRecord :=
  ⟨.error, "rollback after panic on attempt " ++ toString attempt ++ " failed: "
    ++ failure.message⟩

def panicked (attempt : Nat) : LogRecord :=
  ⟨.error, "transaction body panicked on attempt " ++ toString attempt ++ ", rolled back"⟩

end Report

variable {σ ν η α : Type}

/-- A record in the trace of a call. -/
def report (record : LogRecord) : Step σ (CallEvent ν) Unit := Step.emit (.logged record)

/-! ### One attempt -/

/-- The driver's rollback as one event. -/
def rollbackStep (driver : Driver σ ν η) (ctx : Context) :
    Step (σ × η) (CallEvent ν) (Ending Unit) :=
  Step.observed (CallEvent.rolledBack ctx) (driver.rollback ctx)

/-- Roll back **after an error ended an attempt.**  A handle that was concluded before needs no
rollback; any other failure of the rollback is added to the error. -/
def rollBackAfter (driver : Driver σ ν η) (ctx : Context) (number : Nat) (error : Error) :
    Step (σ × η) (CallEvent ν) (Ending α) := do
  match ← rollbackStep driver ctx with
  | .returned () => return .failed error
  | .panicked payload => return .panicked payload
  | .failed failure =>
    if driver.isTxDone failure then
      report (Report.rollbackSkipped number failure)
      return .failed error
    else return .failed (.rollback error failure)

/-- Roll back **after the work panicked**, then let the panic go on.  What the rollback returned is
only reported. -/
def rollBackPanicked (driver : Driver σ ν η) (ctx : Context) (number : Nat) (payload : Payload) :
    Step (σ × η) (CallEvent ν) (Ending α) := do
  match ← rollbackStep driver ctx with
  | .panicked second => return .panicked second
  | .returned () =>
    report (Report.panicked number)
    return .panicked payload
  | .failed failure =>
    if driver.isTxDone failure then
      report (Report.panicked number)
      return .panicked payload
    else
      report (Report.rollbackFailed number failure)
      report (Report.panicked number)
      return .panicked payload

/-- Commit **after the work returned a value.**  A handle that its body concluded counts as
committed; any other failure of the commit ends the attempt. -/
def commitAfter (driver : Driver σ ν η) (ctx : Context) (number : Nat) (value : α) :
    Step (σ × η) (CallEvent ν) (Ending α) := do
  match ← Step.observed (CallEvent.committed ctx) (driver.commit ctx) with
  | .returned () => return .returned value
  | .panicked payload => return .panicked payload
  | .failed error =>
    if driver.isTxDone error then
      report (Report.concludedByBody number)
      return .returned value
    else rollBackAfter driver ctx number error

/-- The event of a preparation. -/
def CallEvent.ofPreparation (ctx : Context) (prepared : Except Payload (Action (σ × η) ν α))
    (inside : List ν) : CallEvent ν :=
  match prepared with
  | .error payload => .prepared ctx (some payload) inside
  | .ok _ => .prepared ctx none inside

/-- An attempt while its handle is open: the work, and then what its ending calls for. -/
def attemptOpen (driver : Driver σ ν η) (ctx : Context) (number : Nat) (work : Work σ ν η α) :
    Step (σ × η) (CallEvent ν) (Ending α) := do
  match ← Step.observed (CallEvent.ofPreparation ctx) (work ctx) with
  | .error payload => return .panicked payload
  | .ok action =>
    match ← Step.observed (fun ending => CallEvent.worked ctx ending.void) action with
    | .returned value => commitAfter driver ctx number value
    | .failed error => rollBackAfter driver ctx number error
    | .panicked payload => rollBackPanicked driver ctx number payload

/-- One **attempt**, with a fresh handle and a context of its own.  Whatever its ending, the handle
goes out of scope. -/
def attempt (driver : Driver σ ν η) (caller : Context) (number : Nat) (work : Work σ ν η α) :
    Step σ (CallEvent ν) (Ending α) := do
  let ctx := caller.forAttempt number
  match ← Step.observed (fun ending => CallEvent.begun ctx ending.void) (driver.begin ctx) with
  | .failed error => return .failed (.begin error)
  | .panicked payload => return .panicked payload
  | .returned handle =>
    Step.withHandle handle do
      let ending ← attemptOpen driver ctx number work
      Step.observed (fun _ => CallEvent.released ctx) driver.release
      return ending

/-! ### The whole call -/

/-- The **attempts from `number` on**, when `more` further ones are allowed after it. -/
def attemptsFrom (driver : Driver σ ν η) (caller : Context) (work : Work σ ν η α) :
    (number more : Nat) → Step σ (CallEvent ν) (Ending α)
  | number, more => do
    match ← attempt driver caller number work with
    | .returned value => return .returned value
    | .panicked payload => return .panicked payload
    | .failed error =>
      match driver.retryableCode error with
      | none => return .failed error
      | some code =>
        match more with
        | 0 =>
          report (Report.givingUp code number)
          return .failed (.retriesExceeded number error)
        | more + 1 =>
          report (Report.retrying code number)
          attemptsFrom driver caller work (number + 1) more

/-- The last attempt allowed. -/
theorem attemptsFrom_zero (driver : Driver σ ν η) (caller : Context) (work : Work σ ν η α)
    (number : Nat) :
    attemptsFrom driver caller work number 0 = (do
      match ← attempt driver caller number work with
      | .returned value => return .returned value
      | .panicked payload => return .panicked payload
      | .failed error =>
        match driver.retryableCode error with
        | none => return .failed error
        | some code =>
          report (Report.givingUp code number)
          return .failed (.retriesExceeded number error)) := by
  rw [attemptsFrom]

/-- An attempt after which another one is allowed. -/
theorem attemptsFrom_succ (driver : Driver σ ν η) (caller : Context) (work : Work σ ν η α)
    (number more : Nat) :
    attemptsFrom driver caller work number (more + 1) = (do
      match ← attempt driver caller number work with
      | .returned value => return .returned value
      | .panicked payload => return .panicked payload
      | .failed error =>
        match driver.retryableCode error with
        | none => return .failed error
        | some code =>
          report (Report.retrying code number)
          attemptsFrom driver caller work (number + 1) more) := by
  rw [attemptsFrom]

/-- Whether a context may start a transaction: not from inside another one. -/
def admission (caller : Context) : Except Error Unit :=
  if caller.inTransaction then .error .nestedTransaction else .ok ()

/-- A **transactional call.** -/
def transact (driver : Driver σ ν η) (caller : Context) (work : Work σ ν η α) :
    Step σ (CallEvent ν) (Ending α) :=
  match admission caller with
  | .error error => return .failed error
  | .ok () => attemptsFrom driver caller work 1 (driver.attemptLimit - 1)

/-- A transactional call as a computation of the world around it. -/
def transactWithin (ofRecord : LogRecord → ν) (driver : Driver σ ν η) (caller : Context)
    (work : Work σ ν η α) : Action σ ν α :=
  Step.mapTrace (CallEvent.flatten ofRecord) (transact driver caller work)

end TxRetry
