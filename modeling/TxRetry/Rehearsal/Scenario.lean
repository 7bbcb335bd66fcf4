import TxRetry.Rehearsal.Body
import TxRetry.Transact

/-!
# Scenarios of the retry loop

A driver in memory whose calls have scripted outcomes, and bodies written down as steps, for
rehearsing the retry loop by itself.

## Main definitions

* `AttemptScript` — the outcomes of the driver's calls in one attempt, and the body of the attempt
* `ScriptedTx` — the handle: the script it runs by, and whether it was concluded
* `Happening` — what is seen of a call
* `scenarioDriver` — the driver
* `scenarioWork` — the scripted bodies as work

## Design notes

**A call from inside the body is a real call.**  Under the body's own context it is turned away;
under a fresh one it runs by the same scripts from the first attempt on, with nothing to do inside.
-/

namespace TxRetry.Rehearsal

/-- A step of the body of a scenario. -/
inductive ScenarioStep where
  /-- Mark the handle as concluded. -/
  | conclude
  | showDone
  | showContext
  /-- Change the body's own context. -/
  | changeContext (change : Context.Change)
  /-- A call under the body's own context, or under a fresh one; its error ends the body if it is
  to be propagated. -/
  | nested (fresh propagate : Bool)
  | note (value : Json)
  | giveBack (value : Json)
  | fail (error : Error)
  | panic (payload : Payload)

/-- The **script of one attempt.** -/
structure AttemptScript where
  beginFailure : Option Error := none
  commitFailure : Option Error := none
  rollbackFailure : Option Error := none
  body : List ScenarioStep := []

/-- The handle of a scripted transaction. -/
structure ScriptedTx where
  script : AttemptScript
  concluded : Bool := false

/-- The calls of a driver. -/
inductive DriverCall where
  | begin
  | commit
  | rollback
  deriving DecidableEq, Repr

/-- What **is seen of a call.** -/
inductive Happening where
  | called (call : DriverCall) (attempt : Nat) (failure? : Option Error)
  | done (concluded : Bool)
  | context (ctx : Context)
  | nestedStart (fresh : Bool)
  | nestedEnd (fresh : Bool) (failure? : Option Error)
  | note (value : Json)
  | logged (record : LogRecord)

/-- How often a call of the driver can be tried again, and what it takes for "concluded before". -/
structure ScenarioPolicy where
  retryCodes : List String
  maxRetries : UInt32
  /-- The code that stands for "concluded before", if it is not the handle's own error. -/
  doneCode : Option String := none

/-- A database error with a given code. -/
def hasCode (code : String) : Error → Bool
  | .database c _ => c == code
  | _ => false

/-- A call of the driver with its outcome. -/
def calledStep {σ : Type} (call : DriverCall) (ctx : Context) (failure? : Option Error) :
    Action σ Happening Unit := do
  Action.ofStep (Step.emit (.called call (ctx.attempt.getD 0) failure?))
  match failure? with
  | some error => Action.fail error
  | none => return ()

/-- Conclude a handle, unless it was concluded before or the script says otherwise. -/
def concludeScripted (call : DriverCall) (failureOf : AttemptScript → Option Error)
    (ctx : Context) : Action (Unit × ScriptedTx) Happening Unit := do
  let (_, tx) ← Action.ofStep Step.get
  calledStep call ctx (if tx.concluded then some .txDone else failureOf tx.script)
  Action.ofStep (Step.modify fun ((), tx) => ((), { tx with concluded := true }))

/-- The **driver of a scenario.** -/
def scenarioDriver (policy : ScenarioPolicy) (scripts : List AttemptScript) :
    Driver Unit Happening ScriptedTx where
  begin ctx := do
    let script := scriptFor {} scripts (ctx.attempt.getD 1)
    calledStep .begin ctx script.beginFailure
    return { script }
  commit := concludeScripted .commit AttemptScript.commitFailure
  rollback := concludeScripted .rollback AttemptScript.rollbackFailure
  release := return ()
  retryCodes := policy.retryCodes
  maxRetries := policy.maxRetries
  isTxDone := match policy.doneCode with
    | none => Error.isTxDone
    | some code => hasCode code

/-- A call from inside the body, with nothing to do, seen from its start to its end. -/
def nestedCall (driver : Driver Unit Happening ScriptedTx) (fresh : Bool) (ctx : Context) :
    Step (Unit × ScriptedTx) Happening (Ending Unit) := do
  Step.emit (.nestedStart fresh)
  let ending ← Step.onWorld (transactWithin Happening.logged driver ctx Work.idle)
  Step.emit (.nestedEnd fresh (match ending with | .failed error => some error | _ => none))
  return ending

/-- The steps of a body, one after the other.  A body that runs out of steps returns the number of
its attempt. -/
def scenarioBody (driver : Driver Unit Happening ScriptedTx) (now : Instant) :
    Context → List ScenarioStep → Action (Unit × ScriptedTx) Happening Json
  | ctx, [] => return .object [("attempt", .ofInt (ctx.attempt.getD 0))]
  | ctx, step :: rest =>
    match step with
    | .conclude => do
      Action.ofStep (Step.modify fun ((), tx) => ((), { tx with concluded := true }))
      scenarioBody driver now ctx rest
    | .showDone => do
      let (_, tx) ← Action.ofStep Step.get
      Action.ofStep (Step.emit (.done tx.concluded))
      scenarioBody driver now ctx rest
    | .showContext => do
      Action.ofStep (Step.emit (.context ctx))
      scenarioBody driver now ctx rest
    | .changeContext change => scenarioBody driver now (ctx.apply now change) rest
    | .nested fresh propagate => do
      match ← Action.ofStep (nestedCall driver fresh (if fresh then Context.fresh else ctx)) with
      | .returned () => scenarioBody driver now ctx rest
      | .failed error =>
        if propagate then Action.fail error else scenarioBody driver now ctx rest
      | .panicked payload => Action.panic payload
    | .note value => do
      Action.ofStep (Step.emit (.note value))
      scenarioBody driver now ctx rest
    | .giveBack value => return value
    | .fail error => Action.fail error
    | .panic payload => Action.panic payload

/-- The **scripted bodies as work.** -/
def scenarioWork (driver : Driver Unit Happening ScriptedTx) (now : Instant)
    (scripts : List AttemptScript) : Work Unit Happening ScriptedTx Json :=
  Work.ofAction fun ctx =>
    scenarioBody driver now ctx (scriptFor {} scripts (ctx.attempt.getD 1)).body

/-- A **call of a scenario**: its ending and everything seen of it. -/
def playCall (policy : ScenarioPolicy) (scripts : List AttemptScript) (now : Instant)
    (changes : List Context.Change) : Ending Json × List Happening :=
  let driver := scenarioDriver policy scripts
  let ctx := Context.fresh.applyAll now changes
  let run := transactWithin Happening.logged driver ctx (scenarioWork driver now scripts) ()
  (run.result, run.trace)

end TxRetry.Rehearsal
