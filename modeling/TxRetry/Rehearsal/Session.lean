import TxRetry.Postgres.Connector
import TxRetry.Rehearsal.Body
import TxRetry.Rehearsal.Replies

/-!
# Rehearsed sessions

A session is a sequence of steps on one connector over a scripted database: whole transactional
calls, and single uses of a handle that stays open between steps.

## Main definitions

* `SessionStep` — one step of a session
* `Session` — the world and the open handle between steps
* `SessionReport` — what a step showed: its outcome, its notes, and what was executed and logged
* `Session.take` — a session after one step, and the report
-/

namespace TxRetry.Rehearsal

open TxRetry.Postgres

/-- One **step of a session.** -/
inductive SessionStep where
  | transact (ctx : List Context.Change) (bodies : List (List BodyStep))
  | begin (ctx : List Context.Change)
  /-- Let the open handle go out of scope. -/
  | drop
  | closePool
  | advance (d : Duration)
  /-- Look at the driver's retry policy. -/
  | policy
  | commitTx
  | rollbackTx
  /-- A step of a body on the open handle. -/
  | onHandle (step : BodyStep)

/-- What a step of a session shows. -/
inductive SessionValue where
  | value (json : Json)
  | observed (observation : Observation)
  | policy (codes : List String) (maxRetries : UInt32) (done : List Bool) (closed : Bool)

/-- How a step of a session ends. -/
inductive SessionOutcome where
  | ended (ending : Ending SessionValue)
  /-- The step needs an open handle and there is none. -/
  | noHandle

/-- What **a step of a session showed.** -/
structure SessionReport where
  outcome : SessionOutcome
  notes : List Note
  trace : List Event

/-- The world and the open handle between steps; the handle keeps the context it was opened
under. -/
structure Session where
  world : World ReplyScript (List Note)
  handle : Option (Tx × Context) := none

namespace Session

/-- The open handle goes out of scope, if there is one. -/
def dropHandle (session : Session) : Session × List Event :=
  match session.handle with
  | none => (session, [])
  | some (tx, _) =>
    let run := Tx.release scriptedDatabase (session.world, tx)
    ({ world := run.state.1 }, run.trace)

/-- The report of a step that ends like code of a caller. -/
def reportOf (ending : Ending SessionValue) (world : World ReplyScript (List Note))
    (trace : List Event) : SessionReport :=
  ⟨.ended ending, world.memory, trace⟩

/-- A computation on the open handle as a step.  Whatever the steps before have left on its way has
arrived by then. -/
def useHandle (session : Session)
    (x : Context → Action (World ReplyScript (List Note) × Tx) Event SessionValue) :
    Session × SessionReport :=
  match session.handle with
  | none => (session, ⟨.noHandle, [], []⟩)
  | some (tx, ctx) =>
    let run := x ctx (session.world, tx.settled)
    ({ world := run.state.1, handle := some (run.state.2, ctx) },
      reportOf run.result run.state.1 run.trace)

/-- What a step of a body shows, or its error, as the value of a session's step. -/
def observedEnding : Ending (Except Error Observation) → Ending SessionValue
  | .returned (.ok observation) => .returned (.observed observation)
  | .returned (.error error) => .failed error
  | .failed error => .failed error
  | .panicked payload => .panicked payload

variable (connector : Connector (List Note))

/-- A whole transactional call. -/
def takeTransact (session : Session) (changes : List Context.Change)
    (bodies : List (List BodyStep)) : Session × SessionReport :=
  let (session, dropped) := session.dropHandle
  let ctx := Context.fresh.applyAll session.world.clock changes
  let run := connector.transact scriptedDatabase ctx (attemptBody bodies) session.world
  ({ world := run.state },
    reportOf (run.result.map SessionValue.value) run.state (dropped ++ run.trace))

/-- A transaction opened, its handle kept. -/
def takeBegin (session : Session) (changes : List Context.Change) : Session × SessionReport :=
  let (session, dropped) := session.dropHandle
  let ctx := Context.fresh.applyAll session.world.clock changes
  let run := (connector.driver scriptedDatabase).begin ctx session.world
  let trace := dropped ++ run.trace
  let ending := run.result.map fun _ => SessionValue.observed .done
  match run.result with
  | .returned tx =>
    ({ world := run.state, handle := some (tx, ctx) }, reportOf ending run.state trace)
  | _ => ({ world := run.state }, reportOf ending run.state trace)

/-- The driver's retry policy. -/
def policyValue (session : Session) : SessionValue :=
  let driver := connector.driver (δ := ReplyScript) scriptedDatabase
  .policy driver.retryCodes driver.maxRetries
    [driver.isTxDone .txDone, driver.isTxDone .nestedTransaction] session.world.poolClosed

/-- A **session after one step.**  Notes are kept for the length of a step. -/
def take (session : Session) (step : SessionStep) : Session × SessionReport :=
  let session := { session with world := { session.world with memory := [] } }
  let nothing : Ending SessionValue := .returned (.observed .nothing)
  match step with
  | .transact changes bodies => session.takeTransact connector changes bodies
  | .begin changes => session.takeBegin connector changes
  | .drop =>
    let (session, trace) := session.dropHandle
    (session, reportOf nothing session.world trace)
  | .closePool =>
    let (session, trace) := session.dropHandle
    let world := { session.world with poolClosed := true }
    ({ world }, reportOf nothing world trace)
  | .advance d =>
    let world := { session.world with clock := session.world.clock.after d }
    ({ session with world }, reportOf nothing world [])
  | .policy =>
    (session, reportOf (.returned (session.policyValue connector)) session.world [])
  | .commitTx =>
    session.useHandle fun ctx => do
      (connector.driver scriptedDatabase).commit ctx
      return .observed .done
  | .rollbackTx =>
    session.useHandle fun ctx => do
      (connector.driver scriptedDatabase).rollback ctx
      return .observed .done
  | .onHandle step =>
    session.useHandle fun ctx =>
      Step.andThen ((stepProgram ctx step).run scriptedDatabase) fun ending =>
        Step.done (observedEnding ending)

/-- The reports of the steps of a session. -/
def takeAll (session : Session) : List SessionStep → List SessionReport
  | [] => []
  | step :: rest =>
    let (session, report) := session.take connector step
    report :: session.takeAll rest

end Session

/-- A **rehearsal**: the reports of all steps of a session on a fresh pool. -/
def rehearse (connector : Connector (List Note)) (script : ReplyScript)
    (steps : List SessionStep) : List SessionReport :=
  Session.takeAll connector { world := { database := script, memory := [] } } steps

end TxRetry.Rehearsal
