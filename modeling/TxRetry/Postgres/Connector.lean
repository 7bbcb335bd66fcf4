import TxRetry.Postgres.Program
import TxRetry.Setup
import TxRetry.Transact

/-!
# The driver of a database

A connector opens transactions on a pool of one connection, as its configuration and its hooks say,
and hands them out only when they are fully set up.

## Main definitions

* `Connector` — a configuration and two hooks
* `Connector.isolationFor` — the isolation level of a transaction, if it is allowed
* `Connector.setUp` — the setup of a transaction that was just opened
* `Connector.driver` — the driver for the retry loop

## Design notes

**Setup is not checked.**  Setup statements are logged like any other, but run under a context
without the cost check, so a budget can neither explain nor refuse them.

**The hook before the commit is part of the commit.**  It runs only on a transaction that is still
open, and if it does not return, no commit is sent.
-/

namespace TxRetry.Postgres

/-- How **transactions are opened and concluded.** -/
structure Connector (μ : Type) where
  config : Config := {}
  beginHook : Option BeginHook := none
  /-- Runs right before a commit. -/
  preCommitHook : Option (Context → Program μ Unit) := none

namespace Connector

variable {δ μ : Type} (connector : Connector μ)

/-- How the statements of its transactions are logged and checked. -/
def statementConfig : StatementConfig where
  maxPlanCost := connector.config.effectiveMaxPlanCost
  logLevel := connector.config.statementLogLevel

def setupOptions : SetupOptions where
  statementTimeoutGrace := connector.config.statementTimeoutGrace
  disableSeqscan := connector.config.disableSeqscan

/-- The **isolation level of a transaction**: the one that the context asks for or else the
configured one, unless only serializable transactions are allowed. -/
def isolationFor (ctx : Context) : Except Error IsolationLevel :=
  let isolation := ctx.isolation.getD connector.config.isolation
  if connector.config.requireSerializable && isolation != .serializable then
    .error (.isolationPolicy isolation)
  else .ok isolation

/-- The statement that sets the modes of a transaction. -/
def modeSql (isolation : IsolationLevel) (mode : AccessMode) : String :=
  "SET TRANSACTION ISOLATION LEVEL " ++ isolation.sql ++ ", " ++ mode.sql

/-- The **setup of an open transaction**: its modes, then the setup batch computed at that moment,
if there is one. -/
def setUp (db : Database δ) (ctx : Context) (isolation : IsolationLevel) :
    Action (World δ μ × Tx) Event Unit := do
  let unchecked := ctx.withoutCostCheck
  let mode := ctx.accessMode.getD connector.config.accessMode
  let _ ← Action.ofFallible (Tx.execute db unchecked (modeSql isolation mode) []).run
  let (world, _) ← Action.ofStep Step.get
  let batch? ← Action.ended
    (setupBatch ctx connector.beginHook connector.setupOptions world.clock)
  match batch? with
  | none => return ()
  | some batch => Action.ofFallible (Tx.executeBatch db unchecked batch).run

/-- Set up a transaction that was just opened.  If that does not succeed, it is released. -/
def setUpOrRelease (db : Database δ) (ctx : Context) (isolation : IsolationLevel) :
    Step (World δ μ × Tx) Event (Ending Tx) := do
  match ← connector.setUp db ctx isolation with
  | .returned () =>
    let (_, tx) ← Step.get
    return .returned tx
  | .failed error =>
    Tx.release db
    return .failed error
  | .panicked payload =>
    Tx.release db
    return .panicked payload

/-- Open **a transaction.**  The pool and the isolation level are looked at before anything is
sent. -/
def begin (db : Database δ) (ctx : Context) : Action (World δ μ) Event Tx := do
  let world ← Action.ofStep Step.get
  if world.poolClosed then Action.fail (.client .poolClosed)
  else
    let isolation ← Action.ended (Ending.ofExcept (connector.isolationFor ctx))
    let reply ← Action.ofStep (send db .begin)
    match reply.answer with
    | .error error => Action.fail error
    | .ok _ =>
      let opened : Tx := { config := connector.statementConfig }
      Step.withHandle opened (connector.setUpOrRelease db ctx isolation)

/-- Commit **a transaction**, the hook first.  A transaction that was concluded before is left
alone. -/
def commit (db : Database δ) (ctx : Context) : Action (World δ μ × Tx) Event Unit := do
  let (_, tx) ← Action.ofStep Step.get
  if tx.isDone then Action.fail .txDone
  else
    match connector.preCommitHook with
    | none => pure ()
    | some hook => (hook ctx).run db
    Action.ofFallible (Tx.commit db).run

/-- The **driver of a connector.** -/
def driver (db : Database δ) : Driver (World δ μ) Event Tx where
  begin := connector.begin db
  commit := connector.commit db
  rollback _ := Action.ofFallible (Tx.rollback db).run
  release := Tx.release db
  retryCodes := connector.config.retryCodes
  maxRetries := connector.config.maxRetries

/-- A transactional call through a connector. -/
def transact {α : Type} (db : Database δ) (ctx : Context) (body : Context → Program μ α) :
    Action (World δ μ) Event α :=
  transactWithin Event.logged (connector.driver db) ctx (Program.toWork db body)

end Connector

end TxRetry.Postgres
