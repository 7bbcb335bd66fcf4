import TxRetry.Config.Basic
import TxRetry.Context
import TxRetry.Plan
import TxRetry.Postgres.Database

/-!
# Open transactions

The handle of an open transaction.  Every statement on it is logged; while a budget applies, the
statement is first explained on the same transaction and refused if its plan costs too much.

## Main definitions

* `Tx` — the handle
* `Tx.statement` — a statement, from its log record to the reading of its answer
* `Tx.execute`, `Tx.fetchAll`, `Tx.fetchOne`, `Tx.fetchOptional` — the statements of the handle
* `Tx.fetchAllAs`, `Tx.fetchOneAs`, `Tx.fetchOptionalAs` — fetches whose rows are decoded
* `Tx.executeBatch` — a batch, which cannot be explained and so is refused while a budget applies
* `Tx.commit`, `Tx.rollback`, `Tx.release` — the three ways in which a transaction ends

## Design notes

**The first attempt to conclude is the only one.**  `commit` and `rollback` close the handle before
their command is sent.  If the command fails, the connection rolls the transaction back, as it does
for a handle that is released while open.

**A failure that comes too late is not forgotten.**  The statement that it answers has failed by its
deadline, so the next command on the connection reads it: that command fails with it and is not
sent, a commit included.  A released handle takes it along unread.
-/

namespace TxRetry.Postgres

/-- How the statements of a handle are logged and checked. -/
structure StatementConfig where
  maxPlanCost : Option Float := none
  logLevel : LogLevel := .debug

/-- The budget against which statements under a context are checked. -/
def StatementConfig.planBudget (config : StatementConfig) (ctx : Context) : Option Float :=
  if ctx.costCheckDisabled then none else config.maxPlanCost

/-- The **handle of a transaction.** -/
structure Tx where
  config : StatementConfig
  isOpen : Bool := true
  /-- A failure that came too late and that no command has read. -/
  late : Option LateFailure := none

/-- The handle after its owner has waited: what was on its way has arrived. -/
def Tx.settled (tx : Tx) : Tx :=
  { tx with late := tx.late.map fun late => { late with arrived := true } }

/-- A computation on a handle and the world around it. -/
abbrev TxStep (δ μ α : Type) : Type := Fallible (World δ μ × Tx) Event α

namespace Tx

variable {δ μ α : Type}

/-- Whether a transaction was concluded. -/
def isDone (tx : Tx) : Bool := !tx.isOpen

/-- The log record of a statement. -/
def statementRecord (config : StatementConfig) (sql : String) (args : List Arg) : LogRecord :=
  ⟨config.logLevel, "sql: " ++ sql ++ " args: " ++ Arg.describeAll args⟩

/-- The log record of a plan within its budget. -/
def planRecord (cost budget : Float) : LogRecord :=
  ⟨.trace, "plan cost " ++ FloatNotation.positional.render cost ++ " within budget "
    ++ FloatNotation.positional.render budget⟩

/-- The statement that explains another one. -/
def explainSql (sql : String) : String := "EXPLAIN (FORMAT JSON) " ++ sql

/-- The handle as it is. -/
def current : TxStep δ μ Tx := ExceptT.lift (Step.gets Prod.snd)

/-- A record in the log. -/
def log (record : LogRecord) : TxStep δ μ Unit := ExceptT.lift (Step.emit (.logged record))

/-- Leave a failure on the connection, or take it away. -/
def setLate (late : Option LateFailure) : Step (World δ μ × Tx) Event Unit :=
  Step.modify fun (w, tx) => (w, { tx with late })

/-- A command on a connection where **no failure waits**, under a deadline. -/
def exchange (event : Command → Reply → Event) (db : Database δ) (deadline : Option Instant)
    (command : Command) : Step (World δ μ × Tx) Event (Except Error Answer) := do
  match ← Step.onWorld (sendBefore event db deadline command) with
  | .unsent => return .error .deadlineExceeded
  | .answered reply => return reply.answer
  | .late reply =>
    setLate reply.lateFailure?
    return .error .deadlineExceeded

/-- A **failure that waits** read instead of the answer to a command, which is not sent. -/
def readLate (late : LateFailure) (deadline : Option Instant) :
    Step (World δ μ × Tx) Event (Except Error Answer) := do
  let (w, _) ← Step.get
  if late.isReadBefore deadline w.clock then
    setLate none
    return .error (.client late.cause)
  else return .error .deadlineExceeded

/-- A command on the connection of an open transaction, under the deadline of a context. -/
def query (event : Command → Reply → Event) (db : Database δ) (ctx : Context)
    (command : Command) : TxStep δ μ Answer := do
  let tx ← current
  if tx.isOpen then
    match tx.late with
    | none => ExceptT.mk (exchange event db ctx.deadline command)
    | some late => ExceptT.mk (readLate late ctx.deadline)
  else throw .txDone

/-- The first row of an answer. -/
def firstRow (answer : Answer) : Except Error Row :=
  match answer.rows with
  | row :: _ => .ok row
  | [] => .error (.client .rowNotFound)

/-- The **check of a plan's cost.**  Without a budget there is nothing to check; otherwise the
statement is explained, and the first cell of the first row is held against the budget. -/
def checkPlanCost (db : Database δ) (ctx : Context) (sql : String) (args : List Arg) :
    TxStep δ μ Unit := do
  let tx ← current
  match tx.config.planBudget ctx with
  | none => return ()
  | some budget =>
    let answer ← query .probed db ctx (.statement (explainSql sql) args)
    let row ← ExceptT.mk (pure (firstRow answer))
    let document ← ExceptT.mk (pure (row.readJson 0))
    let cost ← ExceptT.mk (pure (Plan.enforce budget sql document))
    log (planRecord cost budget)

/-- A **statement**: logged, checked, executed, and its answer read. -/
def statement (db : Database δ) (read : Answer → Except Error α) (ctx : Context) (sql : String)
    (args : List Arg) : TxStep δ μ α := do
  let tx ← current
  log (statementRecord tx.config sql args)
  checkPlanCost db ctx sql args
  let answer ← query .executed db ctx (.statement sql args)
  ExceptT.mk (pure (read answer))

/-- The number of rows that a statement affects. -/
def execute (db : Database δ) : Context → String → List Arg → TxStep δ μ Nat :=
  statement db fun answer => .ok answer.rowsAffected

/-- All rows of a statement. -/
def fetchAll (db : Database δ) : Context → String → List Arg → TxStep δ μ (List Row) :=
  statement db fun answer => .ok answer.rows

/-- The first row of a statement, which must have one. -/
def fetchOne (db : Database δ) : Context → String → List Arg → TxStep δ μ Row :=
  statement db firstRow

/-- The first row of a statement, if it has one. -/
def fetchOptional (db : Database δ) : Context → String → List Arg → TxStep δ μ (Option Row) :=
  statement db fun answer => .ok answer.rows.head?

/-- All rows of a statement, **each decoded**, up to the first that cannot be. -/
def fetchAllAs (db : Database δ) (decode : Row → Except Error α) (ctx : Context) (sql : String)
    (args : List Arg) : TxStep δ μ (List α) := do
  let rows ← fetchAll db ctx sql args
  ExceptT.mk (pure (rows.mapM decode))

/-- The first row of a statement, decoded. -/
def fetchOneAs (db : Database δ) (decode : Row → Except Error α) (ctx : Context) (sql : String)
    (args : List Arg) : TxStep δ μ α := do
  let row ← fetchOne db ctx sql args
  ExceptT.mk (pure (decode row))

/-- The first row of a statement, decoded, if it has one. -/
def fetchOptionalAs (db : Database δ) (decode : Row → Except Error α) (ctx : Context)
    (sql : String) (args : List Arg) : TxStep δ μ (Option α) := do
  let row? ← fetchOptional db ctx sql args
  ExceptT.mk (pure (row?.mapM decode))

/-- A **batch of statements.**  It cannot be explained, so a budget refuses it. -/
def executeBatch (db : Database δ) (ctx : Context) (sql : String) : TxStep δ μ Unit := do
  let tx ← current
  log (statementRecord tx.config sql [])
  match tx.config.planBudget ctx with
  | some budget =>
    throw (.plan ("batch cannot be checked against plan cost budget "
      ++ FloatNotation.positional.render budget))
  | none =>
    let _ ← query .executed db ctx (.batch sql)
    return ()

/-- The handle is closed, and its connection given back. -/
def close : Step (World δ μ × Tx) Event Unit :=
  Step.modify fun (w, tx) => (w, { tx with isOpen := false, late := none })

/-- What comes of the command that concludes a transaction: the failure that waits on the
connection, or else the answer of the database. -/
def conclusion (db : Database δ) (command : Command) :
    Option LateFailure → Step (World δ μ) Event (Except Error Answer)
  | some late => pure (.error (.client late.cause))
  | none => do
    let reply ← send db command
    return reply.answer

/-- Close the handle and send the command that concludes its transaction.  A command that fails is
followed by a rollback. -/
def conclude (db : Database δ) (command : Command) : TxStep δ μ Unit := do
  let tx ← current
  if tx.isOpen then
    ExceptT.lift close
    match ← ExceptT.lift (Step.onWorld (conclusion db command tx.late)) with
    | .ok _ => return ()
    | .error error =>
      let _ ← ExceptT.lift (Step.onWorld (send db .rollback))
      throw error
  else throw .txDone

/-- Commit the transaction. -/
def commit (db : Database δ) : TxStep δ μ Unit := conclude db .commit

/-- Roll the transaction back. -/
def rollback (db : Database δ) : TxStep δ μ Unit := conclude db .rollback

/-- The **handle goes out of scope**: a transaction that is still open is rolled back, whatever the
database answers. -/
def release (db : Database δ) : Step (World δ μ × Tx) Event Unit := do
  let (_, tx) ← Step.get
  if tx.isOpen then
    close
    let _ ← Step.onWorld (send db .rollback)
    return ()
  else return ()

/-! ### What the operations come to

The equations below give each operation on a handle that is open, and on one that is not, so that
nothing else has to look inside the operations. -/

section Equations

variable {db : Database δ} {w : World δ μ} {tx : Tx}

@[simp] theorem current_run : (current : TxStep δ μ Tx).run (w, tx) = ⟨.ok tx, (w, tx), []⟩ := by
  simp [current]

@[simp] theorem log_run (record : LogRecord) (p : World δ μ × Tx) :
    (log record : TxStep δ μ Unit).run p = ⟨.ok (), p, [.logged record]⟩ := by
  simp [log]

/-- A statement **whose result is decoded** is a statement with a reading of its own. -/
theorem statement_bind {β : Type} (read : Answer → Except Error α) (decode : α → Except Error β)
    (ctx : Context) (sql : String) (args : List Arg) :
    (do
      let result ← (statement db read ctx sql args : TxStep δ μ α)
      ExceptT.mk (pure (decode result))) =
      statement db (fun answer => (read answer).bind decode) ctx sql args := by
  have decoded (answer : Answer) :
      ((ExceptT.mk (pure (read answer)) : TxStep δ μ α) >>= fun result =>
        ExceptT.mk (pure (decode result))) = ExceptT.mk (pure ((read answer).bind decode)) := by
    cases read answer <;> rfl
  simp only [statement, bind_assoc, decoded]

theorem fetchAllAs_eq (decode : Row → Except Error α) (ctx : Context) (sql : String)
    (args : List Arg) :
    (fetchAllAs db decode ctx sql args : TxStep δ μ (List α)) =
      statement db (fun answer => answer.rows.mapM decode) ctx sql args :=
  statement_bind _ _ ctx sql args

theorem fetchOneAs_eq (decode : Row → Except Error α) (ctx : Context) (sql : String)
    (args : List Arg) :
    (fetchOneAs db decode ctx sql args : TxStep δ μ α) =
      statement db (fun answer => (firstRow answer).bind decode) ctx sql args :=
  statement_bind _ _ ctx sql args

theorem fetchOptionalAs_eq (decode : Row → Except Error α) (ctx : Context) (sql : String)
    (args : List Arg) :
    (fetchOptionalAs db decode ctx sql args : TxStep δ μ (Option α)) =
      statement db (fun answer => answer.rows.head?.mapM decode) ctx sql args :=
  statement_bind _ _ ctx sql args

theorem query_of_closed (event : Command → Reply → Event) (ctx : Context) (command : Command)
    (h : tx.isOpen = false) :
    (query event db ctx command).run (w, tx) = ⟨.error .txDone, (w, tx), []⟩ := by
  rw [query, Fallible.run_bind_of_ok (a := tx) (by rw [current_run]), current_run]
  simp [h]

/-- With no failure waiting, a command is sent under the deadline of its context. -/
theorem query_of_open (event : Command → Reply → Event) (ctx : Context) (command : Command)
    (h : tx.isOpen = true) (hl : tx.late = none) :
    (query event db ctx command).run (w, tx) = exchange event db ctx.deadline command (w, tx) := by
  rw [query, Fallible.run_bind_of_ok (a := tx) (by rw [current_run]), current_run]
  simp [h, hl]

/-- A failure that waits is read instead of the answer, and nothing is sent. -/
theorem query_of_late (event : Command → Reply → Event) (ctx : Context) (command : Command)
    {late : LateFailure} (h : tx.isOpen = true) (hl : tx.late = some late) :
    (query event db ctx command).run (w, tx) =
      if late.isReadBefore ctx.deadline w.clock then
        ⟨.error (.client late.cause), (w, { tx with late := none }), []⟩
      else ⟨.error .deadlineExceeded, (w, tx), []⟩ := by
  rw [query, Fallible.run_bind_of_ok (a := tx) (by rw [current_run]), current_run]
  by_cases hr : late.isReadBefore ctx.deadline w.clock <;> simp [h, hl, hr, readLate, setLate]

/-- A handle that is not open cannot be concluded, and nothing is sent. -/
theorem conclude_of_closed (command : Command) (h : tx.isOpen = false) :
    (conclude db command).run (w, tx) = ⟨.error .txDone, (w, tx), []⟩ := by
  rw [conclude, Fallible.run_bind_of_ok (a := tx) (by rw [current_run]), current_run]
  simp [h]

/-- An open handle is closed whatever comes of the command; a command that fails is followed by a
rollback. -/
theorem conclude_of_open (command : Command) (h : tx.isOpen = true) :
    (conclude db command).run (w, tx) =
      let sent := conclusion db command tx.late w
      match sent.result with
      | .ok _ => ⟨.ok (), (sent.state, { tx with isOpen := false, late := none }), sent.trace⟩
      | .error error =>
        let undone := send db .rollback sent.state
        ⟨.error error, (undone.state, { tx with isOpen := false, late := none }),
          sent.trace ++ undone.trace⟩ := by
  rw [conclude, Fallible.run_bind_of_ok (a := tx) (by rw [current_run]), current_run]
  simp only [h, if_true]
  rw [Fallible.run_bind_of_ok (a := ()) (by simp)]
  rw [Fallible.run_bind_of_ok (a := (conclusion db command tx.late w).result) (by simp [close])]
  simp only [close, Fallible.run_lift_apply, Step.modify_apply, Step.onWorld_apply,
    List.nil_append]
  generalize conclusion db command tx.late w = sent
  cases hs : sent.result with
  | ok a => simp
  | error error =>
    simp only
    rw [Fallible.run_bind_of_ok (a := (send db .rollback sent.state).result) (by simp)]
    simp

theorem release_of_closed (h : tx.isOpen = false) :
    release db (w, tx) = ⟨(), (w, tx), []⟩ := by
  simp [release, h]

theorem release_of_open (h : tx.isOpen = true) :
    release db (w, tx) =
      let undone := send db .rollback w
      ⟨(), (undone.state, { tx with isOpen := false, late := none }), undone.trace⟩ := by
  simp [release, close, h]

end Equations

end Tx

end TxRetry.Postgres
