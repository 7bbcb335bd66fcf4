import TxRetry.Proofs.Postgres.Connector
import TxRetry.Proofs.Postgres.Statement

/-!
# Opening a transaction, case by case

A transaction is handed out only after its modes and its setup batch were accepted.  This module
lists the ways in which that can go, with all events; whatever else is proved of transactions that
are opened is read off the lists.

## Main definitions

* `Connector.modeCommand`, `Connector.batchFor` — the command that sets the modes of a transaction,
  and the setup batch that follows it
* `Tx.Failing` — a command that fails on a handle where nothing waits
* `Connector.SetUpFully` — what happened when a transaction was handed out
* `Connector.Stopped` — what happened when none was
* `Connector.Opening` — the ways in which opening a transaction goes

## Main statements

* `Connector.setUp_eq` — the setup as a chain of computations
* `Connector.opening_begin` — every opening goes in one of the ways
* `Connector.setUpFully_of_returned`, `Connector.stopped_of_begin` — the two ways, told apart by the
  result
-/

namespace TxRetry

/-- The error or the panic that **stopped something**, where a value was expected. -/
def Ending.stopped {α : Type} (stop : Ending Empty) : Ending α := stop.map Empty.elim

theorem Ending.stopped_ne_returned {α : Type} (stop : Ending Empty) (value : α) :
    stop.stopped ≠ .returned value := by
  cases stop with
  | returned value => exact value.elim
  | failed error => nofun
  | panicked payload => nofun

theorem Ending.stopped_injective {α : Type} {stop stop' : Ending Empty}
    (same : (stop.stopped : Ending α) = stop'.stopped) : stop = stop' := by
  cases stop with
  | returned value => exact value.elim
  | failed error =>
      cases stop' with
      | returned value => exact value.elim
      | failed error' => exact congrArg _ (Ending.failed.inj same)
      | panicked payload' => cases same
  | panicked payload =>
      cases stop' with
      | returned value => exact value.elim
      | failed error' => cases same
      | panicked payload' => exact congrArg _ (Ending.panicked.inj same)

namespace Postgres

/-- A reply that gives an answer was accepted. -/
theorem Reply.accepted_of_answer {reply : Reply} {answer : Answer}
    (answered : reply.answer = .ok answer) : reply.accepted = true := by
  obtain ⟨outcome, delay⟩ := reply
  cases outcome with
  | ok => rfl
  | error | lost => cases answered

/-- A reply that gives an error was not accepted. -/
theorem Reply.refused_of_answer {reply : Reply} {error : Error}
    (failed : reply.answer = .error error) : reply.accepted = false := by
  obtain ⟨outcome, delay⟩ := reply
  cases outcome with
  | ok => cases failed
  | error | lost => rfl

variable {δ μ : Type} {db : Database δ} {ctx : Context}

/-! ### A command that fails -/

namespace Tx

/-- A **command that fails on a handle where nothing waits**, with its error and what the database
executed. -/
inductive Failing (db : Database δ) (deadline : Option Instant) (command : Command)
    (w : World δ μ) : Error → List Event → Prop
  /-- The deadline had come, and the command was not sent. -/
  | overdue (due : isDue deadline w.clock = true) :
      Failing db deadline command w .deadlineExceeded []
  /-- The database refused the command in time. -/
  | refused {error} (early : isDue deadline w.clock = false)
      (timely : isDue deadline (w.afterSending db command).clock = false)
      (answer : (w.replyTo db command).answer = .error error) :
      Failing db deadline command w error [.executed command (w.replyTo db command)]
  /-- The reply came at the deadline or after it. -/
  | late (early : isDue deadline w.clock = false)
      (due : isDue deadline (w.afterSending db command).clock = true) :
      Failing db deadline command w .deadlineExceeded [.executed command (w.replyTo db command)]

variable {command : Command} {w : World δ μ} {tx : Tx}

/-- A query that fails on an open handle where nothing waits leaves the handle open. -/
theorem failing_of_query {error : Error} {run : Run (World δ μ × Tx) Event (Except Error Answer)}
    (opened : tx.isOpen = true) (free : tx.late = none)
    (queried : Queried .executed db ctx command w tx run) (failed : run.result = .error error) :
    Failing db ctx.deadline command w error run.trace ∧ run.state.2.isOpen = true := by
  cases queried with
  | concluded closed =>
      rw [opened] at closed
      cases closed
  | overdue _ due =>
      cases failed
      exact ⟨.overdue due, opened⟩
  | overtaken _ waiting =>
      rw [free] at waiting
      cases waiting
  | answered _ _ early timely => exact ⟨.refused early timely failed, opened⟩
  | late _ _ early due =>
      cases failed
      exact ⟨.late early due, opened⟩

end Tx

namespace Connector

variable {connector : Connector μ} {w : World δ μ}

/-! ### What a transaction is set up with -/

/-- The isolation level that a transaction **asks for**: that of the context or else the
configured one. -/
def levelFor (connector : Connector μ) (ctx : Context) : IsolationLevel :=
  ctx.isolation.getD connector.config.isolation

/-- The access mode of a transaction: that of the context or else the configured one. -/
def accessFor (connector : Connector μ) (ctx : Context) : AccessMode :=
  ctx.accessMode.getD connector.config.accessMode

/-- The words by which the database knows an isolation level. -/
def levelWords : IsolationLevel → String
  | .readCommitted => "READ COMMITTED"
  | .repeatableRead => "REPEATABLE READ"
  | .serializable => "SERIALIZABLE"

/-- The words by which the database knows an access mode. -/
def accessWords : AccessMode → String
  | .readWrite => "READ WRITE"
  | .readOnly => "READ ONLY"

/-- The text that sets **the modes of a transaction**, written out. -/
def modeText (connector : Connector μ) (ctx : Context) : String :=
  "SET TRANSACTION ISOLATION LEVEL " ++ levelWords (connector.levelFor ctx) ++ ", "
    ++ accessWords (connector.accessFor ctx)

theorem levelWords_eq (isolation : IsolationLevel) : isolation.sql = levelWords isolation := by
  cases isolation <;> rfl

theorem accessWords_eq (mode : AccessMode) : mode.sql = accessWords mode := by
  cases mode <;> rfl

/-- The connector **sets the modes by that text.** -/
theorem modeSql_eq (isolation : IsolationLevel) (mode : AccessMode) :
    modeSql isolation mode =
      "SET TRANSACTION ISOLATION LEVEL " ++ levelWords isolation ++ ", " ++ accessWords mode := by
  rw [← levelWords_eq, ← accessWords_eq]
  unfold modeSql
  rfl

/-- The command that sets the modes of a transaction. -/
def modeCommand (connector : Connector μ) (ctx : Context) : Command :=
  .statement (connector.modeText ctx) []

/-- Whether the **policy** forbids the transaction that a context asks for. -/
def forbids (connector : Connector μ) (ctx : Context) : Bool :=
  connector.config.requireSerializable && connector.levelFor ctx != .serializable

theorem isolationFor_eq (connector : Connector μ) (ctx : Context) :
    connector.isolationFor ctx =
      if connector.forbids ctx then .error (.isolationPolicy (connector.levelFor ctx))
      else .ok (connector.levelFor ctx) := rfl

/-- The world in which the transaction was begun **and its modes were set.** -/
def afterModes (connector : Connector μ) (db : Database δ) (ctx : Context) (w : World δ μ) :
    World δ μ :=
  (w.afterSending db .begin).afterSending db (connector.modeCommand ctx)

/-- The **setup batch** of a transaction, computed at the moment at which its modes are set. -/
def batchFor (connector : Connector μ) (db : Database δ) (ctx : Context) (w : World δ μ) :
    Ending (Option String) :=
  setupBatch ctx connector.beginHook connector.setupOptions (connector.afterModes db ctx w).clock

/-- The setup batch sent, if there is one. -/
def sendBatch (db : Database δ) (ctx : Context) :
    Option String → Action (World δ μ × Tx) Event Unit
  | none => pure ()
  | some batch => Action.ofFallible (Tx.executeBatch db ctx.withoutCostCheck batch).run

/-- The setup batch computed, and sent if there is one. -/
def batchStage (connector : Connector μ) (db : Database δ) (ctx : Context) :
    Action (World δ μ × Tx) Event Unit := do
  let (world, _) ← Action.ofStep Step.get
  let batch? ← Action.ended
    (setupBatch ctx connector.beginHook connector.setupOptions world.clock)
  sendBatch db ctx batch?

/-- The setup **in two stages**: the modes, and the batch. -/
theorem setUp_eq (connector : Connector μ) (db : Database δ) (ctx : Context) :
    connector.setUp db ctx (connector.levelFor ctx) = (do
      let _ ← Action.ofFallible
        (Tx.execute db ctx.withoutCostCheck (connector.modeText ctx) []).run
      connector.batchStage db ctx) := by
  have worded : modeSql (connector.levelFor ctx) (connector.accessFor ctx) =
      connector.modeText ctx := modeSql_eq _ _
  rw [← worded]
  unfold setUp batchStage
  congr 1

/-! ### The events of an opening -/

/-- The record of a setup statement, at the configured level. -/
def setupRecord (connector : Connector μ) (sql : String) : Event :=
  .logged (recordOf connector.config.statementLogLevel sql [])

/-- The events of a transaction being begun, with the reply of the database. -/
def beginEvents (db : Database δ) (w : World δ μ) : List Event :=
  [.executed .begin (w.replyTo db .begin)]

/-- The events of the modes being set, with the reply. -/
def modeEvents (connector : Connector μ) (db : Database δ) (ctx : Context) (w : World δ μ) :
    List Event :=
  [connector.setupRecord (connector.modeText ctx),
    .executed (connector.modeCommand ctx)
      ((w.afterSending db .begin).replyTo db (connector.modeCommand ctx))]

/-- The events of the setup batch being executed, if there is one, with the reply. -/
def batchEvents (connector : Connector μ) (db : Database δ) (ctx : Context) (w : World δ μ) :
    Option String → List Event
  | none => []
  | some batch => [connector.setupRecord batch,
      .executed (.batch batch) ((connector.afterModes db ctx w).replyTo db (.batch batch))]

/-- The database accepted that a transaction was **begun and its modes set.** -/
structure ModesSet (connector : Connector μ) (db : Database δ) (ctx : Context) (w : World δ μ) :
    Prop where
  live : w.poolClosed = false
  allowed : connector.forbids ctx = false
  begun : (w.replyTo db .begin).accepted = true
  modes : ((w.afterSending db .begin).replyTo db (connector.modeCommand ctx)).accepted = true

/-- What happened when a transaction was **handed out**: the database accepted its beginning, its
modes and its setup batch, if there is one, in this order. -/
inductive SetUpFully (connector : Connector μ) (db : Database δ) (ctx : Context) (w : World δ μ) :
    List Event → Prop
  | intro {batch?} (modesSet : ModesSet connector db ctx w)
      (computed : connector.batchFor db ctx w = .returned batch?)
      (accepted : ∀ batch ∈ batch?,
        ((connector.afterModes db ctx w).replyTo db (.batch batch)).accepted = true) :
      SetUpFully connector db ctx w
        (beginEvents db w ++ connector.modeEvents db ctx w ++ connector.batchEvents db ctx w batch?)

/-- What happened when **no transaction was handed out**, with the error or the panic.  A
transaction that was begun is rolled back. -/
inductive Stopped (connector : Connector μ) (db : Database δ) (ctx : Context) (w : World δ μ) :
    List Event → Ending Empty → Prop
  /-- The pool is closed, and nothing was sent. -/
  | poolClosed (closed : w.poolClosed = true) :
      Stopped connector db ctx w [] (.failed (.client .poolClosed))
  /-- The policy forbids the transaction, and nothing was sent. -/
  | forbidden (live : w.poolClosed = false) (forbids : connector.forbids ctx = true) :
      Stopped connector db ctx w [] (.failed (.isolationPolicy (connector.levelFor ctx)))
  /-- The database refused to begin a transaction. -/
  | unbegun {error} (live : w.poolClosed = false) (allowed : connector.forbids ctx = false)
      (refused : (w.replyTo db .begin).answer = .error error) :
      Stopped connector db ctx w (beginEvents db w) (.failed error)
  /-- The modes were not set. -/
  | modesUnset {error sent undone} (live : w.poolClosed = false)
      (allowed : connector.forbids ctx = false)
      (begun : (w.replyTo db .begin).accepted = true)
      (failing : Tx.Failing db ctx.deadline (connector.modeCommand ctx) (w.afterSending db .begin) error
        sent) :
      Stopped connector db ctx w
        (beginEvents db w ++ connector.setupRecord (connector.modeText ctx) :: sent ++
          [.executed .rollback undone]) (.failed error)
  /-- The begin hook failed or panicked, and no batch was sent. -/
  | hookStopped {stop undone} (modesSet : ModesSet connector db ctx w)
      (stopped : connector.batchFor db ctx w = stop.stopped) :
      Stopped connector db ctx w
        (beginEvents db w ++ connector.modeEvents db ctx w ++ [.executed .rollback undone]) stop
  /-- The setup batch was not executed. -/
  | batchFailed {batch error sent undone} (modesSet : ModesSet connector db ctx w)
      (computed : connector.batchFor db ctx w = .returned (some batch))
      (failing : Tx.Failing db ctx.deadline (.batch batch) (connector.afterModes db ctx w) error sent) :
      Stopped connector db ctx w
        (beginEvents db w ++ connector.modeEvents db ctx w ++ connector.setupRecord batch :: sent ++
          [.executed .rollback undone]) (.failed error)

/-- The **ways in which opening a transaction goes**, with its result, its final state and its
events. -/
inductive Opening (connector : Connector μ) (db : Database δ) (ctx : Context) (w : World δ μ) :
    Run (World δ μ) Event (Ending Tx) → Prop
  | opened {after events} (setUp : SetUpFully connector db ctx w events) :
      Opening connector db ctx w ⟨.returned { config := connector.statementConfig }, after, events⟩
  | stopped {after events stop} (stopped : Stopped connector db ctx w events stop) :
      Opening connector db ctx w ⟨stop.stopped, after, events⟩

/-! ### Every opening goes in one of these ways -/

/-- No budget applies to the setup, whatever the configuration says. -/
theorem planBudget_withoutCostCheck (config : StatementConfig) (ctx : Context) :
    config.planBudget ctx.withoutCostCheck = none := rfl

/-- The handle that a transaction starts with. -/
def openHandle (connector : Connector μ) : Tx := { config := connector.statementConfig }

/-- A setup statement on a fresh handle: its record, then the query. -/
theorem execute_unchecked_apply (db : Database δ) (ctx : Context) (sql : String)
    (args : List Arg) (tx : Tx) (w : World δ μ) :
    Action.ofFallible (Tx.execute db ctx.withoutCostCheck sql args).run (w, tx) =
      let asked := (Tx.query .executed db ctx.withoutCostCheck (.statement sql args)).run (w, tx)
      ⟨.ofExcept (asked.result.bind fun answer => .ok answer.rowsAffected), asked.state,
        .logged (recordOf tx.config.logLevel sql args) :: asked.trace⟩ := by
  rw [Action.ofFallible_apply, Tx.execute,
    Tx.statement_of_unchecked _ (planBudget_withoutCostCheck tx.config ctx), Tx.statementRecord_eq]

/-- The setup batch on a fresh handle: its record, then the query. -/
theorem sendBatch_apply (batch : String) (tx : Tx) (w : World δ μ) :
    sendBatch db ctx (some batch) (w, tx) =
      let asked := (Tx.query .executed db ctx.withoutCostCheck (.batch batch)).run (w, tx)
      ⟨.ofExcept (asked.result.map fun _ => ()), asked.state,
        .logged (recordOf tx.config.logLevel batch []) :: asked.trace⟩ := by
  rw [sendBatch, Action.ofFallible_apply,
    Tx.executeBatch_of_unchecked (planBudget_withoutCostCheck tx.config ctx), Tx.statementRecord_eq]

section Stages

/-- How a stage of the setup leaves a transaction: **set up fully, or stopped and open.** -/
def StageOutcome (connector : Connector μ) (db : Database δ) (ctx : Context) (w : World δ μ)
    (before : List Event) (run : Run (World δ μ × Tx) Event (Ending Unit)) : Prop :=
  (run.result = .returned () ∧ run.state.2 = connector.openHandle ∧
      SetUpFully connector db ctx w (before ++ run.trace)) ∨
    ∃ stop : Ending Empty, run.result = stop.stopped ∧ run.state.2.isOpen = true ∧
      ∀ undone, Stopped connector db ctx w (before ++ run.trace ++ [.executed .rollback undone]) stop

/-- An earlier stage moved from what came before into the run. -/
theorem StageOutcome.prepend {before stage : List Event}
    {run : Run (World δ μ × Tx) Event (Ending Unit)}
    (outcome : StageOutcome connector db ctx w (before ++ stage) run) :
    StageOutcome connector db ctx w before ⟨run.result, run.state, stage ++ run.trace⟩ := by
  unfold StageOutcome at outcome ⊢
  simpa only [List.append_assoc] using outcome

/-- The stage of the batch, after the modes were set. -/
theorem batchStage_outcome (modesSet : ModesSet connector db ctx w) :
    StageOutcome connector db ctx w (beginEvents db w ++ connector.modeEvents db ctx w)
      (connector.batchStage db ctx (connector.afterModes db ctx w, connector.openHandle)) := by
  have looked : connector.batchStage db ctx (connector.afterModes db ctx w, connector.openHandle) =
      (Action.ended (connector.batchFor db ctx w) >>= sendBatch db ctx)
        (connector.afterModes db ctx w, connector.openHandle) := by
    unfold batchStage
    rw [Action.bind_of_returned rfl]
    rfl
  rw [looked]
  cases computed : connector.batchFor db ctx w with
  | failed error =>
      rw [Action.bind_of_failed rfl]
      refine .inr ⟨.failed error, rfl, rfl, fun undone => ?_⟩
      show Stopped connector db ctx w (_ ++ [] ++ _) _
      rw [List.append_nil]
      exact .hookStopped modesSet computed
  | panicked payload =>
      rw [Action.bind_of_panicked rfl]
      refine .inr ⟨.panicked payload, rfl, rfl, fun undone => ?_⟩
      show Stopped connector db ctx w (_ ++ [] ++ _) _
      rw [List.append_nil]
      exact .hookStopped modesSet computed
  | returned batch? =>
      rw [Action.bind_of_returned rfl]
      show StageOutcome connector db ctx w _
        (sendBatch db ctx batch? (connector.afterModes db ctx w, connector.openHandle))
      cases batch? with
      | none => exact .inl ⟨rfl, rfl, .intro modesSet computed (by simp)⟩
      | some batch =>
          have batchQuery := Tx.queried_query .executed db ctx.withoutCostCheck (.batch batch)
            (connector.afterModes db ctx w) connector.openHandle
          rw [sendBatch_apply]
          dsimp only
          generalize (Tx.query .executed db ctx.withoutCostCheck (.batch batch)).run
            (connector.afterModes db ctx w, connector.openHandle) = asked at batchQuery ⊢
          cases answered : asked.result with
          | error error =>
              obtain ⟨failing, opened⟩ := Tx.failing_of_query rfl rfl batchQuery answered
              refine .inr ⟨.failed error, rfl, opened, fun undone => ?_⟩
              exact .batchFailed modesSet computed failing
          | ok answer =>
              obtain ⟨accepted, -, after, sent⟩ := batchQuery.of_ok answered
              rw [after, sent]
              refine .inl ⟨rfl, rfl, .intro modesSet computed ?_⟩
              intro batch' same
              cases same
              exact Reply.accepted_of_answer accepted

/-- The stage of the modes, and what follows, after the transaction was begun. -/
theorem setUp_outcome (live : w.poolClosed = false) (allowed : connector.forbids ctx = false)
    (begun : (w.replyTo db .begin).accepted = true) :
    StageOutcome connector db ctx w (beginEvents db w)
      (connector.setUp db ctx (connector.levelFor ctx)
        (w.afterSending db .begin, connector.openHandle)) := by
  have modeQuery := Tx.queried_query .executed db ctx.withoutCostCheck (connector.modeCommand ctx)
    (w.afterSending db .begin) connector.openHandle
  have setting := execute_unchecked_apply db ctx (connector.modeText ctx) []
    connector.openHandle (w.afterSending db .begin)
  obtain ⟨asked, asking⟩ : ∃ asked, (Tx.query .executed db ctx.withoutCostCheck
    (connector.modeCommand ctx)).run (w.afterSending db .begin, connector.openHandle) = asked :=
      ⟨_, rfl⟩
  rw [asking] at modeQuery
  rw [show Command.statement (connector.modeText ctx) [] = connector.modeCommand ctx from rfl,
    asking] at setting
  dsimp only at setting
  rw [setUp_eq]
  cases answered : asked.result with
  | error error =>
      obtain ⟨failing, opened⟩ := Tx.failing_of_query rfl rfl modeQuery answered
      rw [answered] at setting
      rw [Action.bind_of_failed (by rw [setting]; rfl), setting]
      refine .inr ⟨.failed error, rfl, opened, fun undone => ?_⟩
      exact .modesUnset live allowed begun failing
  | ok answer =>
      obtain ⟨accepted, -, after, sent⟩ := modeQuery.of_ok answered
      have modesSet : ModesSet connector db ctx w :=
        ⟨live, allowed, begun, Reply.accepted_of_answer accepted⟩
      rw [answered, after, sent] at setting
      rw [Action.bind_of_returned (by rw [setting]; rfl), setting]
      exact (batchStage_outcome modesSet).prepend

/-- What stops the setup is handed on after the handle was released. -/
theorem setUpOrRelease_of_stopped {isolation : IsolationLevel} {p : World δ μ × Tx}
    {stop : Ending Empty} (result : (connector.setUp db ctx isolation p).result = stop.stopped) :
    connector.setUpOrRelease db ctx isolation p =
      let setUp := connector.setUp db ctx isolation p
      let released := Tx.release db setUp.state
      ⟨stop.stopped, released.state, setUp.trace ++ released.trace⟩ := by
  unfold setUpOrRelease
  rw [Action.step_bind_apply, result]
  cases stop with
  | returned value => exact value.elim
  | failed error => simp [Ending.stopped, Ending.map]
  | panicked payload => simp [Ending.stopped, Ending.map]

/-- A handle that is set up is handed out. -/
theorem setUpOrRelease_of_returned {isolation : IsolationLevel} {p : World δ μ × Tx}
    (result : (connector.setUp db ctx isolation p).result = .returned ()) :
    connector.setUpOrRelease db ctx isolation p =
      let setUp := connector.setUp db ctx isolation p
      ⟨.returned setUp.state.2, setUp.state, setUp.trace⟩ := by
  unfold setUpOrRelease
  rw [Action.step_bind_apply, result]
  simp

/-- A transaction is handed out if it is set up fully, and otherwise **rolled back.** -/
theorem opening_of_outcome {p : World δ μ × Tx} {before : List Event}
    (outcome : StageOutcome connector db ctx w before
      (connector.setUp db ctx (connector.levelFor ctx) p)) :
    let run := connector.setUpOrRelease db ctx (connector.levelFor ctx) p
    Opening connector db ctx w ⟨run.result, run.state.1, before ++ run.trace⟩ := by
  rcases outcome with ⟨result, handle, setUp⟩ | ⟨stop, result, opened, stopped⟩
  · rw [setUpOrRelease_of_returned result]
    dsimp only
    rw [handle]
    exact .opened setUp
  · rw [setUpOrRelease_of_stopped result]
    dsimp only
    rw [Tx.release_of_open opened, ← List.append_assoc]
    exact .stopped (stopped _)

/-- **Every opening goes in one of the ways.** -/
theorem opening_begin (connector : Connector μ) (db : Database δ) (ctx : Context)
    (w : World δ μ) : Opening connector db ctx w (connector.begin db ctx w) := by
  unfold begin
  rw [Action.bind_of_returned (a := w) rfl]
  dsimp only
  cases live : w.poolClosed with
  | true => exact .stopped (.poolClosed live)
  | false =>
      rw [isolationFor_eq]
      cases allowed : connector.forbids ctx with
      | true => exact .stopped (.forbidden live allowed)
      | false =>
          simp only [Bool.false_eq_true, if_false]
          rw [Action.bind_of_returned (a := connector.levelFor ctx) rfl,
            Action.bind_of_returned (a := w.replyTo db .begin) rfl]
          cases answer : (w.replyTo db .begin).answer with
          | error error => exact .stopped (.unbegun live allowed answer)
          | ok rows =>
              have begun : (w.replyTo db .begin).accepted = true :=
                Reply.accepted_of_answer answer
              exact opening_of_outcome (setUp_outcome live allowed begun)

/-- A transaction that is **handed out** was set up fully. -/
theorem setUpFully_of_returned {handle : Tx} {after : World δ μ} {events : List Event}
    (opened : connector.begin db ctx w = ⟨.returned handle, after, events⟩) :
    SetUpFully connector db ctx w events ∧ handle = connector.openHandle := by
  have opening := opening_begin connector db ctx w
  generalize connector.begin db ctx w = run at opened opening
  cases opening with
  | opened setUp =>
      cases opened
      exact ⟨setUp, rfl⟩
  | @stopped _ _ stop =>
      exact absurd (congrArg Run.result opened) (stop.stopped_ne_returned handle)

/-- Every handle that is handed out **starts alike.** -/
theorem eq_openHandle_of_returned {handle : Tx}
    (opened : (connector.begin db ctx w).result = .returned handle) :
    handle = connector.openHandle := by
  have whole : connector.begin db ctx w =
      ⟨.returned handle, (connector.begin db ctx w).state, (connector.begin db ctx w).trace⟩ := by
    rw [← opened]
  exact (setUpFully_of_returned whole).2

/-- An opening that **hands out nothing** was stopped. -/
theorem stopped_of_begin {stop : Ending Empty} {after : World δ μ} {events : List Event}
    (unopened : connector.begin db ctx w = ⟨stop.stopped, after, events⟩) :
    Stopped connector db ctx w events stop := by
  have opening := opening_begin connector db ctx w
  generalize connector.begin db ctx w = run at unopened opening
  cases opening with
  | opened =>
      exact absurd (congrArg Run.result unopened).symm (stop.stopped_ne_returned _)
  | @stopped _ _ stop' stopped =>
      obtain rfl := Ending.stopped_injective (congrArg Run.result unopened)
      cases unopened
      exact stopped

end Stages

end Connector

end Postgres

end TxRetry
