import TxRetry.Proofs.Postgres.PlanGate

/-!
# Nothing runs unlogged

Whoever reads the log of a call finds every statement there that the database executed, in the order
in which they were executed, and finds it before it was sent.  This module says so of single
operations, of the openings of transactions and of whole calls.

## Main definitions

* `LogRecord.isStatement` — the log records of statements
* `statementRecordsIn`, `statementsIn` — the log records of statements among events, and the
  statements that the database executed
* `LogsAhead` — every statement that is issued is logged once, and none is executed before that
* `LoggedOnce` — what is expected of the events of one statement
* `Program.issued`, `Connector.openingIssued`, `Connector.commitIssued`, `Connector.issued` — the
  statements that are issued by a program, by an opening, by a commit, and by a whole call
* `Connector.NothingUnlogged` — what is expected of a call

## Main statements

* `Tx.statement_loggedOnce`, `Tx.executeBatch_loggedOnce` — statements and batches on whatever handle
* `Program.run_logsAhead`, `Connector.begin_logsAhead`, `Connector.attempt_logsAhead` — programs,
  openings and attempts
* `Connector.nothingUnlogged` — whole calls

## Design notes

**A statement is issued when an operation with it is performed,** whatever comes of that.  So what is
issued is read off the operations of the body and the hook and off the setup, and neither off the log
nor off the database.

**A record is known by its first letters,** since a reader of the log has nothing else to go by.  No
other record of the library begins as those of statements do.

**The log is ahead at every moment,** not only at the end.  So the statements are compared for every
initial part of the events: whatever was executed by then is among the statements that were logged by
then.
-/

namespace TxRetry

/-- Whether a log record is that of **a statement.** -/
def LogRecord.isStatement (record : LogRecord) : Bool := beginsWith "sql: " record.message

/-- A call by itself reports no statement. -/
theorem IsReport.isStatement_eq_false {record : LogRecord} (isReport : IsReport record) :
    record.isStatement = false := by
  cases isReport <;>
    simp [LogRecord.isStatement, beginsWith, List.isPrefixOf, Wording.retrying, Wording.givingUp,
      Wording.concludedByBody, Wording.rollbackSkipped, Wording.rollbackFailed, Wording.panicked]

namespace Postgres

theorem isStatement_recordOf (level : LogLevel) (sql : String) (args : List Arg) :
    (recordOf level sql args).isStatement = true := by
  simp [LogRecord.isStatement, recordOf, String.append_assoc]

/-- The check of plan costs reports no statement. -/
theorem Tx.isStatement_planRecord (cost budget : Float) :
    (planRecord cost budget).isStatement = false := by
  simp [LogRecord.isStatement, planRecord, beginsWith, List.isPrefixOf]

/-! ### Statements among the events -/

/-- The log record of a statement, if that is the event. -/
def Event.statementRecord? : Event → Option LogRecord
  | .logged record => if record.isStatement then some record else none
  | _ => none

/-- The statement that the database executed, with its arguments, if that is the event.  Explanations
and the beginnings and conclusions of transactions are none. -/
def Event.statement? : Event → Option (String × List Arg)
  | .executed (.statement sql args) _ => some (sql, args)
  | .executed (.batch sql) _ => some (sql, [])
  | _ => none

/-- The **log records of statements**, in order. -/
def statementRecordsIn (events : List Event) : List LogRecord :=
  events.filterMap Event.statementRecord?

/-- The **statements that the database executed**, in order. -/
def statementsIn (events : List Event) : List (String × List Arg) := events.filterMap Event.statement?

theorem statementRecordsIn_append (first second : List Event) :
    statementRecordsIn (first ++ second) = statementRecordsIn first ++ statementRecordsIn second :=
  List.filterMap_append

theorem statementsIn_append (first second : List Event) :
    statementsIn (first ++ second) = statementsIn first ++ statementsIn second :=
  List.filterMap_append

theorem statementsIn_sublist {before events : List Event} (early : before <+: events) :
    (statementsIn before).Sublist (statementsIn events) :=
  (early.filterMap Event.statement?).sublist

/-- **The log is ahead of the database**, where these statements were issued. -/
structure LogsAhead (level : LogLevel) (issued : List (String × List Arg)) (events : List Event) :
    Prop where
  /-- The log records of statements are those of the statements that were issued, each once and in
  order, with their texts and their arguments. -/
  recorded : statementRecordsIn events = issued.map fun s => recordOf level s.1 s.2
  /-- Up to every moment, the statements that were executed are part of those that were logged, in
  order. -/
  ahead : ∀ before, before <+: events →
    (statementsIn before).Sublist (issued.take (statementRecordsIn before).length)

section Logged

variable {level : LogLevel} {issued issued' : List (String × List Arg)}
variable {first second events : List Event}

/-- Where every statement that was issued was logged, as many records are in the log. -/
theorem LogsAhead.length_eq (logs : LogsAhead level issued events) :
    (statementRecordsIn events).length = issued.length := by
  rw [logs.recorded, List.length_map]

/-- At the end, what was executed is part of what was issued. -/
theorem LogsAhead.executed (logs : LogsAhead level issued events) :
    (statementsIn events).Sublist issued :=
  (logs.ahead events List.prefix_rfl).trans (List.take_sublist _ _)

/-- A moment in a sequence of two runs is one in the first run, or one in the second after the whole
first one. -/
theorem LogsAhead.append (early : LogsAhead level issued first)
    (late : LogsAhead level issued' second) :
    LogsAhead level (issued ++ issued') (first ++ second) where
  recorded := by rw [statementRecordsIn_append, early.recorded, late.recorded, List.map_append]
  ahead := by
    rintro before ⟨after, whole⟩
    rcases List.append_eq_append_iff.mp whole with ⟨rest, inFirst, -⟩ | ⟨begun, inSecond, rest⟩
    · rw [List.take_append]
      exact (early.ahead before ⟨rest, inFirst.symm⟩).trans (List.sublist_append_left _ _)
    · rw [inSecond, statementsIn_append, statementRecordsIn_append, List.length_append,
        early.length_eq, List.take_length_add_append]
      exact early.executed.append (late.ahead begun ⟨after, rest.symm⟩)

/-- Where no statement is logged and none is executed, none was issued. -/
theorem logsAhead_of_silent (unlogged : statementRecordsIn events = [])
    (unexecuted : statementsIn events = []) : LogsAhead level [] events where
  recorded := unlogged
  ahead before early := by
    have executed := statementsIn_sublist early
    rw [unexecuted] at executed
    exact executed.trans (List.nil_sublist _)

theorem logsAhead_nil : LogsAhead level [] [] := logsAhead_of_silent rfl rfl

/-- What issues nothing may follow. -/
theorem LogsAhead.append_silent (early : LogsAhead level issued first)
    (silent : LogsAhead level [] second) : LogsAhead level issued (first ++ second) := by
  have both := early.append silent
  rwa [List.append_nil] at both

/-- What a call itself reports is no statement. -/
theorem logsAhead_of_reports {records : List LogRecord}
    (reports : ∀ record ∈ records, IsReport record) : LogsAhead level [] (records.map .logged) := by
  refine logsAhead_of_silent ?_ ?_
  · rw [statementRecordsIn, List.filterMap_map, List.filterMap_eq_nil_iff]
    intro record among
    exact if_neg (by simp [(reports record among).isStatement_eq_false])
  · rw [statementsIn, List.filterMap_map, List.filterMap_eq_nil_iff]
    exact fun _ _ => rfl

/-- What is logged piece by piece is logged as a whole. -/
theorem logsAhead_flatMap {β : Type*} {pieces : β → List Event}
    {issues : β → List (String × List Arg)} (xs : List β)
    (each : ∀ x ∈ xs, LogsAhead level (issues x) (pieces x)) :
    LogsAhead level (xs.flatMap issues) (xs.flatMap pieces) := by
  induction xs with
  | nil => exact logsAhead_nil
  | cons x xs ih =>
      obtain ⟨first, rest⟩ := List.forall_mem_cons.mp each
      rw [List.flatMap_cons, List.flatMap_cons]
      exact first.append (ih rest)

end Logged

/-! ### One statement -/

/-- What is expected of **the events of one statement.** -/
structure LoggedOnce (level : LogLevel) (sql : String) (args : List Arg) (events : List Event) :
    Prop where
  /-- Its record comes first, with the text and the arguments, at the level of the handle. -/
  first : ∃ rest, events = .logged (recordOf level sql args) :: rest
  /-- No other statement is logged; in particular, no explanation is. -/
  once : statementRecordsIn events = [recordOf level sql args]
  /-- If any statement is executed, it is this one. -/
  executed : (statementsIn events).Sublist [(sql, args)]

theorem statementRecordsIn_cons (level : LogLevel) (sql : String) (args : List Arg)
    (rest : List Event) :
    statementRecordsIn (.logged (recordOf level sql args) :: rest) =
      recordOf level sql args :: statementRecordsIn rest :=
  List.filterMap_cons_some (if_pos (isStatement_recordOf level sql args))

/-- A record that is followed by explanations, their records and the statement itself. -/
theorem loggedOnce_cons {config : StatementConfig} {sql : String} {args : List Arg}
    {rest : List Event} (unlogged : statementRecordsIn rest = [])
    (executed : (statementsIn rest).Sublist [(sql, args)]) :
    LoggedOnce config.logLevel sql args
      (.logged (Tx.statementRecord config sql args) :: rest) := by
  rw [Tx.statementRecord_eq]
  refine ⟨⟨rest, rfl⟩, ?_, executed⟩
  rw [statementRecordsIn_cons, unlogged]

/-- **The record of a statement is there before anything else happens.** -/
theorem LoggedOnce.logsAhead {level : LogLevel} {sql : String} {args : List Arg}
    {events : List Event} (logged : LoggedOnce level sql args events) :
    LogsAhead level [(sql, args)] events where
  recorded := logged.once
  ahead before early := by
    obtain ⟨rest, rfl⟩ := logged.first
    rcases List.prefix_cons_iff.mp early with rfl | ⟨begun, rfl, inRest⟩
    · exact List.nil_sublist _
    · rw [statementRecordsIn_cons, List.length_cons, List.take_succ_cons, List.take_nil]
      exact (statementsIn_sublist inRest).trans logged.executed

variable {δ μ α : Type} {db : Database δ} {ctx : Context}

namespace Tx

variable {sql : String} {args : List Arg}

/-- A query logs nothing, and executes nothing but its command. -/
theorem Queried.statements {event : Command → Reply → Event} {command : Command} {w : World δ μ}
    {tx : Tx} {run : Run (World δ μ × Tx) Event (Except Error Answer)}
    (queried : Queried event db ctx command w tx run)
    (quiet : ∀ reply, (event command reply).statementRecord? = none) :
    statementRecordsIn run.trace = [] ∧
      (statementsIn run.trace = [] ∨ ∃ reply, statementsIn run.trace =
        statementsIn [event command reply]) := by
  rcases queried.trace_cases with silent | sent
  · rw [silent]
    exact ⟨rfl, .inl rfl⟩
  · rw [sent]
    refine ⟨?_, .inr ⟨_, rfl⟩⟩
    rw [statementRecordsIn, List.filterMap_cons_none (quiet _)]
    rfl

/-- An explanation is neither logged nor a statement of its own. -/
theorem query_probed_silent (db : Database δ) (ctx : Context) (command : Command)
    (p : World δ μ × Tx) :
    statementRecordsIn ((query .probed db ctx command).run p).trace = [] ∧
      statementsIn ((query .probed db ctx command).run p).trace = [] := by
  obtain ⟨unlogged, executed⟩ :=
    (queried_query .probed db ctx command p.1 p.2).statements fun _ => rfl
  refine ⟨unlogged, ?_⟩
  rcases executed with silent | ⟨reply, sent⟩
  · exact silent
  · exact sent

/-- A command that executes a statement executes nothing else, and logs nothing. -/
theorem query_executed_statements (db : Database δ) (ctx : Context) (command : Command)
    (shown : ∀ reply, (Event.executed command reply).statement? = some (sql, args))
    (p : World δ μ × Tx) :
    statementRecordsIn ((query .executed db ctx command).run p).trace = [] ∧
      (statementsIn ((query .executed db ctx command).run p).trace).Sublist [(sql, args)] := by
  obtain ⟨unlogged, executed⟩ :=
    (queried_query .executed db ctx command p.1 p.2).statements fun _ => rfl
  refine ⟨unlogged, ?_⟩
  rcases executed with silent | ⟨reply, sent⟩
  · rw [silent]
    exact List.nil_sublist _
  · rw [sent, statementsIn, List.filterMap_cons_some (shown reply)]
    exact List.Sublist.refl _

/-- **A statement is logged once**, before anything is sent, whatever comes of it. -/
theorem statement_loggedOnce (read : Answer → Except Error α) (p : World δ μ × Tx) :
    LoggedOnce p.2.config.logLevel sql args ((statement db read ctx sql args).run p).trace := by
  obtain ⟨w, tx⟩ := p
  have asked := fun q : World δ μ × Tx =>
    query_executed_statements db ctx (.statement sql args) (fun _ => rfl) q
  cases checked : tx.config.planBudget ctx with
  | none =>
      rw [statement_of_unchecked read checked]
      exact loggedOnce_cons (asked (w, tx)).1 (asked (w, tx)).2
  | some budget =>
      obtain ⟨probe, probed⟩ : ∃ probe,
        (query .probed db ctx (.statement (explainSql sql) args)).run (w, tx) = probe := ⟨_, rfl⟩
      obtain ⟨unlogged, unexecuted⟩ :=
        query_probed_silent db ctx (.statement (explainSql sql) args) (w, tx)
      rw [probed] at unlogged unexecuted
      cases passed : probe.result.bind (planCostOf budget sql) with
      | error error =>
          rw [statement_of_refused read checked probed passed]
          exact loggedOnce_cons unlogged (unexecuted ▸ List.nil_sublist _)
      | ok cost =>
          have planned : Event.statementRecord? (.logged (planRecord cost budget)) = none :=
            if_neg (by simp [isStatement_planRecord])
          rw [statement_of_admitted read checked probed passed]
          refine loggedOnce_cons ?_ ?_
          · rw [statementRecordsIn_append, unlogged, List.nil_append, statementRecordsIn,
              List.filterMap_cons_none planned]
            exact (asked probe.state).1
          · rw [statementsIn_append, unexecuted]
            exact (asked probe.state).2

/-- **A batch is logged once**, before it is sent, also if a budget refuses it. -/
theorem executeBatch_loggedOnce (p : World δ μ × Tx) :
    LoggedOnce p.2.config.logLevel sql [] ((executeBatch db ctx sql).run p).trace := by
  obtain ⟨w, tx⟩ := p
  cases checked : tx.config.planBudget ctx with
  | none =>
      obtain ⟨unlogged, executed⟩ :=
        query_executed_statements db ctx (.batch sql) (fun _ => rfl) (w, tx)
      rw [executeBatch_of_unchecked checked]
      exact loggedOnce_cons unlogged executed
  | some budget =>
      obtain ⟨error, refused⟩ := executeBatch_of_budget checked
      rw [refused]
      exact loggedOnce_cons rfl (List.nil_sublist _)

end Tx

/-! ### Programs -/

/-- What concludes a transaction is no statement, and is not logged. -/
theorem Tx.conclude_logsAhead {command : Command} {level : LogLevel}
    (other : ∀ reply, (Event.executed command reply).statement? = none) (p : World δ μ × Tx) :
    LogsAhead level [] ((conclude db command).run p).trace := by
  obtain ⟨w, tx⟩ := p
  cases opened : tx.isOpen with
  | false =>
      rw [conclude_of_closed command opened]
      exact logsAhead_nil
  | true =>
      have concluded : Conclusion tx command ((conclude db command).run (w, tx)) :=
        conclude_cases command opened
      generalize (conclude db command).run (w, tx) = run at concluded ⊢
      cases concluded with
      | accepted => exact logsAhead_of_silent rfl (List.filterMap_cons_none (other _))
      | refused => exact logsAhead_of_silent rfl (List.filterMap_cons_none (other _))
      | overtaken => exact logsAhead_of_silent rfl rfl

theorem Tx.release_logsAhead {level : LogLevel} (p : World δ μ × Tx) :
    LogsAhead level [] (release db p).trace := by
  obtain ⟨w, tx⟩ := p
  cases opened : tx.isOpen with
  | false =>
      rw [release_of_closed opened]
      exact logsAhead_nil
  | true =>
      rw [release_of_open opened]
      exact logsAhead_of_silent rfl rfl

/-- The statement that an operation **issues**, with its arguments, if it is one with a statement. -/
def Operation.issued (operation : Operation μ) : List (String × List Arg) :=
  operation.statement?.toList.map fun (_, sql, args) => (sql, args)

/-- An operation logs the statement that it issues. -/
theorem Operation.outcome_logsAhead (operation : Operation μ) (p : World δ μ × Tx) :
    LogsAhead p.2.config.logLevel operation.issued (operation.outcome db p).trace := by
  cases behind : operation.statement? with
  | some statement =>
      obtain ⟨ctx, sql, args⟩ := statement
      obtain ⟨_, read, same⟩ := outcome_of_statement behind p
      rw [issued, behind, same]
      exact (Tx.statement_loggedOnce read p).logsAhead
  | none =>
      rw [issued, behind]
      cases operation with
      | commit | rollback => exact Tx.conclude_logsAhead (fun _ => rfl) p
      | isDone | config | now | wait | memory | remember => exact logsAhead_nil
      | _ => cases behind

/-- The statements that a program **issues**, in order. -/
def Program.issued (db : Database δ) (program : Program μ α) (p : World δ μ × Tx) :
    List (String × List Arg) :=
  (program.performed db p).flatMap fun deed => deed.operation.issued

/-- **A program logs the statements that it issues**, each before it is executed. -/
theorem Program.run_logsAhead (db : Database δ) (program : Program μ α) (p : World δ μ × Tx) :
    LogsAhead p.2.config.logLevel (program.issued db p) (program.run db p).trace := by
  rw [run_trace_eq]
  refine logsAhead_flatMap _ fun deed among => ?_
  rw [← program.config_of_performed among]
  exact deed.operation.outcome_logsAhead deed.state

/-- The handle is configured as before after a program. -/
theorem Program.run_config_eq (program : Program μ α) (p : World δ μ × Tx) :
    (program.run db p).state.2.config = p.2.config := by
  induction program generalizing p with
  | finish ending => rfl
  | step operation next ih => exact (ih _ _).trans (operation.config_eq db p)

namespace Connector

variable {connector : Connector μ} {body : Context → Program μ α} {w : World δ μ}

/-! ### Openings -/

/-- The setup batch that is **issued**, if there is one at that moment. -/
def batchIssued (connector : Connector μ) (ctx : Context) (now : Instant) :
    List (String × List Arg) :=
  match setupBatch ctx connector.beginHook connector.setupOptions now with
  | .returned (some batch) => [(batch, [])]
  | _ => []

/-- The statements that **the setup of a transaction issues**: its modes, and the batch unless the
modes could not be set. -/
def setupIssued (connector : Connector μ) (db : Database δ) (ctx : Context) (p : World δ μ × Tx) :
    List (String × List Arg) :=
  (connector.modeText ctx, []) ::
    match (Tx.execute db ctx.withoutCostCheck (connector.modeText ctx) []).run p with
    | ⟨.ok _, (modesSet, _), _⟩ => connector.batchIssued ctx modesSet.clock
    | ⟨.error _, _, _⟩ => []

/-- The statements that **the opening of a transaction issues**: those of the setup, unless the pool is
closed, the policy forbids the transaction, or the database refuses to begin it. -/
def openingIssued (connector : Connector μ) (db : Database δ) (ctx : Context) (w : World δ μ) :
    List (String × List Arg) :=
  if w.poolClosed = false ∧ connector.forbids ctx = false ∧ (w.replyTo db .begin).accepted = true then
    connector.setupIssued db ctx (w.afterSending db .begin, connector.openHandle)
  else []

theorem batchStage_logsAhead (connector : Connector μ) (db : Database δ) (ctx : Context)
    (p : World δ μ × Tx) :
    LogsAhead p.2.config.logLevel (connector.batchIssued ctx p.1.clock)
      (connector.batchStage db ctx p).trace := by
  have looked : connector.batchStage db ctx p = (Action.ended
      (setupBatch ctx connector.beginHook connector.setupOptions p.1.clock) >>= sendBatch db ctx) p := by
    unfold batchStage
    rw [Action.bind_of_returned rfl]
    rfl
  rw [looked, batchIssued]
  cases setupBatch ctx connector.beginHook connector.setupOptions p.1.clock with
  | failed error =>
      rw [Action.bind_of_failed rfl]
      exact logsAhead_nil
  | panicked payload =>
      rw [Action.bind_of_panicked rfl]
      exact logsAhead_nil
  | returned batch? =>
      rw [Action.bind_of_returned rfl]
      show LogsAhead _ _ (sendBatch db ctx batch? p).trace
      cases batch? with
      | none => exact logsAhead_nil
      | some batch =>
          have logged : LoggedOnce p.2.config.logLevel batch []
              ((Tx.executeBatch db ctx.withoutCostCheck batch).run p).trace :=
            Tx.executeBatch_loggedOnce p
          rw [sendBatch, Action.ofFallible_apply]
          exact logged.logsAhead

/-- **The setup of a transaction** logs the statements that it issues. -/
theorem setUp_logsAhead (connector : Connector μ) (db : Database δ) (ctx : Context)
    (p : World δ μ × Tx) :
    LogsAhead p.2.config.logLevel (connector.setupIssued db ctx p)
      (connector.setUp db ctx (connector.levelFor ctx) p).trace := by
  have logged : LoggedOnce p.2.config.logLevel (connector.modeText ctx) []
      ((Tx.execute db ctx.withoutCostCheck (connector.modeText ctx) []).run p).trace :=
    Tx.statement_loggedOnce _ p
  have kept : ((Tx.execute db ctx.withoutCostCheck (connector.modeText ctx) []).run p).state.2.config =
      p.2.config := Tx.statement_config_eq _ p
  obtain ⟨⟨result, q, inside⟩, modes⟩ : ∃ modes,
    (Tx.execute db ctx.withoutCostCheck (connector.modeText ctx) []).run p = modes := ⟨_, rfl⟩
  rw [modes] at logged kept
  rw [setUp_eq, setupIssued, modes]
  cases result with
  | error error =>
      rw [Action.bind_of_failed (by rw [Action.ofFallible_apply, modes]; rfl),
        Action.ofFallible_apply, modes]
      exact logged.logsAhead
  | ok affected =>
      rw [Action.bind_of_returned (by rw [Action.ofFallible_apply, modes]; rfl),
        Action.ofFallible_apply, modes]
      have batch := batchStage_logsAhead connector db ctx q
      rw [show q.2.config = p.2.config from kept] at batch
      exact logged.logsAhead.append batch

/-- What is released after a setup that failed is no statement. -/
theorem setUpOrRelease_logsAhead (connector : Connector μ) (db : Database δ) (ctx : Context)
    (p : World δ μ × Tx) :
    LogsAhead p.2.config.logLevel (connector.setupIssued db ctx p)
      (connector.setUpOrRelease db ctx (connector.levelFor ctx) p).trace := by
  have setUp := setUp_logsAhead connector db ctx p
  unfold setUpOrRelease
  rw [Action.step_bind_apply]
  cases (connector.setUp db ctx (connector.levelFor ctx) p).result with
  | returned => exact setUp.append_silent logsAhead_nil
  | failed error => exact setUp.append_silent ((Tx.release_logsAhead _).append_silent logsAhead_nil)
  | panicked payload =>
      exact setUp.append_silent ((Tx.release_logsAhead _).append_silent logsAhead_nil)

/-- **Opening a transaction** logs the setup statements before they are sent. -/
theorem begin_logsAhead (connector : Connector μ) (db : Database δ) (ctx : Context)
    (w : World δ μ) :
    LogsAhead connector.config.statementLogLevel (connector.openingIssued db ctx w)
      (connector.begin db ctx w).trace := by
  unfold begin openingIssued
  rw [Action.bind_of_returned (a := w) rfl]
  dsimp only
  cases live : w.poolClosed with
  | true => exact logsAhead_nil
  | false =>
      rw [isolationFor_eq]
      cases allowed : connector.forbids ctx with
      | true => exact logsAhead_nil
      | false =>
          have begun : LogsAhead connector.config.statementLogLevel [] (beginEvents db w) :=
            logsAhead_of_silent rfl rfl
          simp only [Bool.false_eq_true, if_false, true_and]
          rw [Action.bind_of_returned (a := connector.levelFor ctx) rfl,
            Action.bind_of_returned (a := w.replyTo db .begin) rfl]
          cases answer : (w.replyTo db .begin).answer with
          | error error =>
              rw [if_neg (by simp [Reply.refused_of_answer answer])]
              exact begun.append_silent logsAhead_nil
          | ok rows =>
              rw [if_pos (Reply.accepted_of_answer answer)]
              exact begun.append (setUpOrRelease_logsAhead connector db ctx
                (w.afterSending db .begin, connector.openHandle))

/-! ### Attempts and calls -/

/-- The statements that **a commit issues**: those of the hook, if there is one and the handle is
open. -/
def commitIssued (connector : Connector μ) (db : Database δ) (ctx : Context) (p : World δ μ × Tx) :
    List (String × List Arg) :=
  match connector.preCommitHook with
  | some hook => if p.2.isOpen then (hook ctx).issued db p else []
  | none => []

/-- The statements that are issued **after a body**: those of the commit, if the body returned. -/
def afterBodyIssued (connector : Connector μ) (db : Database δ) (ctx : Context)
    (ran : Run (World δ μ × Tx) Event (Ending α)) : List (String × List Arg) :=
  match ran.result with
  | .returned _ => connector.commitIssued db ctx ran.state
  | _ => []

/-- The statements that **an attempt issues**: those of the opening, and if that hands out a handle,
those of the body and of what follows it. -/
def attemptIssued (connector : Connector μ) (db : Database δ) (ctx : Context)
    (body : Context → Program μ α) (w : World δ μ) : List (String × List Arg) :=
  connector.openingIssued db ctx w ++
    match connector.begin db ctx w with
    | ⟨.returned handle, opened, _⟩ =>
      (body ctx).issued db (opened, handle) ++
        connector.afterBodyIssued db ctx ((body ctx).run db (opened, handle))
    | _ => []

/-- The statements that **a call issues**, attempt by attempt. -/
def issued (connector : Connector μ) (db : Database δ) (ctx : Context)
    (body : Context → Program μ α) (w : World δ μ) : List (String × List Arg) :=
  (List.range (connector.attempts db ctx body w)).flatMap fun k =>
    connector.attemptIssued db (ctx.forAttempt (k + 1)) body
      (worldBefore (connector.driver db) ctx (Program.toWork db body) w k)

/-- **A commit** logs the statements of its hook. -/
theorem commit_logsAhead (connector : Connector μ) (db : Database δ) (ctx : Context)
    (p : World δ μ × Tx) :
    LogsAhead p.2.config.logLevel (connector.commitIssued db ctx p)
      (connector.commit db ctx p).trace := by
  cases opened : p.2.isOpen with
  | false =>
      rw [commit_of_closed opened, commitIssued]
      split
      · rw [if_neg (by simp [opened])]
        exact logsAhead_nil
      · exact logsAhead_nil
  | true =>
      have concluded (q : World δ μ × Tx) : LogsAhead p.2.config.logLevel []
          (Action.ofFallible (Tx.commit db).run q).trace := by
        rw [Action.ofFallible_apply]
        exact Tx.conclude_logsAhead (fun _ => rfl) q
      have hooked : LogsAhead p.2.config.logLevel (connector.commitIssued db ctx p)
          (connector.beforeCommit db ctx p).trace := by
        cases present : connector.preCommitHook with
        | none =>
            rw [commitIssued, beforeCommit, present]
            exact logsAhead_nil
        | some hook =>
            rw [commitIssued, beforeCommit_of_present present, present]
            dsimp only
            rw [if_pos opened]
            exact (hook ctx).run_logsAhead db p
      rw [commit_of_open opened]
      cases ending : (connector.beforeCommit db ctx p).result with
      | returned =>
          rw [Action.bind_of_returned ending]
          exact hooked.append_silent (concluded _)
      | failed error =>
          rw [Action.bind_of_failed ending]
          exact hooked
      | panicked payload =>
          rw [Action.bind_of_panicked ending]
          exact hooked

/-- A rollback and its reports log nothing of their own. -/
theorem rollback_logsAhead {level : LogLevel} (p : World δ μ × Tx) {ending : Ending Unit}
    {records : List LogRecord} (reports : ∀ record ∈ records, IsReport record) :
    LogsAhead level [] (worldEvents (.rolledBack ctx ending
      ((connector.driver db).rollback ctx p).trace :: records.map .logged)) := by
  have rolled : LogsAhead level [] ((connector.driver db).rollback ctx p).trace := by
    show LogsAhead level [] (Action.ofFallible (Tx.rollback db).run p).trace
    rw [Action.ofFallible_apply]
    exact Tx.conclude_logsAhead (fun _ => rfl) p
  rw [worldEvents_rolledBack, worldEvents_logged]
  exact rolled.append_silent (logsAhead_of_reports reports)

/-- **What follows a body** logs the statements that it issues. -/
theorem afterBody_logsAhead (connector : Connector μ) (db : Database δ) (ctx : Context)
    (number : Nat) (ran : Run (World δ μ × Tx) Event (Ending α)) :
    LogsAhead ran.state.2.config.logLevel (connector.afterBodyIssued db ctx ran)
      (worldEvents (afterBody (connector.driver db) ctx number ran.result ran.state).trace) := by
  obtain ⟨ending, p, inside⟩ := ran
  cases ending with
  | failed error =>
      show LogsAhead _ [] (worldEvents (rollBackAfter (connector.driver db) ctx number error p :
        Run _ _ (Ending α)).trace)
      rw [rollBackAfter_apply]
      exact rollback_logsAhead p fun _ among => Driver.isReport_of_rollbackRecords among
  | panicked payload =>
      show LogsAhead _ [] (worldEvents (rollBackPanicked (connector.driver db) ctx number payload p :
        Run _ _ (Ending α)).trace)
      rw [rollBackPanicked_apply]
      exact rollback_logsAhead p fun _ among => Driver.isReport_of_panicRecords among
  | returned value =>
      show LogsAhead _ (connector.commitIssued db ctx p)
        (worldEvents (commitAfter (connector.driver db) ctx number value p).trace)
      have hooked := commit_logsAhead connector db ctx p
      obtain ⟨⟨ending, q, inside⟩, commit⟩ : ∃ run, (connector.driver db).commit ctx p = run :=
        ⟨_, rfl⟩
      rw [show connector.commit db ctx p = ⟨ending, q, inside⟩ from commit] at hooked
      cases ending with
      | returned =>
          rw [commitAfter_of_returned commit, worldEvents_committed]
          exact hooked.append_silent logsAhead_nil
      | panicked payload =>
          rw [commitAfter_of_panicked commit, worldEvents_committed]
          exact hooked.append_silent logsAhead_nil
      | failed error =>
          cases done : (connector.driver (μ := μ) db).isTxDone error with
          | true =>
              have report : LogsAhead p.2.config.logLevel []
                  (worldEvents ([Wording.concludedByBody number].map .logged)) := by
                rw [worldEvents_logged]
                exact logsAhead_of_reports (by simp [IsReport.concludedByBody])
              rw [commitAfter_of_done commit done, worldEvents_committed]
              exact hooked.append_silent report
          | false =>
              rw [commitAfter_of_rejected commit done, worldEvents_committed, rollBackAfter_apply]
              exact hooked.append_silent (rollback_logsAhead q fun _ among =>
                Driver.isReport_of_rollbackRecords among)

/-- **An attempt** logs the statements that it issues, from its opening on. -/
theorem attempt_logsAhead (connector : Connector μ) (db : Database δ) (ctx : Context)
    (number : Nat) (body : Context → Program μ α) (w : World δ μ) :
    LogsAhead connector.config.statementLogLevel
      (connector.attemptIssued db (ctx.forAttempt number) body w)
      (worldEvents (attempt (connector.driver db) ctx number (Program.toWork db body) w).trace) := by
  have opening := begin_logsAhead connector db (ctx.forAttempt number) w
  unfold attemptIssued
  split
  · rename_i handle opened inOpening begun
    rw [begun] at opening
    obtain rfl : handle = connector.openHandle :=
      eq_openHandle_of_returned (congrArg Run.result begun)
    have entered : Entered (connector.driver db) (ctx.forAttempt number) (Program.toWork db body) w _
        _ := .intro begun rfl
    have ran := (body (ctx.forAttempt number)).run_logsAhead db (opened, connector.openHandle)
    have after := afterBody_logsAhead connector db (ctx.forAttempt number) number
      ((body (ctx.forAttempt number)).run db (opened, connector.openHandle))
    rw [Program.run_config_eq] at after
    rw [attempt_of_entered entered rfl, worldEvents_leave, worldEvents_append, worldEvents_entered,
      List.append_assoc inOpening]
    exact (opening.append (ran.append after)).append_silent (Tx.release_logsAhead _)
  · rename_i unreturned
    have unopened : ∀ handle, ((connector.driver db).begin (ctx.forAttempt number) w).result ≠
        .returned handle := by
      intro handle returned
      exact unreturned handle _ _ (by rw [← returned]; rfl)
    rw [attempt_trace_of_unopened unopened, worldEvents_begun, List.append_nil]
    exact opening

/-- What is expected of **the log of a call.** -/
structure NothingUnlogged (connector : Connector μ) (db : Database δ) (ctx : Context)
    (body : Context → Program μ α) (w : World δ μ) : Prop where
  /-- Every operation with a statement, whether its rows are decoded or not, logs it once, before it
  sends anything and whatever comes of it, on whatever handle and in whatever state of that. -/
  statement : ∀ (operation : Operation μ) (p : World δ μ × Tx) ctx' sql args,
    operation.statement? = some (ctx', sql, args) →
      LoggedOnce p.2.config.logLevel sql args (operation.outcome db p).trace
  /-- So does a batch. -/
  batch : ∀ (p : World δ μ × Tx) ctx' sql,
    LoggedOnce p.2.config.logLevel sql [] ((Tx.executeBatch db ctx' sql).run p).trace
  /-- The handles of the call log at the configured level, whatever program runs on them. -/
  configured : ∀ number (v v' : World δ μ) handle (β : Type) (program : Program μ β),
    (connector.begin db (ctx.forAttempt number) v).result = .returned handle →
      ∀ deed ∈ program.performed db (v', handle),
        deed.state.2.config.logLevel = connector.config.statementLogLevel
  /-- The log of the call holds the statements that it issues, each once, in order and at that level,
  and up to every moment the executed statements are part of those logged by then, in order. -/
  ahead : LogsAhead connector.config.statementLogLevel (connector.issued db ctx body w)
    (connector.transact db ctx body w).trace

/-- **Nothing runs unlogged**, in no call, whatever the body, the hooks and the database do. -/
theorem nothingUnlogged (connector : Connector μ) (db : Database δ) (ctx : Context)
    (body : Context → Program μ α) (w : World δ μ) :
    NothingUnlogged connector db ctx body w := by
  refine ⟨?_, ?_, ?_, ?_⟩
  · intro operation p ctx' sql args behind
    obtain ⟨_, read, same⟩ := Operation.outcome_of_statement behind p
    rw [same]
    exact Tx.statement_loggedOnce read p
  · intro p ctx' sql
    exact Tx.executeBatch_loggedOnce p
  · intro number v v' handle β program opened deed among
    rw [program.config_of_performed among, eq_openHandle_of_returned opened]
    rfl
  · rw [transact_trace]
    refine logsAhead_flatMap _ fun k _ => ?_
    rw [attemptEvents, eventsAt, worldEvents_append, worldEvents_logged]
    exact (attempt_logsAhead connector db ctx (k + 1) body _).append_silent
      (logsAhead_of_reports fun record among => Driver.isReport_of_decisionRecords among)

end Connector

end Postgres

end TxRetry
