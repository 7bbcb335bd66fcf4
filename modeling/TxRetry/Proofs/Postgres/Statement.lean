import TxRetry.Proofs.Postgres.Handle

/-!
# Statements, case by case

A statement is at most two queries on the connection of its handle, the explanation that the check
of plan costs asks for and the statement itself.  This module says what comes of a query and how a
statement is put together from its queries; whatever else is proved of statements is read off here.

## Main definitions

* `beginsWith` — whether a text begins with another one
* `Arg.shown`, `recordOf` — an argument and a statement as the log shows them
* `commandsIn` — the commands that the database executed, in order, with their replies
* `World.replyTo`, `World.afterSending` — the reply to a command, and the world at its arrival
* `Tx.Queried` — the ways in which a query goes
* `Tx.planCostOf` — the cost that the check reads off the answer to an explanation

## Main statements

* `Tx.statementRecord_eq` — the log shows statements so
* `Tx.queried_query` — every query goes in one of the ways
* `Tx.statement_of_unchecked`, `Tx.statement_of_refused`, `Tx.statement_of_admitted` — a statement
  that is not checked, that the check refuses, and that it admits, as equations
* `Tx.executeBatch_of_unchecked`, `Tx.executeBatch_of_budget` — a batch that is not refused, and one
  that is
-/

namespace TxRetry

/-- Whether a text **begins with another one.** -/
def beginsWith (start text : String) : Bool := start.toList.isPrefixOf text.toList

@[simp] theorem beginsWith_append (start rest : String) : beginsWith start (start ++ rest) = true := by
  simp [beginsWith]

namespace Postgres

/-! ### What the log shows

The texts are written out here, apart from the code that writes the log.  What is claimed of the log
is claimed of these. -/

/-- An **argument as the log shows it**, in the form of its kind. -/
def Arg.shown : Arg → String
  | .bool false => "false"
  | .bool true => "true"
  | .int n => toString n.toInt
  | .float x => FloatNotation.positional.render x
  | .text s => Text.quoted s
  | .json value => value.compact
  | .timestamp t => t.text
  | .bytes bs => "<" ++ toString bs.length ++ " bytes>"
  | .intArray ns => "[" ++ ", ".intercalate (ns.map fun n => toString n.toInt) ++ "]"

/-- The **log record of a statement**, with its text and its arguments, at some level. -/
def recordOf (level : LogLevel) (sql : String) (args : List Arg) : LogRecord :=
  ⟨level, "sql: " ++ sql ++ " args: [" ++ ", ".intercalate (args.map Arg.shown) ++ "]"⟩

theorem Arg.describe_eq_shown (arg : Arg) : arg.describe = arg.shown := by
  cases arg with
  | bool b => cases b <;> rfl
  | _ => rfl

/-- The log shows a statement **with its text and its arguments**, at the level of the handle. -/
theorem Tx.statementRecord_eq (config : StatementConfig) (sql : String) (args : List Arg) :
    statementRecord config sql args = recordOf config.logLevel sql args := by
  have described : args.map Arg.describe = args.map Arg.shown :=
    List.map_congr_left fun arg _ => arg.describe_eq_shown
  have opened : " args: [" = " args: " ++ "[" := rfl
  rw [statementRecord, recordOf, Arg.describeAll, Text.listed, described, opened]
  simp only [String.append_assoc]

/-! ### Commands among the events -/

/-- The command that the database executed, and its reply, if that is the event. -/
def Event.command? : Event → Option (Command × Reply)
  | .executed command reply => some (command, reply)
  | .probed command reply => some (command, reply)
  | .logged _ => none

/-- The **commands that the database executed**, in order, with their replies. -/
def commandsIn (events : List Event) : List (Command × Reply) := events.filterMap Event.command?

section CommandsIn

variable (command : Command) (reply : Reply) (record : LogRecord) (events : List Event)

@[simp] theorem commandsIn_nil : commandsIn [] = [] := rfl

@[simp] theorem commandsIn_append (first second : List Event) :
    commandsIn (first ++ second) = commandsIn first ++ commandsIn second :=
  List.filterMap_append

@[simp] theorem commandsIn_executed :
    commandsIn (.executed command reply :: events) = (command, reply) :: commandsIn events := rfl

@[simp] theorem commandsIn_probed :
    commandsIn (.probed command reply :: events) = (command, reply) :: commandsIn events := rfl

@[simp] theorem commandsIn_logged :
    commandsIn (.logged record :: events) = commandsIn events := rfl

end CommandsIn

/-! ### Commands and worlds -/

section Sending

variable {δ μ : Type}

/-- The **reply to a command** sent in a world. -/
def World.replyTo (w : World δ μ) (db : Database δ) (command : Command) : Reply :=
  (db.respond w.database command).2

/-- The world **at the arrival of the reply** to a command. -/
def World.afterSending (w : World δ μ) (db : Database δ) (command : Command) : World δ μ :=
  { w with
    database := (db.respond w.database command).1
    clock := w.clock.after (w.replyTo db command).delay }

theorem sendAs_apply (event : Command → Reply → Event) (db : Database δ) (command : Command)
    (w : World δ μ) :
    sendAs event db command w =
      ⟨w.replyTo db command, w.afterSending db command, [event command (w.replyTo db command)]⟩ :=
  rfl

variable (event : Command → Reply → Event) (db : Database δ) {deadline : Option Instant}
variable (command : Command) {w : World δ μ}

/-- At its deadline a command is not sent any more. -/
theorem sendBefore_of_due (due : isDue deadline w.clock = true) :
    sendBefore event db deadline command w = ⟨.unsent, w, []⟩ := by
  simp [sendBefore, due]

/-- Before its deadline a command is sent, and the arrival of the reply decides what comes of it. -/
theorem sendBefore_of_early (early : isDue deadline w.clock = false) :
    sendBefore event db deadline command w =
      ⟨if isDue deadline (w.afterSending db command).clock then .late (w.replyTo db command)
        else .answered (w.replyTo db command),
        w.afterSending db command, [event command (w.replyTo db command)]⟩ := by
  cases due : isDue deadline (w.afterSending db command).clock <;>
    simp [sendBefore, early, due, sendAs_apply]

end Sending

namespace Tx

variable {δ μ α : Type} {db : Database δ}

/-! ### Queries -/

/-- The **ways in which a query goes**, with its result, its final state and its events. -/
inductive Queried (event : Command → Reply → Event) (db : Database δ) (ctx : Context)
    (command : Command) (w : World δ μ) (tx : Tx) :
    Run (World δ μ × Tx) Event (Except Error Answer) → Prop
  /-- The handle was concluded before. -/
  | concluded (closed : tx.isOpen = false) :
      Queried event db ctx command w tx ⟨.error .txDone, (w, tx), []⟩
  /-- The deadline had come, and nothing was sent. -/
  | overdue (opened : tx.isOpen = true) (due : isDue ctx.deadline w.clock = true) :
      Queried event db ctx command w tx ⟨.error .deadlineExceeded, (w, tx), []⟩
  /-- A failure that came too late for an earlier command was read instead of an answer. -/
  | overtaken {late} (opened : tx.isOpen = true) (waiting : tx.late = some late) :
      Queried event db ctx command w tx
        ⟨.error (.client late.cause), (w, { tx with late := none }), []⟩
  /-- The reply came in time. -/
  | answered (opened : tx.isOpen = true) (free : tx.late = none)
      (early : isDue ctx.deadline w.clock = false)
      (timely : isDue ctx.deadline (w.afterSending db command).clock = false) :
      Queried event db ctx command w tx
        ⟨(w.replyTo db command).answer, (w.afterSending db command, tx),
          [event command (w.replyTo db command)]⟩
  /-- The reply came at the deadline or after it. -/
  | late (opened : tx.isOpen = true) (free : tx.late = none)
      (early : isDue ctx.deadline w.clock = false)
      (due : isDue ctx.deadline (w.afterSending db command).clock = true) :
      Queried event db ctx command w tx
        ⟨.error .deadlineExceeded,
          (w.afterSending db command, { tx with late := (w.replyTo db command).lateFailure? }),
          [event command (w.replyTo db command)]⟩

section Query

variable {event : Command → Reply → Event} {ctx : Context} {command : Command}
variable {w : World δ μ} {tx : Tx}

/-- Before its deadline, and with no failure waiting, a query is sent. -/
theorem query_of_early (opened : tx.isOpen = true) (free : tx.late = none)
    (early : isDue ctx.deadline w.clock = false) :
    (query event db ctx command).run (w, tx) =
      let reply := w.replyTo db command
      let after := w.afterSending db command
      if isDue ctx.deadline after.clock then
        ⟨.error .deadlineExceeded, (after, { tx with late := reply.lateFailure? }),
          [event command reply]⟩
      else ⟨reply.answer, (after, tx), [event command reply]⟩ := by
  rw [query_of_open event ctx command opened free, exchange, Step.bind_apply, Step.onWorld_apply,
    sendBefore_of_early event db command early]
  dsimp only
  split <;> simp [setLate]

/-- **Every query goes in one of the ways.** -/
theorem queried_query (event : Command → Reply → Event) (db : Database δ) (ctx : Context)
    (command : Command) (w : World δ μ) (tx : Tx) :
    Queried event db ctx command w tx ((query event db ctx command).run (w, tx)) := by
  cases opened : tx.isOpen with
  | false =>
      rw [query_of_closed event ctx command opened]
      exact .concluded opened
  | true =>
      cases free : tx.late with
      | some waiting =>
          -- The failure is read if it is there or the query can still wait for it.
          rw [query_of_late event ctx command opened free]
          split
          · exact .overtaken opened free
          · rename_i unread
            have due : isDue ctx.deadline w.clock = true := by
              simp only [LateFailure.isReadBefore, Bool.or_eq_true, not_or] at unread
              simpa using unread.2
            exact .overdue opened due
      | none =>
          cases early : isDue ctx.deadline w.clock with
          | true =>
              rw [query_of_open event ctx command opened free, exchange, Step.bind_apply,
                Step.onWorld_apply, sendBefore_of_due event db command early]
              exact .overdue opened early
          | false =>
              rw [query_of_early opened free early]
              dsimp only
              split
              · exact .late opened free early ‹_›
              · exact .answered opened free early (Bool.eq_false_iff.mpr ‹_›)

namespace Queried

variable {run : Run (World δ μ × Tx) Event (Except Error Answer)}

/-- A query leaves the handle as open as it was. -/
theorem isOpen_eq (queried : Queried event db ctx command w tx run) :
    run.state.2.isOpen = tx.isOpen := by
  cases queried <;> rfl

/-- A query leaves the handle configured as it was. -/
theorem config_eq (queried : Queried event db ctx command w tx run) :
    run.state.2.config = tx.config := by
  cases queried <;> rfl

/-- A query sends its command and nothing else, if it sends anything. -/
theorem trace_cases (queried : Queried event db ctx command w tx run) :
    run.trace = [] ∨ run.trace = [event command (w.replyTo db command)] := by
  cases queried with
  | concluded => exact .inl rfl
  | overdue => exact .inl rfl
  | overtaken => exact .inl rfl
  | answered => exact .inr rfl
  | late => exact .inr rfl

/-- A query that **succeeds** was sent and answered in time, and leaves the handle as it was. -/
theorem of_ok (queried : Queried event db ctx command w tx run) {answer : Answer}
    (ok : run.result = .ok answer) :
    (w.replyTo db command).answer = .ok answer ∧
      isDue ctx.deadline (w.afterSending db command).clock = false ∧
      run.state = (w.afterSending db command, tx) ∧
      run.trace = [event command (w.replyTo db command)] := by
  cases queried with
  | concluded => cases ok
  | overdue => cases ok
  | overtaken => cases ok
  | answered _ _ _ timely => exact ⟨ok, timely, rfl, rfl⟩
  | late => cases ok

/-- A query **sends** its command if the handle is open, no failure waits on the connection and the
deadline has not come, and in no other case. -/
theorem sent_iff (queried : Queried event db ctx command w tx run) :
    run.trace = [event command (w.replyTo db command)] ↔
      tx.isOpen = true ∧ tx.late = none ∧ isDue ctx.deadline w.clock = false := by
  cases queried with
  | concluded closed => simp [closed]
  | overdue _ due => simp [due]
  | overtaken _ waiting => simp [waiting]
  | answered opened free early => simp [opened, free, early]
  | late opened free early => simp [opened, free, early]

end Queried

/-- A query leaves events of one kind, if its command is of that kind. -/
theorem query_only {P : Event → Prop} (sent : ∀ reply, P (event command reply)) :
    Step.Obeys (query event db ctx command : TxStep δ μ Answer).run (.only P) := by
  rintro ⟨w, tx⟩
  rcases (queried_query event db ctx command w tx).trace_cases with silent | asked
  · rw [silent]
    exact (Law.only _).idle (w, tx)
  · rw [asked]
    exact List.forall_mem_singleton.mpr (sent _)

end Query

/-! ### Statements -/

/-- The **cost that the check reads off an answer** to an explanation: the first cell of the first
row is held against the budget. -/
def planCostOf (budget : Float) (sql : String) (answer : Answer) : Except Error Float := do
  let row ← firstRow answer
  let document ← row.readJson 0
  Plan.enforce budget sql document

section Statement

variable {ctx : Context} {sql : String} {args : List Arg} {w : World δ μ} {tx : Tx}
variable {budget : Float}

theorem checkPlanCost_of_unchecked (unchecked : tx.config.planBudget ctx = none) :
    (checkPlanCost db ctx sql args).run (w, tx) = ⟨.ok (), (w, tx), []⟩ := by
  rw [checkPlanCost, Fallible.run_bind_of_ok (a := tx) (by rw [current_run]), current_run]
  simp [unchecked]

/-- The check **explains the statement**, and the answer decides. -/
theorem checkPlanCost_of_budget (checked : tx.config.planBudget ctx = some budget) :
    (checkPlanCost db ctx sql args).run (w, tx) =
      let probe := (query .probed db ctx (.statement (explainSql sql) args)).run (w, tx)
      match probe.result.bind (planCostOf budget sql) with
      | .ok cost => ⟨.ok (), probe.state, probe.trace ++ [.logged (planRecord cost budget)]⟩
      | .error error => ⟨.error error, probe.state, probe.trace⟩ := by
  rw [checkPlanCost, Fallible.run_bind_of_ok (a := tx) (by rw [current_run]), current_run]
  simp only [checked, List.nil_append]
  generalize query .probed db ctx (.statement (explainSql sql) args) = probe
  cases answered : (probe.run (w, tx)).result with
  | error error =>
      rw [Fallible.run_bind_of_error answered]
      rfl
  | ok answer =>
      rw [Fallible.run_bind_of_ok answered, Fallible.run_bind_of_known]
      simp only [Except.bind, planCostOf]
      -- The three readings of the answer have no effect, and the first that fails decides.
      cases firstRow answer with
      | error error => simp [bind, Except.bind]
      | ok row =>
          simp only [Fallible.run_bind_of_known]
          cases readDocument : row.readJson 0 with
          | error error => simp [readDocument, bind, Except.bind]
          | ok document =>
              cases enforced : Plan.enforce budget sql document <;>
                simp [readDocument, enforced, bind, Except.bind]

/-- The record of a statement comes first, and the check before the statement itself. -/
theorem statement_of_passed {read : Answer → Except Error α} {after : World δ μ × Tx}
    {inside : List Event}
    (passed : (checkPlanCost db ctx sql args).run (w, tx) = ⟨.ok (), after, inside⟩) :
    (statement db read ctx sql args).run (w, tx) =
      let asked := (query .executed db ctx (.statement sql args)).run after
      ⟨asked.result.bind read, asked.state,
        .logged (statementRecord tx.config sql args) :: (inside ++ asked.trace)⟩ := by
  rw [statement, Fallible.run_bind_of_ok (a := tx) (by rw [current_run]), current_run]
  dsimp only
  rw [Fallible.run_bind_of_ok (a := ()) (by rw [log_run]), log_run]
  dsimp only
  rw [Fallible.run_bind_of_ok (a := ()) (by rw [passed]), passed]
  dsimp only
  rw [Fallible.run_bind_read]
  rfl

/-- A statement that is **not checked** is one query. -/
theorem statement_of_unchecked (read : Answer → Except Error α)
    (unchecked : tx.config.planBudget ctx = none) :
    (statement db read ctx sql args).run (w, tx) =
      let asked := (query .executed db ctx (.statement sql args)).run (w, tx)
      ⟨asked.result.bind read, asked.state,
        .logged (statementRecord tx.config sql args) :: asked.trace⟩ :=
  statement_of_passed (checkPlanCost_of_unchecked unchecked)

/-- A statement that **the check refuses** is not sent. -/
theorem statement_of_refused (read : Answer → Except Error α)
    (checked : tx.config.planBudget ctx = some budget)
    {probe : Run (World δ μ × Tx) Event (Except Error Answer)}
    (probed : (query .probed db ctx (.statement (explainSql sql) args)).run (w, tx) = probe)
    {error : Error} (refused : probe.result.bind (planCostOf budget sql) = .error error) :
    (statement db read ctx sql args).run (w, tx) =
      ⟨.error error, probe.state,
        .logged (statementRecord tx.config sql args) :: probe.trace⟩ := by
  have checking : (checkPlanCost db ctx sql args).run (w, tx) =
      ⟨.error error, probe.state, probe.trace⟩ := by
    rw [checkPlanCost_of_budget checked, probed]
    dsimp only
    rw [refused]
  rw [statement, Fallible.run_bind_of_ok (a := tx) (by rw [current_run]), current_run]
  dsimp only
  rw [Fallible.run_bind_of_ok (a := ()) (by rw [log_run]), log_run]
  dsimp only
  rw [Fallible.run_bind_of_error (by rw [checking]), checking]
  rfl

/-- A statement that **the check admits** is sent after its explanation. -/
theorem statement_of_admitted (read : Answer → Except Error α)
    (checked : tx.config.planBudget ctx = some budget)
    {probe : Run (World δ μ × Tx) Event (Except Error Answer)}
    (probed : (query .probed db ctx (.statement (explainSql sql) args)).run (w, tx) = probe)
    {cost : Float} (admitted : probe.result.bind (planCostOf budget sql) = .ok cost) :
    (statement db read ctx sql args).run (w, tx) =
      let asked := (query .executed db ctx (.statement sql args)).run probe.state
      ⟨asked.result.bind read, asked.state,
        .logged (statementRecord tx.config sql args) ::
          (probe.trace ++ .logged (planRecord cost budget) :: asked.trace)⟩ := by
  have checking : (checkPlanCost db ctx sql args).run (w, tx) =
      ⟨.ok (), probe.state, probe.trace ++ [.logged (planRecord cost budget)]⟩ := by
    rw [checkPlanCost_of_budget checked, probed]
    dsimp only
    rw [admitted]
  rw [statement_of_passed checking]
  simp

/-- Where **every query fails unsent**, every statement does. -/
theorem statement_of_unsent (read : Answer → Except Error α) {error : Error} {tx' : Tx}
    (unsent : ∀ event command, (query event db ctx command).run (w, tx) =
      ⟨.error error, (w, tx'), []⟩) :
    (statement db read ctx sql args).run (w, tx) =
      ⟨.error error, (w, tx'), [.logged (statementRecord tx.config sql args)]⟩ := by
  cases checked : tx.config.planBudget ctx with
  | none =>
      rw [statement_of_unchecked read checked, unsent]
      rfl
  | some budget => exact statement_of_refused read checked (unsent _ _) rfl

/-- A batch that is **not refused** is one query. -/
theorem executeBatch_of_unchecked (unchecked : tx.config.planBudget ctx = none) :
    (executeBatch db ctx sql).run (w, tx) =
      let asked := (query .executed db ctx (.batch sql)).run (w, tx)
      ⟨asked.result.map fun _ => (), asked.state,
        .logged (statementRecord tx.config sql []) :: asked.trace⟩ := by
  rw [executeBatch, Fallible.run_bind_of_ok (a := tx) (by rw [current_run]), current_run]
  dsimp only
  rw [Fallible.run_bind_of_ok (a := ()) (by rw [log_run]), log_run, unchecked]
  dsimp only
  generalize query .executed db ctx (.batch sql) = asked
  cases answered : (asked.run (w, tx)).result with
  | error error =>
      rw [Fallible.run_bind_of_error answered]
      rfl
  | ok answer =>
      rw [Fallible.run_bind_of_ok answered]
      simp [Except.map]

/-- A batch is **refused by every budget**, and not sent. -/
theorem executeBatch_of_budget (checked : tx.config.planBudget ctx = some budget) :
    ∃ error, (executeBatch db ctx sql).run (w, tx) =
      ⟨.error error, (w, tx), [.logged (statementRecord tx.config sql [])]⟩ := by
  rw [executeBatch, Fallible.run_bind_of_ok (a := tx) (by rw [current_run]), current_run]
  dsimp only
  rw [Fallible.run_bind_of_ok (a := ()) (by rw [log_run]), log_run, checked]
  exact ⟨_, rfl⟩

end Statement

end Tx

end Postgres

end TxRetry
