import TxRetry.Proofs.Plan.Defects
import TxRetry.Proofs.Postgres.Opening

/-!
# The gate of plan costs is sound

While a budget applies, a statement reaches the database only right after its explanation, and only
if the plan that the explanation shows is within the budget.  In every other case the operation
fails and its statement is not sent.  Where no budget applies, nothing is explained.  This holds of
every operation that a program performs on a transaction, whatever it does before.

## Main definitions

* `Reply.Admits` — an explanation that shows a plan within the budget
* `Operation.statement?`, `Operation.outcome` — the statement behind an operation, and what comes of
  the operation
* `Program.performed` — the operations that a program performs, each with the state before it
* `DecodesRows` — what is expected of fetches whose rows are decoded
* `Tx.Admitted`, `Tx.Gated`, `Tx.Ungated` — what is expected of an operation under a budget, and of
  one without
* `Connector.GateSound` — what is expected of a program on a transaction of a connector

## Main statements

* `Tx.gated_statement`, `Tx.ungated_statement` — every statement is as expected
* `Program.run_trace_eq` — what a program does is what its operations do
* `Connector.gateSound_of_begin` — the gate is sound on every transaction that is opened
-/

namespace TxRetry

/-- The value in an ending, if there is one. -/
def Ending.value? {α : Type} : Ending α → Option α
  | .returned value => some value
  | _ => none

theorem Ending.value?_eq_some_iff {α : Type} {ending : Ending α} {value : α} :
    ending.value? = some value ↔ ending = .returned value := by
  cases ending <;> simp [value?]

/-- The **budget in force** is the configured number, if that is finite and positive. -/
theorem Config.effectiveMaxPlanCost_eq_some_iff {config : Config} {budget : Float} :
    config.effectiveMaxPlanCost = some budget ↔
      config.maxPlanCost = some budget ∧ budget.isFinite = true ∧ 0 < budget := by
  simp only [effectiveMaxPlanCost, Option.bind_eq_some_iff, positiveCost?_eq_some_iff]
  constructor
  · rintro ⟨cost, configured, rfl, valid⟩
    exact ⟨configured, valid⟩
  · rintro ⟨configured, valid⟩
    exact ⟨budget, configured, rfl, valid⟩

namespace Postgres

variable {δ μ α : Type}

/-! ### Explanations -/

/-- The command that **explains a statement**, with the same arguments. -/
def explanation (sql : String) (args : List Arg) : Command :=
  .statement ("EXPLAIN (FORMAT JSON) " ++ sql) args

/-- The reply to an explanation **admits the statement**: the first column of the first row is a
document that is a plan within the budget. -/
def Reply.Admits (reply : Reply) (budget : Float) (sql : String) : Prop :=
  ∃ answer row column text document cost,
    reply.outcome = .ok answer ∧ answer.rows[0]? = some row ∧ row[0]? = some (column, .json text) ∧
      Json.parse? text = some document ∧ Plan.enforce budget sql document = .ok cost

theorem Reply.answer_eq_ok_iff {reply : Reply} {answer : Answer} :
    reply.answer = .ok answer ↔ reply.outcome = .ok answer := by
  obtain ⟨outcome, delay⟩ := reply
  cases outcome <;> simp [Reply.answer, Outcome.reported, Except.mapError]

/-- A value after a value. -/
theorem bind_eq_ok_iff {β : Type} {x : Except Error α} {f : α → Except Error β} {b : β} :
    x.bind f = .ok b ↔ ∃ a, x = .ok a ∧ f a = .ok b := by
  cases x <;> simp [Except.bind]

/-- A cell is read as JSON if it holds the text of a document. -/
theorem Row.readJson_eq_ok_iff {row : Row} {index : Nat} {document : Json} :
    row.readJson index = .ok document ↔
      ∃ column text, row[index]? = some (column, .json text) ∧ Json.parse? text = some document := by
  show ((row.cellAt index).bind _) = _ ↔ _
  rw [bind_eq_ok_iff, cellAt]
  constructor
  · rintro ⟨cell, found, read⟩
    split at found
    · rename_i column cell' present
      obtain rfl := Except.ok.inj found
      split at read
      · rename_i text
        cases parsed : Json.parse? text with
        | none =>
            rw [parsed] at read
            cases read
        | some value =>
            rw [parsed] at read
            cases read
            exact ⟨column, text, present, parsed⟩
      · cases read
    · cases found
  · rintro ⟨column, text, present, parsed⟩
    refine ⟨.json text, by rw [present], ?_⟩
    simp only [parsed]
    rfl

/-- The check reads off an answer what admits the statement. -/
theorem Tx.planCostOf_eq_ok_iff {budget cost : Float} {sql : String} {answer : Answer} :
    planCostOf budget sql answer = .ok cost ↔
      ∃ row column text document, answer.rows[0]? = some row ∧
        row[0]? = some (column, .json text) ∧ Json.parse? text = some document ∧
          Plan.enforce budget sql document = .ok cost := by
  have first : ∀ row, firstRow answer = .ok row ↔ answer.rows[0]? = some row := by
    intro row
    unfold firstRow
    cases answer.rows <;> simp
  show ((firstRow answer).bind fun row => (row.readJson 0).bind _) = _ ↔ _
  simp only [bind_eq_ok_iff, first, Row.readJson_eq_ok_iff]
  constructor
  · rintro ⟨row, isFirst, document, ⟨column, text, cell, parsed⟩, enforced⟩
    exact ⟨row, column, text, document, isFirst, cell, parsed, enforced⟩
  · rintro ⟨row, column, text, document, isFirst, cell, parsed, enforced⟩
    exact ⟨row, isFirst, document, ⟨column, text, cell, parsed⟩, enforced⟩

/-- A reply admits the statement **if and only if the check passes it.** -/
theorem Reply.admits_iff {reply : Reply} {budget : Float} {sql : String} :
    reply.Admits budget sql ↔
      ∃ cost, reply.answer.bind (Tx.planCostOf budget sql) = .ok cost := by
  simp only [Admits, bind_eq_ok_iff, Reply.answer_eq_ok_iff, Tx.planCostOf_eq_ok_iff]
  constructor
  · rintro ⟨answer, row, column, text, document, cost, outcome, read⟩
    exact ⟨cost, answer, outcome, row, column, text, document, read⟩
  · rintro ⟨cost, answer, outcome, row, column, text, document, read⟩
    exact ⟨answer, row, column, text, document, cost, outcome, read⟩

/-- The error that something ended in, if it did. -/
def failureOf : Except Error α → Option Error
  | .ok _ => none
  | .error error => some error

theorem failureOf_eq_some_iff {result : Except Error α} {error : Error} :
    failureOf result = some error ↔ result = .error error := by
  cases result <;> simp [failureOf]

namespace Tx

/-- What **comes of a statement**: how it failed, if it did, the final state and the events. -/
def outcome (run : Run (World δ μ × Tx) Event (Except Error α)) :
    Run (World δ μ × Tx) Event (Option Error) :=
  ⟨failureOf run.result, run.state, run.trace⟩

/-- A command under a context is **sent on a handle** that is open, if no failure waits there and the
deadline has not come. -/
structure Sendable (ctx : Context) (p : World δ μ × Tx) : Prop where
  opened : p.2.isOpen = true
  free : p.2.late = none
  early : isDue ctx.deadline p.1.clock = false

/-- A statement is **admitted by a budget**: its explanation is sent, is answered in time, and shows a
plan within the budget. -/
structure Admitted (db : Database δ) (budget : Float) (ctx : Context) (sql : String)
    (args : List Arg) (p : World δ μ × Tx) : Prop where
  sendable : Sendable ctx p
  timely : isDue ctx.deadline (p.1.afterSending db (explanation sql args)).clock = false
  admits : (p.1.replyTo db (explanation sql args)).Admits budget sql

/-- What is expected of a statement **under a budget.** -/
structure Gated (db : Database δ) (budget : Float) (ctx : Context) (sql : String) (args : List Arg)
    (p : World δ μ × Tx) (outcome : Run (World δ μ × Tx) Event (Option Error)) : Prop where
  /-- If it is admitted, it is sent right after its explanation. -/
  sent : Admitted db budget ctx sql args p →
    commandsIn outcome.trace =
      [(explanation sql args, p.1.replyTo db (explanation sql args)),
        (.statement sql args,
          (p.1.afterSending db (explanation sql args)).replyTo db (.statement sql args))]
  /-- Otherwise it fails, and nothing is executed but its explanation. -/
  refused : ¬ Admitted db budget ctx sql args p →
    (∃ error, outcome.result = some error) ∧
      (∀ command reply, .executed command reply ∉ outcome.trace) ∧
      (commandsIn outcome.trace = [] ∨
        commandsIn outcome.trace =
          [(explanation sql args, p.1.replyTo db (explanation sql args))])
  /-- The handle is as open as before. -/
  isOpen_eq : outcome.state.2.isOpen = p.2.isOpen
  config_eq : outcome.state.2.config = p.2.config

/-- What is expected of a statement to which **no budget applies.** -/
structure Ungated (db : Database δ) (ctx : Context) (sql : String) (args : List Arg)
    (p : World δ μ × Tx) (outcome : Run (World δ μ × Tx) Event (Option Error)) : Prop where
  /-- It is sent, and nothing else is. -/
  sent : Sendable ctx p →
    commandsIn outcome.trace = [(.statement sql args, p.1.replyTo db (.statement sql args))]
  /-- Where nothing can be sent, it fails. -/
  unsent : ¬ Sendable ctx p →
    (∃ error, outcome.result = some error) ∧ commandsIn outcome.trace = []
  /-- Nothing is explained. -/
  unexplained : ∀ command reply, .probed command reply ∉ outcome.trace
  isOpen_eq : outcome.state.2.isOpen = p.2.isOpen
  config_eq : outcome.state.2.config = p.2.config

section Statements

variable {db : Database δ} {ctx : Context} {sql : String} {args : List Arg} {budget : Float}
variable {w : World δ μ} {tx : Tx}

/-- A query is sent, and nothing else is, on a handle on which it can be sent. -/
theorem Queried.trace_of_sendable {event : Command → Reply → Event} {command : Command}
    {run : Run (World δ μ × Tx) Event (Except Error Answer)}
    (queried : Queried event db ctx command w tx run) (sendable : Sendable ctx (w, tx)) :
    run.trace = [event command (w.replyTo db command)] :=
  queried.sent_iff.mpr ⟨sendable.opened, sendable.free, sendable.early⟩

/-- Where a query cannot be sent, nothing is, and it fails. -/
theorem Queried.of_not_sendable {event : Command → Reply → Event} {command : Command}
    {run : Run (World δ μ × Tx) Event (Except Error Answer)}
    (queried : Queried event db ctx command w tx run) (unsendable : ¬ Sendable ctx (w, tx)) :
    (∃ error, run.result = .error error) ∧ run.trace = [] := by
  cases queried with
  | concluded => exact ⟨⟨_, rfl⟩, rfl⟩
  | overdue => exact ⟨⟨_, rfl⟩, rfl⟩
  | overtaken => exact ⟨⟨_, rfl⟩, rfl⟩
  | answered opened free early => exact absurd ⟨opened, free, early⟩ unsendable
  | late opened free early => exact absurd ⟨opened, free, early⟩ unsendable

/-- **A statement to which no budget applies** is one query. -/
theorem ungated_statement (read : Answer → Except Error α)
    (unchecked : tx.config.planBudget ctx = none) :
    Ungated db ctx sql args (w, tx) (outcome ((statement db read ctx sql args).run (w, tx))) := by
  have queried := queried_query .executed db ctx (.statement sql args) w tx
  rw [statement_of_unchecked read unchecked]
  dsimp only [outcome]
  generalize (query .executed db ctx (.statement sql args)).run (w, tx) = asked at queried ⊢
  refine ⟨?_, ?_, ?_, queried.isOpen_eq, queried.config_eq⟩
  · intro sendable
    simp [queried.trace_of_sendable sendable]
  · intro unsendable
    obtain ⟨⟨error, failed⟩, silent⟩ := queried.of_not_sendable unsendable
    refine ⟨⟨error, ?_⟩, ?_⟩
    · rw [failed]
      rfl
    · simp [silent]
  · intro command reply probed
    rcases queried.trace_cases with silent | sent
    · simp [silent] at probed
    · simp [sent] at probed

/-- What the check makes of an explanation, in terms of the reply. -/
theorem admitted_iff {probe : Run (World δ μ × Tx) Event (Except Error Answer)}
    (queried : Queried .probed db ctx (explanation sql args) w tx probe) :
    Admitted db budget ctx sql args (w, tx) ↔
      ∃ cost, probe.result.bind (planCostOf budget sql) = .ok cost := by
  constructor
  · rintro ⟨⟨opened, free, early⟩, timely, admits⟩
    obtain ⟨cost, passed⟩ := Reply.admits_iff.mp admits
    refine ⟨cost, ?_⟩
    cases queried with
    | concluded closed =>
        rw [opened] at closed
        cases closed
    | overdue _ due =>
        rw [early] at due
        cases due
    | overtaken _ waiting =>
        rw [free] at waiting
        cases waiting
    | answered => exact passed
    | late _ _ _ due =>
        rw [timely] at due
        cases due
  · rintro ⟨cost, passed⟩
    obtain ⟨answer, answered, within⟩ := bind_eq_ok_iff.mp passed
    obtain ⟨reply, timely, -, sent⟩ := queried.of_ok answered
    obtain ⟨opened, free, early⟩ := queried.sent_iff.mp sent
    refine ⟨⟨opened, free, early⟩, timely, Reply.admits_iff.mpr ⟨cost, ?_⟩⟩
    exact bind_eq_ok_iff.mpr ⟨answer, reply, within⟩

/-- **A statement under a budget** is sent right after its explanation admitted it, or fails. -/
theorem gated_statement (read : Answer → Except Error α)
    (checked : tx.config.planBudget ctx = some budget) :
    Gated db budget ctx sql args (w, tx) (outcome ((statement db read ctx sql args).run (w, tx))) := by
  have queried := queried_query .probed db ctx (explanation sql args) w tx
  obtain ⟨probe, probed⟩ : ∃ probe,
    (query .probed db ctx (explanation sql args)).run (w, tx) = probe := ⟨_, rfl⟩
  rw [probed] at queried
  have admitted : Admitted db budget ctx sql args (w, tx) ↔
      ∃ cost, probe.result.bind (planCostOf budget sql) = .ok cost := admitted_iff queried
  cases passed : probe.result.bind (planCostOf budget sql) with
  | error error =>
      have unadmitted : ¬ Admitted db budget ctx sql args (w, tx) := by
        rw [admitted]
        rintro ⟨cost, admits⟩
        rw [passed] at admits
        cases admits
      rw [statement_of_refused read checked probed passed]
      refine ⟨fun admits => absurd admits unadmitted, fun _ => ⟨⟨error, rfl⟩, ?_, ?_⟩,
        queried.isOpen_eq, queried.config_eq⟩
      · intro command reply executed
        rcases queried.trace_cases with silent | sent
        · simp [outcome, silent] at executed
        · simp [outcome, sent] at executed
      · rcases queried.trace_cases with silent | sent
        · exact .inl (by simp [outcome, silent])
        · exact .inr (by simp [outcome, sent])
  | ok cost =>
      have admits : Admitted db budget ctx sql args (w, tx) := admitted.mpr ⟨cost, passed⟩
      obtain ⟨answer, answered, -⟩ := bind_eq_ok_iff.mp passed
      obtain ⟨-, -, after, sent⟩ := queried.of_ok answered
      -- The statement is issued at the very moment at which the explanation was answered.
      have asking := queried_query .executed db ctx (.statement sql args)
        (w.afterSending db (explanation sql args)) tx
      have sendable : Sendable ctx (w.afterSending db (explanation sql args), tx) :=
        ⟨admits.sendable.opened, admits.sendable.free, admits.timely⟩
      rw [statement_of_admitted read checked probed passed, after, sent]
      refine ⟨fun _ => ?_, fun unadmitted => absurd admits unadmitted, asking.isOpen_eq,
        asking.config_eq⟩
      simp [outcome, asking.trace_of_sendable sendable]

/-- Neither a statement nor the check of its cost changes the configuration of the handle. -/
theorem statement_config_eq (read : Answer → Except Error α) (p : World δ μ × Tx) :
    ((statement db read ctx sql args).run p).state.2.config = p.2.config := by
  obtain ⟨w, tx⟩ := p
  cases checked : tx.config.planBudget ctx with
  | none => exact (ungated_statement read checked).config_eq
  | some budget => exact (gated_statement read checked).config_eq

theorem conclude_config_eq (db : Database δ) (command : Command) (p : World δ μ × Tx) :
    ((conclude db command).run p).state.2.config = p.2.config := by
  obtain ⟨w, tx⟩ := p
  cases opened : tx.isOpen with
  | false => rw [conclude_of_closed command opened]
  | true =>
      rw [conclude_of_open command opened]
      dsimp only
      cases (conclusion db command tx.late w).result <;> rfl

end Statements

end Tx

/-! ### Operations of a program -/

namespace Operation

/-- How an operation failed, if it did. -/
def failure? : (operation : Operation μ) → operation.Reply → Option Error
  | .execute .., reply => failureOf reply
  | .fetchAll .., reply => failureOf reply
  | .fetchOne .., reply => failureOf reply
  | .fetchOptional .., reply => failureOf reply
  | .fetchAllAs .., reply => failureOf reply
  | .fetchOneAs .., reply => failureOf reply
  | .fetchOptionalAs .., reply => failureOf reply
  | .commit, reply => failureOf reply
  | .rollback, reply => failureOf reply
  | _, _ => none

/-- What **comes of an operation**: how it failed, if it did, the final state and the events. -/
def outcome (db : Database δ) (operation : Operation μ) (p : World δ μ × Tx) :
    Run (World δ μ × Tx) Event (Option Error) :=
  let run := operation.perform db p
  ⟨operation.failure? run.result, run.state, run.trace⟩

/-- What comes of an operation with a statement is what comes of the statement. -/
theorem outcome_of_statement {db : Database δ} {operation : Operation μ} {ctx : Context}
    {sql : String} {args : List Arg} (behind : operation.statement? = some (ctx, sql, args))
    (p : World δ μ × Tx) :
    ∃ (α : Type) (read : Answer → Except Error α),
      operation.outcome db p = Tx.outcome ((Tx.statement db read ctx sql args).run p) := by
  cases operation with
  | execute | fetchAll | fetchOne | fetchOptional =>
      cases behind
      exact ⟨_, _, rfl⟩
  | fetchAllAs decode =>
      cases behind
      refine ⟨_, fun answer => answer.rows.mapM decode, ?_⟩
      rw [← Tx.fetchAllAs_eq]
      rfl
  | fetchOneAs decode =>
      cases behind
      refine ⟨_, fun answer => (Tx.firstRow answer).bind decode, ?_⟩
      rw [← Tx.fetchOneAs_eq]
      rfl
  | fetchOptionalAs decode =>
      cases behind
      refine ⟨_, fun answer => answer.rows.head?.mapM decode, ?_⟩
      rw [← Tx.fetchOptionalAs_eq]
      rfl
  | _ => cases behind

/-- No operation changes the configuration of the handle. -/
theorem config_eq (db : Database δ) (operation : Operation μ) (p : World δ μ × Tx) :
    (operation.perform db p).state.2.config = p.2.config := by
  cases operation with
  | commit | rollback => exact Tx.conclude_config_eq db _ p
  | isDone | config | now | wait | memory | remember => rfl
  | _ =>
      refine perform_of_statement (P := fun x => (x p).state.2.config = p.2.config) rfl
        fun read => ?_
      exact Tx.statement_config_eq read p

end Operation

/-- An operation, and **the state in which it is performed.** -/
structure Deed (δ μ : Type) where
  operation : Operation μ
  state : World δ μ × Tx

/-- The **operations that a program performs**, in order, each with the state before it. -/
def Program.performed (db : Database δ) : Program μ α → World δ μ × Tx → List (Deed δ μ)
  | .finish _, _ => []
  | .step operation next, p =>
    ⟨operation, p⟩ ::
      (next (operation.perform db p).result).performed db (operation.perform db p).state

namespace Program

variable {db : Database δ}

/-- **What a program does is what its operations do**, one after the other. -/
theorem run_trace_eq (program : Program μ α) (p : World δ μ × Tx) :
    (program.run db p).trace =
      (program.performed db p).flatMap fun deed => (deed.operation.outcome db deed.state).trace := by
  induction program generalizing p with
  | finish ending => rfl
  | step operation next ih =>
      show (operation.perform db p).trace ++ _ = _
      rw [ih, performed, List.flatMap_cons]
      rfl

/-- Every operation of a program finds the configuration with which the handle started. -/
theorem config_of_performed (program : Program μ α) {p : World δ μ × Tx} {deed : Deed δ μ}
    (among : deed ∈ program.performed db p) : deed.state.2.config = p.2.config := by
  induction program generalizing p with
  | finish ending => cases among
  | step operation next ih =>
      rcases List.mem_cons.mp among with rfl | later
      · rfl
      · exact (ih _ later).trans (operation.config_eq db p)

end Program

/-- What is expected of **fetches whose rows are decoded**: each does just what the fetch of the rows
does, and decodes the result of that. -/
structure DecodesRows (db : Database δ) (ctx : Context) (sql : String) (args : List Arg)
    (p : World δ μ × Tx) : Prop where
  all : ∀ {β : Type} (decode : Row → Except Error β),
    let plain := (Tx.fetchAll db ctx sql args).run p
    (Operation.fetchAllAs decode ctx sql args).perform db p =
      ⟨plain.result.bind fun rows => rows.mapM decode, plain.state, plain.trace⟩
  one : ∀ {β : Type} (decode : Row → Except Error β),
    let plain := (Tx.fetchOne db ctx sql args).run p
    (Operation.fetchOneAs decode ctx sql args).perform db p =
      ⟨plain.result.bind decode, plain.state, plain.trace⟩
  optional : ∀ {β : Type} (decode : Row → Except Error β),
    let plain := (Tx.fetchOptional db ctx sql args).run p
    (Operation.fetchOptionalAs decode ctx sql args).perform db p =
      ⟨plain.result.bind fun row? => row?.mapM decode, plain.state, plain.trace⟩

/-- **Decoding rows is a matter of results**, whatever the decoder. -/
theorem decodesRows (db : Database δ) (ctx : Context) (sql : String) (args : List Arg)
    (p : World δ μ × Tx) : DecodesRows db ctx sql args p where
  all _ := Fallible.run_bind_read _ _ p
  one _ := Fallible.run_bind_read _ _ p
  optional _ := Fallible.run_bind_read _ _ p

/-! ### Transactions of a connector -/

namespace Connector

variable {connector : Connector μ} {db : Database δ}

/-- The budget that applies to statements under a context, on a handle of the connector. -/
def budgetFor (connector : Connector μ) (ctx : Context) : Option Float :=
  if ctx.costCheckDisabled then none else connector.config.effectiveMaxPlanCost

/-- What is expected of **a program on a handle of a connector.** -/
structure GateSound (connector : Connector μ) (db : Database δ) (program : Program μ α)
    (p : World δ μ × Tx) : Prop where
  /-- The budget in force is the configured number, if that is finite and positive. -/
  budget : ∀ budget, connector.config.effectiveMaxPlanCost = some budget ↔
    connector.config.maxPlanCost = some budget ∧ budget.isFinite = true ∧ 0 < budget
  /-- The program does nothing but perform its operations. -/
  performs : (program.run db p).trace =
    (program.performed db p).flatMap fun deed => (deed.operation.outcome db deed.state).trace
  /-- Each operation with a statement is held against the budget that applies, if one does. -/
  gated : ∀ deed ∈ program.performed db p, ∀ ctx sql args,
    deed.operation.statement? = some (ctx, sql, args) →
      match connector.budgetFor ctx with
      | some budget =>
        Tx.Gated db budget ctx sql args deed.state (deed.operation.outcome db deed.state)
      | none => Tx.Ungated db ctx sql args deed.state (deed.operation.outcome db deed.state)
  /-- The fetches whose rows are decoded are among them: apart from the decoding, each is the fetch of
  the rows. -/
  typed : ∀ ctx sql args (q : World δ μ × Tx), DecodesRows db ctx sql args q

/-- **The gate is sound on every transaction that a connector opens**, whatever program runs on it
and in whatever world. -/
theorem gateSound_of_begin {ctx : Context} {start : World δ μ} {handle : Tx}
    (opened : (connector.begin db ctx start).result = .returned handle) (program : Program μ α)
    (w : World δ μ) : GateSound connector db program (w, handle) where
  budget _ := Config.effectiveMaxPlanCost_eq_some_iff
  performs := program.run_trace_eq (w, handle)
  gated deed among ctx sql args behind := by
    have config : deed.state.2.config = connector.statementConfig := by
      rw [program.config_of_performed among, eq_openHandle_of_returned opened]
      rfl
    have budget : deed.state.2.config.planBudget ctx = connector.budgetFor ctx := by
      rw [config]
      rfl
    obtain ⟨α, read, same⟩ := Operation.outcome_of_statement behind deed.state
    rw [same]
    split
    · rename_i limit applies
      exact Tx.gated_statement read (budget.trans applies)
    · rename_i applies
      exact Tx.ungated_statement read (budget.trans applies)
  typed ctx sql args q := decodesRows db ctx sql args q

end Connector

/-- A database that accepts every command and **explains every statement by one plan.** -/
def Database.planned (plan : String) : Database Unit where
  respond _ command :=
    ((), match command with
      | .statement sql _ =>
        if sql.startsWith "EXPLAIN (FORMAT JSON) " then
          { outcome := .ok { rows := [[("QUERY PLAN", .json plan)]] } }
        else {}
      | _ => {})

/-- A plan whose cost is 50.5. -/
def cheapPlan : String := "[\x7b\"Plan\":\x7b\"Total Cost\":50.5\x7d\x7d]"

/-- A connector with the budget 100.5. -/
def Connector.thrifty : Connector Unit := { config := { maxPlanCost := some 100.5 } }

/-- A program of one statement. -/
def Program.selectOne : Program Unit Unit :=
  .step (.execute .fresh "SELECT 1" []) fun _ => .finish (.returned ())

/-- A statement with a cheap plan is explained and executed. -/
theorem Connector.gateSound_of_cheapPlan :
    ∃ handle, (thrifty.begin (Database.planned cheapPlan) .fresh
        { database := (), memory := () }).result = .returned handle ∧
      GateSound thrifty (Database.planned cheapPlan) Program.selectOne
        ({ database := (), memory := () }, handle) ∧
      (commandsIn (Program.selectOne.run (Database.planned cheapPlan)
        ({ database := (), memory := () }, handle)).trace).length = 2 := by
  have returned : ((thrifty.begin (Database.planned cheapPlan) .fresh
      { database := (), memory := () }).result.value?).isSome = true := by
    decide +kernel
  obtain ⟨handle, value⟩ := Option.isSome_iff_exists.mp returned
  have opened := Ending.value?_eq_some_iff.mp value
  refine ⟨handle, opened, gateSound_of_begin opened _ _, ?_⟩
  rw [eq_openHandle_of_returned opened]
  decide +kernel

end Postgres

end TxRetry
