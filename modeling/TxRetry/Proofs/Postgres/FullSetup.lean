import TxRetry.Proofs.Postgres.Simulation

/-!
# No body before the setup

A body may rely on the setup of its transaction, row-level security for instance does.  This module
says that in every attempt of a call the body runs only after the database accepted the whole setup,
in order, and that an attempt whose setup is stopped is rolled back and ends the call.  The budget
for plan costs has no part in that.

## Main definitions

* `Connector.worldAt`, `Connector.bodyRunAt?` — the world in which an attempt starts, and the run of
  its body
* `Connector.PolicyEnforced` — what becomes of a transaction that the policy forbids
* `Connector.SetUpFirst` — what is expected of the openings of a call

## Main statements

* `Connector.begin_withBudget` — the budget changes nothing in the opening of a transaction
* `Connector.setUpFirst` — no body runs in a transaction that is not fully set up
* `Connector.not_policyEnforced_of_poolClosed` — a closed pool comes before the policy

## Design notes

**The policy is looked at second.**  A closed pool fails before anything else is looked at, so that a
transaction which the policy forbids is reported as such only while the pool is open.
-/

namespace TxRetry

namespace Ending

variable {α : Type}

/-- What a call ends with when the opening of a transaction is stopped. -/
def ofOpening (stop : Ending Empty) : Ending α :=
  match stop with
  | .returned value => value.elim
  | .failed error => .failed (.begin error)
  | .panicked payload => .panicked payload

end Ending

/-- **What stops an opening ends the call**, and no decision is reported. -/
theorem Driver.verdict_ofOpening {σ ν η α : Type} (driver : Driver σ ν η) (number : Nat)
    (stop : Ending Empty) :
    driver.verdict number (stop.ofOpening : Ending α) = some stop.ofOpening ∧
      driver.decisionRecords number (stop.ofOpening : Ending α) = [] := by
  cases stop with
  | returned value => exact value.elim
  | panicked payload => exact ⟨rfl, rfl⟩
  | failed error =>
      have unlisted := driver.not_lists_begin error
      refine ⟨Driver.verdict_of_unlisted unlisted, ?_⟩
      simp [Ending.ofOpening, Driver.decisionRecords, Driver.retryableCode_eq_none_iff.mpr unlisted]

namespace Postgres

/-- The database executed a command **for the check of plan costs.** -/
def Event.isProbe : Event → Bool
  | .probed _ _ => true
  | _ => false

@[simp] theorem Event.isProbe_executed (command : Command) (reply : Reply) :
    (Event.executed command reply).isProbe = false := rfl

@[simp] theorem Event.isProbe_logged (record : LogRecord) :
    (Event.logged record).isProbe = false := rfl

namespace Connector

variable {δ μ α : Type} {connector : Connector μ} {db : Database δ} {ctx : Context}
variable {body : Context → Program μ α} {w : World δ μ}

/-! ### The opening and the budget -/

/-- The comparison of worlds with themselves. -/
def sameWorlds : Simulation (World δ μ) (World δ μ) Event Event where
  States := Eq
  Fair _ := True
  image? := some

theorem sameWorlds_inStep (db : Database δ) :
    WorldsInStep (sameWorlds : Simulation (World δ μ) (World δ μ) Event Event) db where
  sent command := by
    rintro w _ rfl -
    exact ⟨rfl, rfl, rfl⟩
  poolClosed := by
    rintro w _ rfl
    rfl
  recorded _ _ _ := rfl

/-- **The budget changes nothing in the opening of a transaction**: the same events happen, the same
world is left, and the success or the error is the same. -/
theorem begin_withBudget (connector : Connector μ) (db : Database δ) (ctx : Context)
    (w : World δ μ) (cost? : Option Float) :
    ((connector.withBudget cost?).begin db ctx w).result.void =
        (connector.begin db ctx w).result.void ∧
      ((connector.withBudget cost?).begin db ctx w).state = (connector.begin db ctx w).state ∧
      ((connector.withBudget cost?).begin db ctx w).trace = (connector.begin db ctx w).trace := by
  have punctual : Punctual (sameWorlds : Simulation (World δ μ) (World δ μ) Event Event)
      ctx.deadline := by
    refine .inr ?_
    rintro v _ rfl
    rfl
  obtain ⟨results, worlds, events⟩ := begin_simulates (sameWorlds_inStep db) punctual cost? w w rfl
    (fun _ _ => trivial)
  refine ⟨results.void_eq.symm, worlds.symm, ?_⟩
  rw [events]
  exact List.filterMap_some

/-- A command that fails explains nothing. -/
theorem unexplained_of_failing {deadline : Option Instant} {command : Command} {error : Error}
    {events : List Event} (failing : Tx.Failing db deadline command w error events) :
    ∀ event ∈ events, event.isProbe = false := by
  cases failing <;> simp

theorem SetUpFully.unexplained {events : List Event}
    (setUp : SetUpFully connector db ctx w events) : ∀ event ∈ events, event.isProbe = false := by
  cases setUp with
  | @intro batch? =>
      cases batch? <;> simp [beginEvents, modeEvents, batchEvents, setupRecord]

theorem Stopped.unexplained {events : List Event} {stop : Ending Empty}
    (stopped : Stopped connector db ctx w events stop) :
    ∀ event ∈ events, event.isProbe = false := by
  cases stopped with
  | poolClosed | forbidden => simp
  | unbegun | hookStopped => simp [beginEvents, modeEvents, setupRecord]
  | modesUnset _ _ _ failing | batchFailed _ _ failing =>
      have quiet := unexplained_of_failing failing
      rw [List.forall_mem_append, List.forall_mem_append]
      simpa [beginEvents, modeEvents, setupRecord] using quiet

/-- **No opening explains anything.** -/
theorem begin_unexplained (connector : Connector μ) (db : Database δ) (ctx : Context)
    (w : World δ μ) : ∀ event ∈ (connector.begin db ctx w).trace, event.isProbe = false := by
  have opening := opening_begin connector db ctx w
  generalize connector.begin db ctx w = run at opening ⊢
  cases opening with
  | opened setUp => exact setUp.unexplained
  | stopped stopped => exact stopped.unexplained

/-! ### The policy -/

/-- What is expected of a transaction **that the policy forbids**: opening it fails, and nothing
happens. -/
def PolicyEnforced (connector : Connector μ) (db : Database δ) (ctx : Context) (w : World δ μ) :
    Prop :=
  connector.config.requireSerializable = true → connector.levelFor ctx ≠ .serializable →
    connector.begin db ctx w = ⟨.failed (.isolationPolicy (connector.levelFor ctx)), w, []⟩

theorem forbids_iff :
    connector.forbids ctx = true ↔
      connector.config.requireSerializable = true ∧ connector.levelFor ctx ≠ .serializable := by
  simp [forbids]

theorem begin_of_poolClosed (closed : w.poolClosed = true) :
    connector.begin db ctx w = ⟨.failed (.client .poolClosed), w, []⟩ := by
  unfold begin
  rw [Action.bind_of_returned (a := w) rfl]
  dsimp only
  rw [if_pos closed]
  rfl

/-- While the pool is open, the policy is enforced. -/
theorem policyEnforced_of_live (live : w.poolClosed = false) :
    PolicyEnforced connector db ctx w := by
  intro required other
  have forbidden : connector.forbids ctx = true := forbids_iff.mpr ⟨required, other⟩
  have dead : ¬ w.poolClosed = true := by simp [live]
  unfold begin
  rw [Action.bind_of_returned (a := w) rfl]
  dsimp only
  rw [if_neg dead, isolationFor_eq, if_pos forbidden]
  rfl

/-- **A closed pool comes before the policy**: a transaction that is not serializable is not reported
as forbidden, although the default configuration forbids it. -/
theorem not_policyEnforced_of_poolClosed :
    ¬ PolicyEnforced ({} : Connector Unit) Database.agreeable
      (Context.fresh.withIsolation .readCommitted)
      { database := (), poolClosed := true, memory := () } := by
  intro enforced
  have forbidden := congrArg Run.result (enforced rfl nofun)
  rw [begin_of_poolClosed rfl] at forbidden
  cases forbidden

/-! ### The attempts of a call -/

/-- The **world in which the attempt at place `k` starts.** -/
def worldAt (connector : Connector μ) (db : Database δ) (ctx : Context)
    (body : Context → Program μ α) (w : World δ μ) (k : Nat) : World δ μ :=
  worldBefore (connector.driver db) ctx (Program.toWork db body) w k

/-- The run of the body in **the attempt at place `k`**, if that gets so far. -/
def bodyRunAt? (connector : Connector μ) (db : Database δ) (ctx : Context)
    (body : Context → Program μ α) (w : World δ μ) (k : Nat) :
    Option (Run (World δ μ × Tx) Event (Ending α)) :=
  bodyRun? (connector.driver db) (ctx.forAttempt (k + 1)) (Program.toWork db body)
    (connector.worldAt db ctx body w k)

/-- What is expected of **the openings of a call.** -/
structure SetUpFirst (connector : Connector μ) (db : Database δ) (ctx : Context)
    (body : Context → Program μ α) (w : World δ μ) : Prop where
  /-- Before the body of an attempt runs, its transaction was set up fully, in that attempt. -/
  entered : ∀ k < connector.attempts db ctx body w, ∀ ran,
    connector.bodyRunAt? db ctx body w k = some ran → ∃ opening rest,
      SetUpFully connector db (ctx.forAttempt (k + 1)) (connector.worldAt db ctx body w k) opening ∧
      connector.attemptEvents db ctx body w k = opening ++ ran.trace ++ rest
  /-- Where the body does not run, the setup was stopped, and that ends the call. -/
  stopped : ∀ k < connector.attempts db ctx body w,
    connector.bodyRunAt? db ctx body w k = none → ∃ stop,
      Stopped connector db (ctx.forAttempt (k + 1)) (connector.worldAt db ctx body w k)
        (connector.attemptEvents db ctx body w k) stop ∧
      k + 1 = connector.attempts db ctx body w ∧
      (connector.transact db ctx body w).result = stop.ofOpening
  /-- No opening explains a statement. -/
  unexplained : ∀ number (v : World δ μ),
    ∀ event ∈ (connector.begin db (ctx.forAttempt number) v).trace, event.isProbe = false
  /-- The budget changes nothing in an opening. -/
  unbudgeted : ∀ number (v : World δ μ) cost?,
    let run := connector.begin db (ctx.forAttempt number) v
    let other := (connector.withBudget cost?).begin db (ctx.forAttempt number) v
    other.result.void = run.result.void ∧ other.state = run.state ∧ other.trace = run.trace
  /-- A closed pool stops every opening, and otherwise the policy is enforced. -/
  policy : ∀ number (v : World δ μ),
    if v.poolClosed then
      connector.begin db (ctx.forAttempt number) v = ⟨.failed (.client .poolClosed), v, []⟩
    else PolicyEnforced connector db (ctx.forAttempt number) v

/-- The events of an attempt that **reaches its body**, up to the end of the body, come first. -/
theorem attemptEvents_of_entered {k : Nat} {ran : Run (World δ μ × Tx) Event (Ending α)}
    {events : List (CallEvent Event)}
    (entered : Entered (connector.driver db) (ctx.forAttempt (k + 1)) (Program.toWork db body)
      (connector.worldAt db ctx body w k) ran events) :
    ∃ rest, connector.attemptEvents db ctx body w k = worldEvents events ++ rest := by
  have run := attempt_of_entered entered rfl
  rw [attemptEvents, eventsAt, attemptRun]
  show ∃ rest, worldEvents ((attempt _ ctx (k + 1) _ (connector.worldAt db ctx body w k)).trace ++ _)
    = _
  rw [run, worldEvents_append, worldEvents_leave, worldEvents_append, List.append_assoc,
    List.append_assoc]
  exact ⟨_, rfl⟩

/-- An attempt that reaches its body **begins with the whole setup.** -/
theorem setUpFully_of_entered {ran : Run (World δ μ × Tx) Event (Ending α)}
    {events : List (CallEvent Event)}
    (entered : Entered (connector.driver db) ctx (Program.toWork db body) w ran events) :
    ∃ opening, SetUpFully connector db ctx w opening ∧
      worldEvents events = opening ++ ran.trace := by
  cases entered with
  | @intro handle opened inOpening action prepared inPreparation began preparation =>
      cases preparation
      exact ⟨inOpening, (setUpFully_of_returned began).1, worldEvents_entered ctx _ inOpening _⟩

/-- An attempt **that does not reach its body** is its opening, which was stopped. -/
theorem stopped_of_unentered {number : Nat} {run : Run (World δ μ) (CallEvent Event) (Ending α)}
    (attempted : Attempted (connector.driver db) ctx number (Program.toWork db body) w run)
    (unentered : bodyRun? (connector.driver db) ctx (Program.toWork db body) w = none) :
    ∃ stop, Stopped connector db ctx w (worldEvents run.trace) stop ∧
      run.result = stop.ofOpening := by
  have reached : ∀ {ran : Run (World δ μ × Tx) Event (Ending α)} {events},
      ¬ Entered (connector.driver db) ctx (Program.toWork db body) w ran events := by
    intro ran events entered
    rw [entered.bodyRun?_eq] at unentered
    cases unentered
  cases attempted with
  | @unopened error after inside opening =>
      refine ⟨.failed error, ?_, rfl⟩
      rw [worldEvents_begun]
      exact stopped_of_begin opening
  | @openingPanicked payload after inside opening =>
      refine ⟨.panicked payload, ?_, rfl⟩
      rw [worldEvents_begun]
      exact stopped_of_begin opening
  | preparationPanicked _ preparation => cases preparation
  | bodyFailed entered => exact absurd entered reached
  | bodyPanicked entered => exact absurd entered reached
  | committed entered => exact absurd entered reached
  | concludedByBody entered => exact absurd entered reached
  | commitFailed entered => exact absurd entered reached
  | commitPanicked entered => exact absurd entered reached

/-- An attempt whose opening was stopped **is the last one**, and nothing follows in it. -/
theorem last_of_ofOpening {k : Nat} (made : k < connector.attempts db ctx body w)
    {stop : Ending Empty}
    (result : (attemptRun (connector.driver db) ctx (Program.toWork db body) w k).result =
      stop.ofOpening) :
    k + 1 = connector.attempts db ctx body w ∧
      (connector.transact db ctx body w).result = stop.ofOpening ∧
      connector.attemptEvents db ctx body w k =
        worldEvents (attemptRun (connector.driver db) ctx (Program.toWork db body) w k).trace := by
  obtain ⟨verdict, unreported⟩ :=
    (connector.driver (μ := μ) db).verdict_ofOpening (k + 1) stop
  unfold attempts at made ⊢
  obtain ⟨last, history, count⟩ :=
    exists_history_of_made (connector.driver db) (Program.toWork db body) w made
  rw [count] at made ⊢
  obtain ⟨rfl, ending⟩ := history.last_of_verdict (Nat.le_of_lt_succ made) (by rw [result, verdict])
  refine ⟨rfl, ending, ?_⟩
  rw [attemptEvents, eventsAt, result, unreported]
  exact congrArg worldEvents (List.append_nil _)

/-- **No body runs in a transaction that is not fully set up.**  In every attempt of every call the
database accepted the beginning of the transaction, its modes and its setup batch before the body
runs; a setup that is stopped is rolled back and ends the call. -/
theorem setUpFirst (connector : Connector μ) (db : Database δ) (ctx : Context)
    (body : Context → Program μ α) (w : World δ μ) : SetUpFirst connector db ctx body w where
  entered k made ran reached := by
    obtain ⟨events, entered⟩ := exists_entered reached
    obtain ⟨rest, split⟩ := attemptEvents_of_entered entered
    obtain ⟨opening, setUp, before⟩ := setUpFully_of_entered entered
    refine ⟨opening, rest, setUp, ?_⟩
    rw [split, before]
  stopped k made unentered := by
    obtain ⟨stop, stopped, result⟩ :=
      stopped_of_unentered (attempted_attemptRun (connector.driver db) ctx _ w k) unentered
    obtain ⟨last, ending, events⟩ := last_of_ofOpening made result
    refine ⟨stop, ?_, last, ending⟩
    rw [events]
    exact stopped
  unexplained number v := begin_unexplained connector db (ctx.forAttempt number) v
  unbudgeted number v cost? := begin_withBudget connector db (ctx.forAttempt number) v cost?
  policy number v := by
    split
    · rename_i closed
      exact begin_of_poolClosed closed
    · rename_i live
      exact policyEnforced_of_live (by simpa using live)

end Connector

end Postgres

end TxRetry
