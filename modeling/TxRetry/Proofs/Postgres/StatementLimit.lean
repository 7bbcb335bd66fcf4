import TxRetry.Proofs.Postgres.Deadline
import TxRetry.Proofs.Setup.ExactLimit

/-!
# The limit on statements in every attempt

Every attempt computes the limit on its statements anew, at the moment at which its modes are set.  The
deadline stays that of the caller and the clock goes forward, so the limit shrinks from attempt to
attempt; and what the database is sent is exactly that limit.

## Main definitions

* `Event.batch?` — a batch that the database executed
* `Connector.setupClock`, `Connector.limitAt` — the moment at which the setup of an attempt is computed,
  and the limit that it sets then
* `Connector.LimitsExact` — what is expected of the limits of a call

## Main statements

* `Connector.batch_of_attempt` — the only batch that an attempt executes is its setup
* `Connector.setupClock_mono` — the moments of the setups follow each other
* `Connector.limitsExact` — the limits are exact, and do not grow within a call
-/

namespace TxRetry

namespace Postgres

/-! ### Batches among the events -/

/-- The batch that the database executed, if that is the event. -/
def Event.batch? : Event → Option String
  | .executed (.batch sql) _ => some sql
  | _ => none

variable {δ μ α : Type} {db : Database δ} {ctx : Context}

/-- The law that **no batch is executed.** -/
def batchless : Law (World δ μ × Tx) Event := .only fun event => event.batch? = none

theorem Tx.queriesObey_batchless (db : Database δ) :
    QueriesObey db (batchless : Law (World δ μ × Tx) Event) where
  logged record p := by
    rw [log_run]
    exact List.forall_mem_singleton.mpr rfl
  executed _ _ _ := query_only fun _ => rfl
  probed _ _ _ := query_only fun _ => rfl

/-- **No program sends a batch.** -/
theorem Program.run_batchless (program : Program μ α) : Step.Obeys (program.run db) batchless :=
  program.run_obeys_of_operations fun operation =>
    operation.perform_obeys_of_queries (Tx.queriesObey_batchless db)
      (Tx.conclude_only (fun _ => rfl) fun _ => rfl) (Tx.conclude_only (fun _ => rfl) fun _ => rfl)
      fun _ _ _ => nofun

namespace Connector

variable {connector : Connector μ} {body : Context → Program μ α} {w : World δ μ} {k : Nat}

theorem driver_batchless (connector : Connector μ) (db : Database δ) :
    DriverObeys (connector.driver db) batchless Event.logged where
  commit _ := commit_obeys_of_programs Program.run_batchless
    (Tx.conclude_only (fun _ => rfl) fun _ => rfl)
  rollback _ := Action.obeys_ofFallible (Tx.conclude_only (fun _ => rfl) fun _ => rfl)
  release := Tx.release_only_rollback fun _ => rfl
  reported _ _ _ := List.forall_mem_singleton.mpr rfl

/-! ### The batch of an attempt -/

/-- A command that fails executes no batch but itself. -/
theorem batch_of_failing {deadline : Option Instant} {command : Command} {error : Error}
    {events : List Event} (failing : Tx.Failing db deadline command w error events) {batch : String}
    {reply : Reply} (among : .executed (.batch batch) reply ∈ events) : command = .batch batch := by
  cases failing with
  | overdue => cases among
  | refused => simp_all
  | late => simp_all

/-- The batch that is executed when a transaction is handed out **is the setup batch.** -/
theorem SetUpFully.batch_computed {events : List Event}
    (setUp : SetUpFully connector db ctx w events) {batch : String} {reply : Reply}
    (among : .executed (.batch batch) reply ∈ events) :
    connector.batchFor db ctx w = .returned (some batch) := by
  cases setUp with
  | @intro batch? modesSet computed =>
      rw [computed]
      cases batch? with
      | none => simp [beginEvents, modeEvents, batchEvents, setupRecord, modeCommand] at among
      | some sent =>
          simp [beginEvents, modeEvents, batchEvents, setupRecord, modeCommand] at among
          rw [among.1]

/-- The setup batch, if there is one, is executed when a transaction is handed out. -/
theorem SetUpFully.exists_batch {events : List Event}
    (setUp : SetUpFully connector db ctx w events) :
    ∃ batch?, connector.batchFor db ctx w = .returned batch? ∧
      ∀ batch ∈ batch?, ∃ reply, .executed (.batch batch) reply ∈ events := by
  cases setUp with
  | @intro batch? modesSet computed =>
      refine ⟨batch?, computed, ?_⟩
      rintro batch rfl
      exact ⟨_, List.mem_append_right _ (.tail _ (.head _))⟩

/-- So is the batch that is executed when none is handed out, if one is. -/
theorem Stopped.batch_computed {events : List Event} {stop : Ending Empty}
    (stopped : Stopped connector db ctx w events stop) {batch : String} {reply : Reply}
    (among : .executed (.batch batch) reply ∈ events) :
    connector.batchFor db ctx w = .returned (some batch) := by
  cases stopped with
  | poolClosed => cases among
  | forbidden => cases among
  | unbegun => simp [beginEvents] at among
  | modesUnset _ _ _ failing =>
      have sent := by simpa [beginEvents, setupRecord] using among
      cases batch_of_failing failing sent
  | hookStopped => simp [beginEvents, modeEvents, setupRecord, modeCommand] at among
  | batchFailed modesSet computed failing =>
      have sent := by simpa [beginEvents, modeEvents, setupRecord, modeCommand] using among
      obtain rfl := Command.batch.inj (batch_of_failing failing sent)
      exact computed

/-- **The only batch that an opening executes** is the setup batch. -/
theorem batch_of_begin {batch : String} {reply : Reply}
    (among : .executed (.batch batch) reply ∈ (connector.begin db ctx w).trace) :
    connector.batchFor db ctx w = .returned (some batch) := by
  have opening := opening_begin connector db ctx w
  generalize connector.begin db ctx w = run at opening among
  cases opening with
  | opened setUp => exact setUp.batch_computed among
  | stopped stopped => exact stopped.batch_computed among

/-- **The only batch that an attempt executes** is the setup batch of its transaction. -/
theorem batch_of_attempt {batch : String} {reply : Reply}
    (among : .executed (.batch batch) reply ∈ connector.attemptEvents db ctx body w k) :
    connector.batchFor db (ctx.forAttempt (k + 1)) (connector.worldAt db ctx body w k) =
      .returned (some batch) := by
  rw [attemptEvents, eventsAt, worldEvents_append, List.mem_append, worldEvents_logged] at among
  rcases among with during | reported
  · rcases attempt_events_cases (driver_batchless connector db) Program.run_batchless ctx (k + 1)
      body (connector.worldAt db ctx body w k) with
      ⟨happened, -⟩ | ⟨handle, later, p, -, happened, others⟩
    · exact batch_of_begin (happened ▸ during)
    · rcases List.mem_append.mp (happened ▸ during) with opening | rest
      · exact batch_of_begin opening
      · -- Neither the driver nor a program sends a batch.
        cases others _ rest
  · simp at reported

/-! ### The moments of the setups -/

/-- The moment at which **the setup of an attempt is computed**, when the modes of its transaction are
set. -/
def setupClock (connector : Connector μ) (db : Database δ) (ctx : Context)
    (body : Context → Program μ α) (w : World δ μ) (k : Nat) : Instant :=
  (connector.afterModes db (ctx.forAttempt (k + 1)) (connector.worldAt db ctx body w k)).clock

theorem batchStage_forward : Step.Obeys (connector.batchStage db ctx) forward := by
  unfold batchStage
  refine Action.obeys_bind (Action.obeys_ofStep (Step.obeys_gets _)) fun (world, _) => ?_
  refine Action.obeys_bind (Action.obeys_ended _) fun batch? => ?_
  cases batch? with
  | none => exact Action.obeys_ended _
  | some batch => exact Action.obeys_ofFallible (Tx.executeBatch_forward _ _)

/-- A setup statement that succeeds ends at the arrival of its answer. -/
theorem clock_of_execute {p : World δ μ × Tx} {sql : String} {affected : Nat}
    (done : (Action.ofFallible (Tx.execute db ctx.withoutCostCheck sql []).run p).result =
      .returned affected) :
    (Action.ofFallible (Tx.execute db ctx.withoutCostCheck sql []).run p).state.1.clock =
      (p.1.afterSending db (.statement sql [])).clock := by
  have queried := Tx.queried_query .executed db ctx.withoutCostCheck (.statement sql []) p.1 p.2
  rw [execute_unchecked_apply] at done ⊢
  dsimp only at done ⊢
  generalize (Tx.query .executed db ctx.withoutCostCheck (.statement sql [])).run (p.1, p.2) = asked
    at queried done ⊢
  cases answered : asked.result with
  | error error =>
      rw [answered] at done
      cases done
  | ok answer =>
      obtain ⟨-, -, after, -⟩ := queried.of_ok answered
      rw [after]

/-- A setup that succeeds ends no earlier than its modes are set. -/
theorem clock_le_of_setUp {p : World δ μ × Tx}
    (done : (connector.setUp db ctx (connector.levelFor ctx) p).result = .returned ()) :
    (p.1.afterSending db (connector.modeCommand ctx)).clock ≤
      (connector.setUp db ctx (connector.levelFor ctx) p).state.1.clock := by
  rw [setUp_eq] at done ⊢
  obtain ⟨affected, modes, -⟩ := Action.exists_of_bind_returned done
  rw [Action.bind_of_returned modes, modeCommand, ← clock_of_execute modes]
  exact batchStage_forward _

/-- So a transaction is handed out **no earlier than its setup is computed.** -/
theorem clock_le_of_begin {handle : Tx} {after : World δ μ} {events : List Event}
    (opened : connector.begin db ctx w = ⟨.returned handle, after, events⟩) :
    (connector.afterModes db ctx w).clock ≤ after.clock := by
  obtain ⟨done, rfl⟩ := setUp_of_begin opened
  exact clock_le_of_setUp done

/-- The setup of the next attempt, if there is one, **is computed no earlier** than that of an attempt.
An attempt that is followed by another one has reached its body, since its opening was not stopped. -/
theorem setupClock_le_succ (made : k + 1 < connector.attempts db ctx body w) :
    connector.setupClock db ctx body w k ≤ connector.setupClock db ctx body w (k + 1) := by
  cases reached : connector.bodyRunAt? db ctx body w k with
  | none =>
      have last := last_of_unentered (Nat.lt_of_succ_lt made) reached
      omega
  | some ran =>
      obtain ⟨handle, opened, inside, began, run⟩ := exists_begin_of_bodyRunAt? reached
      have during : opened.clock ≤ ran.state.1.clock := by
        rw [← run]
        exact (body (ctx.forAttempt (k + 1))).run_forward (opened, handle)
      have atBody : connector.setupClock db ctx body w k ≤ opened.clock := clock_le_of_begin began
      have atNext : (connector.worldAt db ctx body w (k + 1)).clock ≤
          connector.setupClock db ctx body w (k + 1) :=
        Instant.le_trans (World.clock_le_afterSending _ db .begin)
          (World.clock_le_afterSending _ db _)
      exact Instant.le_trans atBody (Instant.le_trans during
        (Instant.le_trans (clock_le_worldAt_succ reached) atNext))

/-- **The moments of the setups follow each other.** -/
theorem setupClock_mono {j : Nat} (order : j ≤ k) (made : k < connector.attempts db ctx body w) :
    connector.setupClock db ctx body w j ≤ connector.setupClock db ctx body w k := by
  induction k, order using Nat.le_induction with
  | base => exact Instant.le_refl _
  | succ k order ih => exact Instant.le_trans (ih (Nat.lt_of_succ_lt made)) (setupClock_le_succ made)

/-! ### The limits of a call -/

/-- The **limit of an attempt** under a deadline, as the rules say. -/
def limitAt (connector : Connector μ) (db : Database δ) (ctx : Context)
    (body : Context → Program μ α) (w : World δ μ) (deadline : Instant) (k : Nat) : ℕ :=
  exactLimit deadline (connector.setupClock db ctx body w k) connector.config.statementTimeoutGrace

/-- The statements of the setup in an attempt under a deadline, after those of the hook. -/
def limitStatements (connector : Connector μ) (db : Database δ) (ctx : Context)
    (body : Context → Program μ α) (w : World δ μ) (deadline : Instant) (k : Nat) : List String :=
  timeoutSql (connector.limitAt db ctx body w deadline k) ::
    seqscanStatements connector.setupOptions

/-- What is expected of **the limits on statements**, in general and in a call. -/
structure LimitsExact (connector : Connector μ) (db : Database δ) (ctx : Context)
    (body : Context → Program μ α) (w : World δ μ) : Prop where
  /-- Setup sets the limit that the rules say, right after what the hook adds. -/
  exact : ∀ (c : Context) hook? hooked options now deadline, c.deadline = some deadline →
    hookStatements hook? c = .returned hooked →
      setupStatements c hook? options now = .returned (hooked ++
        (timeoutSql (exactLimit deadline now options.statementTimeoutGrace) ::
          seqscanStatements options))
  /-- The longest length of time plays no part in that. -/
  unsaturated : ∀ remaining grace, statementTimeout remaining grace =
    min (Duration.ceilMillis ⟨remaining.nanos + grace.nanos⟩) longestStatementTimeout
  /-- Up to the longest limit, no time is cut off, and less than one millisecond is added. -/
  within : ∀ deadline now grace, exactTime deadline now grace ≤ 2147483647 →
    exactTime deadline now grace ≤ exactLimit deadline now grace ∧
      (exactLimit deadline now grace : ℚ) < exactTime deadline now grace + 1
  /-- Beyond, the limit is the longest one. -/
  beyond : ∀ deadline now grace, 2147483647 ≤ exactTime deadline now grace →
    exactLimit deadline now grace = 2147483647
  /-- A later deadline, an earlier moment and a longer grace do not make the limit shorter. -/
  monotone : ∀ {deadline deadline' now now' : Instant} {grace grace' : Duration},
    deadline ≤ deadline' → now' ≤ now → grace.nanos ≤ grace'.nanos →
      exactLimit deadline now grace ≤ exactLimit deadline' now' grace'
  /-- The only batch of an attempt is its setup, with the limit under the deadline of the caller at the
  moment of the setup. -/
  sent : ∀ deadline, ctx.deadline = some deadline → ∀ k < connector.attempts db ctx body w,
    ∀ batch reply, .executed (.batch batch) reply ∈ connector.attemptEvents db ctx body w k →
      ∃ hooked, hookStatements connector.beginHook (ctx.forAttempt (k + 1)) = .returned hooked ∧
        batchText (hooked ++ connector.limitStatements db ctx body w deadline k) = some batch
  /-- Every attempt that reaches its body has sent it. -/
  entered : ∀ deadline, ctx.deadline = some deadline → ∀ k < connector.attempts db ctx body w,
    ∀ ran, connector.bodyRunAt? db ctx body w k = some ran →
      ∃ batch reply, .executed (.batch batch) reply ∈ connector.attemptEvents db ctx body w k
  /-- The clock does not go back between the setups of a call, -/
  forward : ∀ j k, j ≤ k → k < connector.attempts db ctx body w →
    connector.setupClock db ctx body w j ≤ connector.setupClock db ctx body w k
  /-- so that no attempt has a longer limit than one before it. -/
  shrinking : ∀ deadline j k, j ≤ k → k < connector.attempts db ctx body w →
    connector.limitAt db ctx body w deadline k ≤ connector.limitAt db ctx body w deadline j

/-- Setup under a deadline sets **the exact limit.** -/
theorem setupStatements_of_deadline {c : Context} {hook? : Option BeginHook} {hooked : List String}
    {options : SetupOptions} {now deadline : Instant} (timed : c.deadline = some deadline)
    (hooks : hookStatements hook? c = .returned hooked) :
    setupStatements c hook? options now = .returned (hooked ++
      (timeoutSql (exactLimit deadline now options.statementTimeoutGrace) ::
        seqscanStatements options)) := by
  rw [setupStatements_of_returned hooks, timeoutStatements_of_deadline timed,
    statementTimeout_eq_exactLimit, List.singleton_append]

/-- The setup batch of an attempt under a deadline, if it is computed at all, **is there, and has the
limit of the attempt.** -/
theorem exists_batch_of_deadline {deadline : Instant} (timed : ctx.deadline = some deadline)
    {batch? : Option String}
    (computed : connector.batchFor db (ctx.forAttempt (k + 1)) (connector.worldAt db ctx body w k) =
      .returned batch?) :
    ∃ hooked batch, hookStatements connector.beginHook (ctx.forAttempt (k + 1)) = .returned hooked ∧
      batchText (hooked ++ connector.limitStatements db ctx body w deadline k) = some batch ∧
        batch? = some batch := by
  have setup : (setupStatements (ctx.forAttempt (k + 1)) connector.beginHook connector.setupOptions
      (connector.setupClock db ctx body w k)).map batchText = .returned batch? := computed
  cases hooks : hookStatements connector.beginHook (ctx.forAttempt (k + 1)) with
  | failed error =>
      rw [show setupStatements _ _ _ _ = Ending.map _ (hookStatements _ _) from rfl, hooks] at setup
      cases setup
  | panicked payload =>
      rw [show setupStatements _ _ _ _ = Ending.map _ (hookStatements _ _) from rfl, hooks] at setup
      cases setup
  | returned hooked =>
      have timed : (ctx.forAttempt (k + 1)).deadline = some deadline := timed
      -- There is a statement in any case, the one that sets the limit.
      obtain ⟨batch, joined⟩ : ∃ batch, batchText
          (hooked ++ connector.limitStatements db ctx body w deadline k) = some batch := by
        cases hooked <;> exact ⟨_, rfl⟩
      rw [setupStatements_of_deadline timed hooks] at setup
      exact ⟨hooked, batch, rfl, joined, (Ending.returned.inj setup).symm.trans joined⟩

/-- **The limits on statements are exact**, for every deadline, moment and grace, and within a call they
do not grow. -/
theorem limitsExact (connector : Connector μ) (db : Database δ) (ctx : Context)
    (body : Context → Program μ α) (w : World δ μ) : LimitsExact connector db ctx body w where
  exact c hook? hooked options now deadline timed hooks := setupStatements_of_deadline timed hooks
  unsaturated remaining grace := statementTimeout_eq_min remaining grace
  within deadline now grace within := by
    rw [exactLimit_eq_ceil within]
    exact ⟨Nat.le_ceil _, Nat.ceil_lt_add_one (exactTime_nonneg deadline now grace)⟩
  beyond deadline now grace beyond := exactLimit_eq_longest beyond
  monotone later earlier longer := exactLimit_mono later earlier longer
  sent deadline timed k _ batch reply among := by
    obtain ⟨hooked, text, hooks, joined, same⟩ :=
      exists_batch_of_deadline timed (batch_of_attempt among)
    obtain rfl := Option.some.inj same
    exact ⟨hooked, hooks, joined⟩
  entered deadline timed k made ran reached := by
    obtain ⟨opening, rest, setUp, events⟩ :=
      (setUpFirst connector db ctx body w).entered k made ran reached
    obtain ⟨batch?, computed, executed⟩ := setUp.exists_batch
    obtain ⟨-, batch, -, -, present⟩ := exists_batch_of_deadline timed computed
    obtain ⟨reply, among⟩ := executed batch present
    rw [events]
    exact ⟨batch, reply, List.mem_append_left _ (List.mem_append_left _ among)⟩
  forward j k order made := setupClock_mono order made
  shrinking deadline j k order made :=
    exactLimit_mono (Instant.le_refl deadline) (setupClock_mono order made) (Nat.le_refl _)

end Connector

end Postgres

end TxRetry
