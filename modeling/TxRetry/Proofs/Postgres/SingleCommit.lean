import TxRetry.Proofs.Postgres.Connector

/-!
# How often a call commits

An attempt commits once at most.  A call commits once at most, too, unless a body or a hook commits
the handle itself and fails afterwards: such an attempt is run again, and what it committed stays.

## Main definitions

* `Connector.LostCommit` — an attempt whose body or hook committed the handle and then failed

## Main statements

* `Connector.commitsIn_attempt_le_one` — an attempt commits once at most
* `Connector.commitsIn_pos_iff_of_failed` — a failed attempt has committed if and only if its commit
  was lost
* `Connector.transact_commits_once_iff` — the exact condition under which a call commits once at
  most, in its last attempt
-/

namespace TxRetry.Postgres

namespace Connector

variable {δ μ α : Type} {connector : Connector μ} {db : Database δ} {ctx : Context}
variable {body : Context → Program μ α} {w : World δ μ}

/-- The commit of an attempt is **lost** if its body or the hook commits the handle itself, the
database accepts that, and then the body or the hook fails. -/
inductive LostCommit (connector : Connector μ) (db : Database δ) (ctx : Context)
    (body : Context → Program μ α) (w : World δ μ) : Prop
  | body {ran error}
      (reached : bodyRun? (connector.driver db) ctx (Program.toWork db body) w = some ran)
      (failed : ran.result = .failed error) (committed : 0 < commitsIn ran.trace)
  | hook {ran error} (reached : connector.hookRun? db ctx body w = some ran)
      (failed : ran.result = .failed error) (committed : 0 < commitsIn ran.trace)

/-! ### Counting the commits of an attempt -/

/-- Reports do not count. -/
theorem commitsIn_logged (records : List LogRecord) :
    commitsIn (worldEvents (records.map .logged)) = 0 :=
  commitsIn_eq_zero (isCommit_logged records)

/-- What is done until the end of the body commits as often as the body. -/
theorem commitsIn_entered {ran : Run (World δ μ × Tx) Event (Ending α)}
    {events : List (CallEvent Event)}
    (entered : Entered (connector.driver db) ctx (Program.toWork db body) w ran events) :
    commitsIn (worldEvents events) = commitsIn ran.trace := by
  obtain ⟨_, inOpening, -, -, quiet, split⟩ := entered_cases entered
  rw [split, commitsIn_append, commitsIn_eq_zero quiet, Nat.zero_add]

/-- A handle that goes out of scope does not commit. -/
theorem commitsIn_leave (p : World δ μ × Tx) (events : List (CallEvent Event)) (ending : Ending α) :
    commitsIn (worldEvents ((connector.driver db).leave ctx p events ending).trace) =
      commitsIn (worldEvents events) := by
  have released : commitsIn (Tx.release db p).trace = 0 := commitsIn_eq_zero (Tx.release_only p)
  rw [worldEvents_leave, commitsIn_append, released, Nat.add_zero]

/-- A rollback does not commit, and neither does the report on it. -/
theorem commitsIn_rolledBack {p : World δ μ × Tx} {rolled : Run (World δ μ × Tx) Event (Ending Unit)}
    (rollback : (connector.driver db).rollback ctx p = rolled) (records : List LogRecord) :
    commitsIn (worldEvents (.rolledBack ctx rolled.result rolled.trace :: records.map .logged)) =
      0 := by
  have quiet : commitsIn rolled.trace = 0 := by
    rw [← rollback]
    exact commitsIn_eq_zero (rollback_only p)
  rw [worldEvents_rolledBack, commitsIn_append, quiet, commitsIn_logged]

/-- The body pays for its own commits, and leaves what is left to the commit of the driver. -/
theorem commitsIn_body_le {ran : Run (World δ μ × Tx) Event (Ending α)}
    {events : List (CallEvent Event)}
    (entered : Entered (connector.driver db) ctx (Program.toWork db body) w ran events) :
    commitsIn ran.trace + ran.state.2.isOpen.toNat ≤ 1 := by
  obtain ⟨start, _, opened, rfl, -⟩ := entered_cases entered
  have paid : _ ≤ start.2.isOpen.toNat := Program.run_oneCommit db (body ctx) start
  rwa [opened] at paid

/-- Opening a transaction does not commit one. -/
theorem commitsIn_opening {ending : Ending Tx} {after : World δ μ} {inside : List Event}
    (opening : (connector.driver db).begin ctx w = ⟨ending, after, inside⟩) :
    commitsIn inside = 0 := by
  have begun : connector.begin db ctx w = ⟨ending, after, inside⟩ := opening
  exact commitsIn_eq_zero (begin_only.holds begun)

/-- The commit of the driver commits at most as often as the handle is good for. -/
theorem commitsIn_commit_le {p q : World δ μ × Tx} {ending : Ending Unit} {inside : List Event}
    (commit : (connector.driver db).commit ctx p = ⟨ending, q, inside⟩) :
    commitsIn inside + q.2.isOpen.toNat ≤ p.2.isOpen.toNat := by
  have committed : connector.commit db ctx p = ⟨ending, q, inside⟩ := commit
  exact commit_oneCommit.holds committed

/-- The commit of the driver accounts for the handle, if it closes it. -/
theorem accounted_of_commit {p q : World δ μ × Tx} {ending : Ending Unit} {inside : List Event}
    (commit : (connector.driver db).commit ctx p = ⟨ending, q, inside⟩) :
    accounted.Holds p inside q := by
  have committed : connector.commit db ctx p = ⟨ending, q, inside⟩ := commit
  exact commit_accounted.holds committed

section Attempt

variable {number : Nat} {run : Run (World δ μ) (CallEvent Event) (Ending α)}

/-- **An attempt commits once at most.** -/
theorem commitsIn_attempt_le_one
    (attempted : Attempted (connector.driver db) ctx number (Program.toWork db body) w run) :
    commitsIn (worldEvents run.trace) ≤ 1 := by
  have both : ∀ {ran events ending q inside},
      Entered (connector.driver db) ctx (Program.toWork db body) w ran events →
      (connector.driver db).commit ctx ran.state = ⟨ending, q, inside⟩ →
        commitsIn ran.trace + commitsIn inside ≤ 1 := by
    intro ran events ending q inside entered commit
    have first := commitsIn_body_le entered
    have second := commitsIn_commit_le commit
    omega
  cases attempted with
  | unopened opening | openingPanicked opening =>
      rw [worldEvents_begun, commitsIn_opening opening]
      exact Nat.zero_le 1
  | preparationPanicked _ preparation => cases preparation
  | bodyFailed entered _ rollback | bodyPanicked entered _ rollback =>
      rw [commitsIn_leave, worldEvents_append, commitsIn_append, commitsIn_entered entered,
        commitsIn_rolledBack rollback]
      have paid := commitsIn_body_le entered
      omega
  | committed entered _ commit | concludedByBody entered _ commit | commitPanicked entered _ commit =>
      rw [commitsIn_leave, worldEvents_append, commitsIn_append, commitsIn_entered entered,
        worldEvents_committed, commitsIn_append]
      exact both entered commit
  | commitFailed entered _ commit _ rollback =>
      rw [commitsIn_leave, worldEvents_append, commitsIn_append, commitsIn_entered entered,
        worldEvents_committed, commitsIn_append, commitsIn_rolledBack rollback]
      exact both entered commit

/-- A commit that **fails while the handle is open** has committed something only if the hook had,
before it failed. -/
theorem commitsIn_pos_iff_of_commit_failed {p q : World δ μ × Tx} {error : Error}
    {inside : List Event}
    (commit : (connector.driver db).commit ctx p = ⟨.failed error, q, inside⟩)
    (rejected : error.isTxDone = false) :
    p.2.isOpen = true ∧ (0 < commitsIn inside ↔ ∃ hook cause,
      connector.preCommitHook = some hook ∧ ((hook ctx).run db p).result = .failed cause ∧
        0 < commitsIn ((hook ctx).run db p).trace) := by
  cases committing_of_commit commit with
  | concluded => cases rejected
  | @hookFailed hook _ _ opened present run ending =>
      subst run
      refine ⟨opened, ?_⟩
      constructor
      · exact fun spent => ⟨hook, error, present, ending, spent⟩
      · rintro ⟨other, _, same, -, spent⟩
        cases present.symm.trans same
        exact spent
  | @commitFailed ran _ _ _ opened run ending answer =>
      obtain ⟨kind, unspent⟩ := Tx.commit_failed answer
      have stillOpen : ran.state.2.isOpen = true := by simpa [rejected] using kind
      have paid : commitsIn ran.trace + ran.state.2.isOpen.toNat ≤ p.2.isOpen.toNat :=
        beforeCommit_oneCommit.holds run
      rw [stillOpen, opened] at paid
      have before : commitsIn ran.trace = 0 := Nat.le_zero.mp (Nat.le_of_succ_le_succ paid)
      refine ⟨opened, ?_⟩
      rw [commitsIn_append, unspent, before]
      constructor
      · exact fun spent => absurd spent (Nat.lt_irrefl 0)
      · -- A hook that fails would not have let the commit begin.
        rintro ⟨hook, cause, present, failure, -⟩
        rw [beforeCommit_of_present present] at run
        rw [run, ending] at failure
        cases failure

/-- **A failed attempt has committed** if and only if its commit was lost. -/
theorem commitsIn_pos_iff_of_failed
    (attempted : Attempted (connector.driver db) ctx number (Program.toWork db body) w run)
    {error : Error} (failed : run.result = .failed error) :
    0 < commitsIn (worldEvents run.trace) ↔ LostCommit connector db ctx body w := by
  cases attempted with
  | unopened opening =>
      have unreached : bodyRun? (connector.driver db) ctx (Program.toWork db body) w = none := by
        simp [bodyRun?, opening]
      constructor
      · intro committed
        rw [worldEvents_begun, commitsIn_opening opening] at committed
        exact absurd committed (Nat.lt_irrefl 0)
      · rintro (⟨reached, -, -⟩ | ⟨reached, -, -⟩)
        · rw [unreached] at reached
          cases reached
        · obtain ⟨_, _, _, reached, -⟩ := hookRun?_eq_some_iff.mp reached
          rw [unreached] at reached
          cases reached
  | openingPanicked => cases failed
  | preparationPanicked _ preparation => cases preparation
  | bodyFailed entered ended rollback =>
      -- What is committed is what the body committed, and no hook ran.
      rw [commitsIn_leave, worldEvents_append, commitsIn_append, commitsIn_entered entered,
        commitsIn_rolledBack rollback]
      constructor
      · exact fun committed => .body entered.bodyRun?_eq ended committed
      · rintro (⟨reached, -, committed⟩ | ⟨reached, -, -⟩)
        · rw [entered.bodyRun?_eq] at reached
          cases reached
          exact committed
        · obtain ⟨_, _, _, reached, returned, -⟩ := hookRun?_eq_some_iff.mp reached
          rw [entered.bodyRun?_eq] at reached
          cases reached
          cases ended.symm.trans returned
  | bodyPanicked =>
      obtain ⟨_, panicked⟩ := exists_afterPanic_eq _ _
      cases panicked.symm.trans failed
  | committed => cases failed
  | concludedByBody => cases failed
  | commitFailed entered ended commit rejected rollback =>
      -- The commit found the handle open, so the body committed nothing: it was the hook.
      obtain ⟨opened, byHook⟩ := commitsIn_pos_iff_of_commit_failed commit rejected
      have paid := commitsIn_body_le entered
      rw [opened] at paid
      have unspent : commitsIn _ = 0 := Nat.le_zero.mp (Nat.le_of_succ_le_succ paid)
      rw [commitsIn_leave, worldEvents_append, commitsIn_append, commitsIn_entered entered, unspent,
        worldEvents_committed, commitsIn_append, commitsIn_rolledBack rollback, Nat.zero_add,
        Nat.add_zero, byHook]
      constructor
      · rintro ⟨hook, cause, present, failure, committed⟩
        have reached := hookRun?_eq_some_iff.mpr
          ⟨_, _, hook, entered.bodyRun?_eq, ended, opened, present, rfl⟩
        exact .hook reached failure committed
      · rintro (⟨reached, failure, -⟩ | ⟨reached, failure, committed⟩)
        · rw [entered.bodyRun?_eq] at reached
          cases reached
          cases ended.symm.trans failure
        · obtain ⟨_, _, hook, entering, -, -, present, rfl⟩ := hookRun?_eq_some_iff.mp reached
          rw [entered.bodyRun?_eq] at entering
          cases entering
          exact ⟨hook, _, present, failure, committed⟩
  | commitPanicked => cases failed

/-- **An attempt that is worth another one** has committed or rolled back the transaction that it
opened. -/
theorem accounted_of_listed
    (attempted : Attempted (connector.driver db) ctx number (Program.toWork db body) w run)
    {error : Error} (failed : run.result = .failed error)
    (listed : (connector.driver db).Lists error) :
    ∃ event ∈ worldEvents run.trace, event.isCommitted = true ∨ event.isRollback = true := by
  cases attempted with
  | unopened =>
      cases failed
      exact absurd listed ((connector.driver db).not_lists_begin _)
  | openingPanicked => cases failed
  | preparationPanicked _ preparation => cases preparation
  | bodyFailed entered ended rollback =>
      obtain ⟨start, _, opened, rfl, -, split⟩ := entered_cases entered
      have before := Program.run_accounted db (body ctx) start
      obtain ⟨event, among, account⟩ := accounted_of_rollback opened before rollback
      refine ⟨event, ?_, account⟩
      rw [worldEvents_leave, worldEvents_append, split, worldEvents_rolledBack]
      rcases List.mem_append.mp among with early | late
      · simp [early]
      · simp [late]
  | bodyPanicked =>
      obtain ⟨_, panicked⟩ := exists_afterPanic_eq _ _
      cases panicked.symm.trans failed
  | committed => cases failed
  | concludedByBody => cases failed
  | commitFailed entered ended commit rejected rollback =>
      obtain ⟨start, _, opened, rfl, -, split⟩ := entered_cases entered
      have before := accounted.append (Program.run_accounted db (body ctx) start)
        (accounted_of_commit commit)
      obtain ⟨event, among, account⟩ := accounted_of_rollback opened before rollback
      refine ⟨event, ?_, account⟩
      rw [worldEvents_leave, worldEvents_append, split, worldEvents_committed,
        worldEvents_rolledBack]
      rcases List.mem_append.mp among with early | late
      · rcases List.mem_append.mp early with inBody | inCommit
        · simp [inBody]
        · simp [inCommit]
      · simp [late]
  | commitPanicked => cases failed

end Attempt

/-! ### Counting the commits of a call -/

/-- The report of the decision does not count. -/
theorem commitsIn_attemptEvents (k : Nat) :
    commitsIn (connector.attemptEvents db ctx body w k) =
      commitsIn (worldEvents
        (attemptRun (connector.driver db) ctx (Program.toWork db body) w k).trace) := by
  rw [attemptEvents, eventsAt, worldEvents_append, commitsIn_append, commitsIn_logged,
    Nat.add_zero]

/-- Attempts that commit once at most, and not before the last one, commit once at most together. -/
theorem commitsIn_flatMap_range_le {f : Nat → List Event} {n : Nat}
    (before : ∀ k, k + 1 < n → commitsIn (f k) = 0) (each : ∀ k, commitsIn (f k) ≤ 1) :
    commitsIn ((List.range n).flatMap f) ≤ 1 := by
  cases n with
  | zero => exact Nat.zero_le 1
  | succ last =>
      have early : commitsIn ((List.range last).flatMap f) = 0 := by
        rw [commitsIn, List.countP_flatMap, List.sum_eq_zero_iff_forall_eq_nat]
        intro count among
        obtain ⟨k, place, rfl⟩ := List.mem_map.mp among
        exact before k (Nat.succ_lt_succ (List.mem_range.mp place))
      rw [List.range_succ, List.flatMap_append, commitsIn_append, early, Nat.zero_add]
      show commitsIn (f last ++ []) ≤ 1
      rw [List.append_nil]
      exact each last

/-- What is expected of a call: it **commits once at most**, and only what its last attempt did. -/
structure CommitsOnce (connector : Connector μ) (db : Database δ) (ctx : Context)
    (body : Context → Program μ α) (w : World δ μ) : Prop where
  once : commitsIn (connector.transact db ctx body w).trace ≤ 1
  /-- An attempt that is followed by another one committed nothing and was rolled back. -/
  discarded : ∀ k, k + 1 < connector.attempts db ctx body w →
    commitsIn (connector.attemptEvents db ctx body w k) = 0 ∧
      ∃ event ∈ connector.attemptEvents db ctx body w k, event.isRollback = true

/-- **How often a call commits.**  An attempt commits once at most.  A call commits once at most,
and nothing of an attempt that is run again is left, if and only if no attempt that is run again
was one whose body or hook committed the handle itself and then failed. -/
theorem transact_commits_once_iff (connector : Connector μ) (db : Database δ) (ctx : Context)
    (body : Context → Program μ α) (w : World δ μ) :
    (∀ k, commitsIn (connector.attemptEvents db ctx body w k) ≤ 1) ∧
      (CommitsOnce connector db ctx body w ↔
        ∀ k, k + 1 < connector.attempts db ctx body w →
          ¬ LostCommit connector db (ctx.forAttempt (k + 1)) body
            (worldBefore (connector.driver db) ctx (Program.toWork db body) w k)) := by
  have each : ∀ k, commitsIn (connector.attemptEvents db ctx body w k) ≤ 1 := by
    intro k
    rw [commitsIn_attemptEvents]
    exact commitsIn_attempt_le_one (attempted_attemptRun ..)
  -- An attempt that is followed by another one failed, and with a listed code.
  have retried : ∀ k, k + 1 < connector.attempts db ctx body w → ∃ error,
      (attemptRun (connector.driver db) ctx (Program.toWork db body) w k).result = .failed error ∧
        (connector.driver db).Lists error := by
    intro k followed
    obtain ⟨last, history, count⟩ := exists_history_of_made (connector.driver db)
      (Program.toWork db body) w (Nat.lt_of_succ_lt followed)
    have before : k < last := by
      unfold attempts at followed
      omega
    exact (Driver.verdict_eq_none_iff.mp (history.undecided k before)).2
  refine ⟨each, ?_, ?_⟩
  · intro expected k followed lost
    obtain ⟨error, failed, -⟩ := retried k followed
    have spent := (commitsIn_pos_iff_of_failed (attempted_attemptRun ..) failed).mpr lost
    rw [← commitsIn_attemptEvents, (expected.discarded k followed).1] at spent
    exact absurd spent (Nat.lt_irrefl 0)
  · intro kept
    have none : ∀ k, k + 1 < connector.attempts db ctx body w →
        commitsIn (connector.attemptEvents db ctx body w k) = 0 := by
      intro k followed
      obtain ⟨error, failed, -⟩ := retried k followed
      by_contra spent
      rw [commitsIn_attemptEvents] at spent
      exact kept k followed ((commitsIn_pos_iff_of_failed (attempted_attemptRun ..) failed).mp
        (Nat.pos_of_ne_zero spent))
    refine ⟨?_, ?_⟩
    · rw [transact_trace]
      exact commitsIn_flatMap_range_le none each
    · intro k followed
      refine ⟨none k followed, ?_⟩
      obtain ⟨error, failed, listed⟩ := retried k followed
      obtain ⟨event, among, account⟩ :=
        accounted_of_listed (attempted_attemptRun ..) failed listed
      have here : event ∈ connector.attemptEvents db ctx body w k := by
        rw [attemptEvents, eventsAt, worldEvents_append]
        exact List.mem_append_left _ among
      -- The transaction is accounted for, and not by a commit.
      refine ⟨event, here, account.resolve_left ?_⟩
      intro committed
      have spent : 0 < commitsIn (connector.attemptEvents db ctx body w k) :=
        List.countP_pos_iff.mpr ⟨event, here, committed⟩
      rw [none k followed] at spent
      exact absurd spent (Nat.lt_irrefl 0)

/-- A body that commits in its first attempt and then reports a conflict.  Later attempts have
nothing to do. -/
def conflictAfterCommit (ctx : Context) : Program Unit Unit :=
  if ctx.attempt = some 1 then
    .step .commit fun _ => Program.fail (.database serializationFailureCode "conflict")
  else Program.finish (.returned ())

/-- **A conflict after a commit commits twice**, with the default configuration. -/
theorem not_commitsOnce_of_conflict_after_commit :
    ¬ CommitsOnce {} Database.agreeable .fresh conflictAfterCommit
      { database := (), memory := () } := by
  intro expected
  have twice : commitsIn (Connector.transact {} Database.agreeable .fresh conflictAfterCommit
      { database := (), memory := () }).trace = 2 := by
    decide +kernel
  have once := expected.once
  rw [twice] at once
  exact absurd once (by decide)

end Connector

end TxRetry.Postgres
