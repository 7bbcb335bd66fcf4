import TxRetry.Proofs.Postgres.Connector

/-!
# What a success says about the commit

A call that returns should have committed what its last attempt did, and an error of the hook before
the commit should be a failure of the attempt like any other.  Both hold as long as the hook does
not fail with the error by which a handle reports that it was concluded before.  That error is taken
for the handle's own, and the attempt counts as a success although nothing was committed.

## Main definitions

* `Connector.CommitFaithful` — what is expected of a call: successes are committed, and failures of
  the hook are failures

## Main statements

* `Connector.attempt_of_hook_failure` — an attempt whose hook fails, as an equation
* `Connector.committed_of_returned` — an attempt that returns has committed, unless its hook failed
  with the error of a concluded handle
* `Connector.commitFaithful_iff` — the exact condition under which a call is as expected, and what
  happens otherwise

## Design notes

**Bodies and hooks that keep their handle.**  A body that commits or rolls back its handle itself
has taken the commit out of the driver's hands.  So `Program.concludes` is assumed to be false, of
the body and of the hook, under the contexts of the attempts.
-/

namespace TxRetry.Postgres

namespace Connector

variable {δ μ α : Type} {connector : Connector μ} {db : Database δ} {ctx : Context}
variable {body : Context → Program μ α} {w : World δ μ}

/-! ### Attempts whose body and hook keep the handle -/

/-- A body that keeps its handle sends no commit and ends with the handle open. -/
theorem entered_of_kept {ran : Run (World δ μ × Tx) Event (Ending α)}
    {events : List (CallEvent Event)}
    (entered : Entered (connector.driver db) ctx (Program.toWork db body) w ran events)
    (keeps : ∀ p, (body ctx).concludes db p = false) :
    ran.state.2.isOpen = true ∧ ∀ event ∈ worldEvents events, event.isCommit = false := by
  obtain ⟨start, inOpening, opened, rfl, quiet, split⟩ := entered_cases entered
  have alone := Program.run_untouched (keeps start)
  refine ⟨alone.1.trans opened, ?_⟩
  rw [split, List.forall_mem_append]
  exact ⟨quiet, isCommit_of_untouched alone⟩

/-- A hook that keeps the handle leaves it alone. -/
theorem beforeCommit_untouched {p : World δ μ × Tx}
    (keeps : ∀ hook ∈ connector.preCommitHook, (hook ctx).concludes db p = false) :
    untouched.Holds p (connector.beforeCommit db ctx p).trace
      (connector.beforeCommit db ctx p).state := by
  unfold beforeCommit
  cases present : connector.preCommitHook with
  | none => exact untouched.idle p
  | some hook => exact Program.run_untouched (keeps hook present)

/-- A commit on an open handle whose hook fails **ends with the hook.** -/
theorem commit_of_hook_failure {hook : Context → Program μ Unit} {p : World δ μ × Tx}
    {error : Error} (opened : p.2.isOpen = true) (present : connector.preCommitHook = some hook)
    (failed : ((hook ctx).run db p).result = .failed error) :
    connector.commit db ctx p =
      ⟨.failed error, ((hook ctx).run db p).state, ((hook ctx).run db p).trace⟩ := by
  rw [commit_of_open opened, beforeCommit_of_present present, Action.bind_of_failed failed]

/-- A rollback never panics, so that a failed attempt has an error. -/
theorem exists_afterRollback_eq (α : Type) (connector : Connector μ) (db : Database δ)
    (ctx : Context) (p : World δ μ × Tx) (error : Error) :
    ∃ raised, (raised = error ∨ ∃ failure, raised = .rollback error failure) ∧
      ((connector.driver db).afterRollback error
        ((connector.driver db).rollback ctx p).result : Ending α) = .failed raised := by
  have answer : ((connector.driver db).rollback ctx p).result =
      .ofExcept ((Tx.rollback db).run p).result :=
    congrArg Run.result (Action.ofFallible_apply _ p)
  rw [answer]
  cases ((Tx.rollback db).run p).result with
  | ok => exact ⟨error, .inl rfl, rfl⟩
  | error failure =>
      cases done : (connector.driver db).isTxDone failure with
      | true => exact ⟨error, .inl rfl, if_pos done⟩
      | false =>
          refine ⟨.rollback error failure, .inr ⟨failure, rfl⟩, if_neg ?_⟩
          simp [done]

/-! ### Attempts whose hook fails -/

/-- An attempt whose hook fails **has sent no commit until then**, and its handle is still open. -/
theorem exists_commit_of_hook_failure {hookRun : Run (World δ μ × Tx) Event (Ending Unit)}
    {error : Error} (reached : connector.hookRun? db ctx body w = some hookRun)
    (failed : hookRun.result = .failed error)
    (bodyKeeps : ∀ p, (body ctx).concludes db p = false)
    (hookKeeps : ∀ hook ∈ connector.preCommitHook, ∀ p, (hook ctx).concludes db p = false) :
    ∃ ran events value,
      Entered (connector.driver db) ctx (Program.toWork db body) w ran events ∧
        ran.result = .returned value ∧
        (connector.driver db).commit ctx ran.state =
          ⟨.failed error, hookRun.state, hookRun.trace⟩ ∧
        hookRun.state.2.isOpen = true ∧
        ∀ event ∈ worldEvents events ++ hookRun.trace, event.isCommit = false := by
  obtain ⟨ran, value, hook, bodyRan, ended, opened, present, rfl⟩ := hookRun?_eq_some_iff.mp reached
  obtain ⟨events, entered⟩ := exists_entered bodyRan
  have alone := Program.run_untouched (hookKeeps hook present ran.state)
  have quiet := (entered_of_kept entered bodyKeeps).2
  refine ⟨ran, events, value, entered, ended, commit_of_hook_failure opened present failed,
    alone.1.trans opened, ?_⟩
  rw [List.forall_mem_append]
  exact ⟨quiet, isCommit_of_untouched alone⟩

section HookFailure

variable {number : Nat} {hookRun : Run (World δ μ × Tx) Event (Ending Unit)} {error : Error}

/-- A hook that fails **with the error of a concluded handle** lets its attempt succeed: the
transaction is released, which rolls it back. -/
theorem returned_of_hook_done
    (reached : connector.hookRun? db (ctx.forAttempt number) body w = some hookRun)
    (failed : hookRun.result = .failed error) (done : error.isTxDone = true)
    (bodyKeeps : ∀ p, (body (ctx.forAttempt number)).concludes db p = false)
    (hookKeeps : ∀ hook ∈ connector.preCommitHook, ∀ p,
      (hook (ctx.forAttempt number)).concludes db p = false)
    {run : Run (World δ μ) (CallEvent Event) (Ending α)}
    (made : attempt (connector.driver db) ctx number (Program.toWork db body) w = run) :
    (∃ value, run.result = .returned value) ∧
      (∀ event ∈ worldEvents run.trace, event.isCommit = false) ∧
      ∃ event ∈ worldEvents run.trace, event.isRollback = true := by
  obtain ⟨ran, events, value, entered, ended, commit, opened, quiet⟩ :=
    exists_commit_of_hook_failure reached failed bodyKeeps hookKeeps
  have rest : afterBody (connector.driver db) (ctx.forAttempt number) number ran.result ran.state =
      ⟨.returned value, hookRun.state,
        [.committed (ctx.forAttempt number) (.failed error) hookRun.trace,
          .logged (Wording.concludedByBody number)]⟩ := by
    rw [ended]
    exact commitAfter_of_done commit done
  rw [attempt_of_entered entered rest] at made
  subst made
  rw [worldEvents_leave, worldEvents_append, worldEvents_committed]
  refine ⟨⟨value, rfl⟩, ?_, ?_⟩
  · simp only [List.forall_mem_append] at quiet ⊢
    exact ⟨⟨quiet.1, quiet.2, isCommit_logged [_]⟩, Tx.release_only hookRun.state⟩
  · obtain ⟨event, among, sent⟩ := Tx.release_sends_rollback db opened
    exact ⟨event, List.mem_append_right _ among, sent⟩

/-- A hook that fails **with any other error** fails its attempt with that error, and the
transaction is rolled back. -/
theorem failed_of_hook_failed
    (reached : connector.hookRun? db (ctx.forAttempt number) body w = some hookRun)
    (failed : hookRun.result = .failed error) (other : error.isTxDone = false)
    (bodyKeeps : ∀ p, (body (ctx.forAttempt number)).concludes db p = false)
    (hookKeeps : ∀ hook ∈ connector.preCommitHook, ∀ p,
      (hook (ctx.forAttempt number)).concludes db p = false)
    {run : Run (World δ μ) (CallEvent Event) (Ending α)}
    (made : attempt (connector.driver db) ctx number (Program.toWork db body) w = run) :
    (∃ raised, (raised = error ∨ ∃ failure, raised = .rollback error failure) ∧
        run.result = .failed raised) ∧
      (∀ event ∈ worldEvents run.trace, event.isCommit = false) ∧
      ∃ event ∈ worldEvents run.trace, event.isRollback = true := by
  obtain ⟨ran, events, value, entered, ended, commit, opened, quiet⟩ :=
    exists_commit_of_hook_failure reached failed bodyKeeps hookKeeps
  have rest : afterBody (connector.driver db) (ctx.forAttempt number) number ran.result ran.state =
      let rolled := (connector.driver db).rollback (ctx.forAttempt number) hookRun.state
      ⟨(connector.driver db).afterRollback error rolled.result, rolled.state,
        .committed (ctx.forAttempt number) (.failed error) hookRun.trace ::
          .rolledBack (ctx.forAttempt number) rolled.result rolled.trace ::
            ((connector.driver db).rollbackRecords number rolled.result).map .logged⟩ := by
    rw [ended]
    show commitAfter (connector.driver db) _ number value ran.state = _
    rw [commitAfter_of_rejected commit other, rollBackAfter_apply]
  rw [attempt_of_entered entered rest] at made
  subst made
  obtain ⟨raised, kind, result⟩ :=
    exists_afterRollback_eq α connector db (ctx.forAttempt number) hookRun.state error
  refine ⟨⟨raised, kind, result⟩, ?_, ?_⟩
  · rw [worldEvents_leave, worldEvents_append, worldEvents_committed, worldEvents_rolledBack]
    simp only [List.forall_mem_append] at quiet ⊢
    exact ⟨⟨quiet.1, quiet.2, rollback_only hookRun.state, isCommit_logged _⟩, Tx.release_only _⟩
  · obtain ⟨event, among, sent⟩ := rollback_sent connector db (ctx.forAttempt number) opened
    rw [worldEvents_leave, worldEvents_append, worldEvents_committed, worldEvents_rolledBack]
    refine ⟨event, ?_, sent⟩
    simp [among]

end HookFailure

/-! ### Attempts that succeed -/

/-- **An attempt that returns has committed**, unless its hook failed with the error of a concluded
handle. -/
theorem committed_of_returned {number : Nat} {run : Run (World δ μ) (CallEvent Event) (Ending α)}
    (attempted : Attempted (connector.driver db) ctx number (Program.toWork db body) w run)
    {value : α} (returned : run.result = .returned value)
    (bodyKeeps : ∀ p, (body ctx).concludes db p = false)
    (hookKeeps : ∀ hook ∈ connector.preCommitHook, ∀ p, (hook ctx).concludes db p = false) :
    (∃ event ∈ worldEvents run.trace, event.isCommitted = true) ∨
      ∃ hookRun, connector.hookRun? db ctx body w = some hookRun ∧
        hookRun.result = .failed .txDone := by
  cases attempted with
  | unopened => cases returned
  | openingPanicked => cases returned
  | preparationPanicked _ preparation => cases preparation
  | bodyFailed => exact (Attempted.afterRollback_ne_returned _ _ _ _ returned).elim
  | bodyPanicked =>
      obtain ⟨_, panicked⟩ := exists_afterPanic_eq _ _
      cases panicked.symm.trans returned
  | @committed ran _ _ q inside entered ended commit =>
      refine .inl ?_
      cases committing_of_commit commit with
      | committed _ _ _ answer =>
          obtain ⟨event, among, accepted⟩ :=
            List.countP_pos_iff.mp (Nat.lt_of_lt_of_eq Nat.zero_lt_one
              (Tx.commit_succeeded answer).2.symm)
          refine ⟨event, ?_, accepted⟩
          rw [worldEvents_leave, worldEvents_append, worldEvents_committed]
          simp [among]
  | @concludedByBody ran _ _ error q inside entered ended commit done =>
      refine .inr ?_
      -- The body kept the handle open, so the error is not the driver's own.
      have opened := (entered_of_kept entered bodyKeeps).1
      cases committing_of_commit commit with
      | concluded closed =>
          rw [opened] at closed
          cases closed
      | @hookFailed hook ran' _ _ present run failed =>
          have kind : error = .txDone := by
            cases error with
            | txDone => rfl
            | _ => cases done
          subst kind
          have reached := hookRun?_eq_some_iff.mpr
            ⟨ran, _, hook, entered.bodyRun?_eq, ended, opened, present, run⟩
          exact ⟨ran', reached, failed⟩
      | @commitFailed before _ _ _ _ run _ answer =>
          -- The hook left the handle open, so the commit cannot have found it concluded.
          have alone : untouched.Holds ran.state before.trace before.state := by
            rw [← run]
            exact beforeCommit_untouched fun hook present => hookKeeps hook present ran.state
          have kind := (Tx.commit_failed answer).1
          rw [alone.1, opened] at kind
          exact absurd (done.symm.trans kind) (by decide)
  | commitFailed => exact (Attempted.afterRollback_ne_returned _ _ _ _ returned).elim
  | commitPanicked => cases returned

/-! ### Calls -/

/-- The run of the hook before the commit in **the attempt at place `k`**, if that gets so far. -/
def hookRunAt? (connector : Connector μ) (db : Database δ) (ctx : Context)
    (body : Context → Program μ α) (w : World δ μ) (k : Nat) :
    Option (Run (World δ μ × Tx) Event (Ending Unit)) :=
  connector.hookRun? db (ctx.forAttempt (k + 1)) body
    (worldBefore (connector.driver db) ctx (Program.toWork db body) w k)

/-- What is expected of a call: **a success was committed**, and a failure of the hook is a failure
of its attempt. -/
structure CommitFaithful (connector : Connector μ) (db : Database δ) (ctx : Context)
    (body : Context → Program μ α) (w : World δ μ) : Prop where
  /-- A call that returns has sent a commit in its last attempt, and the database accepted it. -/
  success : ∀ value, (connector.transact db ctx body w).result = .returned value →
    ∃ k, k + 1 = connector.attempts db ctx body w ∧
      ∃ event ∈ connector.attemptEvents db ctx body w k, event.isCommitted = true
  /-- After the hook failed, no commit is sent in its attempt, a rollback is, and the attempt fails
  with the hook's error, which may have the failure of the rollback added.  That error has the code
  of the hook's error, and is followed up like any other. -/
  hookFailure : ∀ k < connector.attempts db ctx body w, ∀ hookRun error,
    connector.hookRunAt? db ctx body w k = some hookRun → hookRun.result = .failed error →
    (∀ event ∈ connector.attemptEvents db ctx body w k, event.isCommit = false) ∧
      (∃ event ∈ connector.attemptEvents db ctx body w k, event.isRollback = true) ∧
      ∃ raised, (raised = error ∨ ∃ failure, raised = .rollback error failure) ∧
        raised.sqlstate = error.sqlstate ∧
        FailurePath (connector.driver db) ctx (Program.toWork db body) w
          (connector.attempts db ctx body w) k raised

/-- What the report of the decision adds to an attempt is no command. -/
theorem forall_attemptEvents {k : Nat}
    (quiet : ∀ event ∈ worldEvents
      (attemptRun (connector.driver db) ctx (Program.toWork db body) w k).trace,
      event.isCommit = false) :
    ∀ event ∈ connector.attemptEvents db ctx body w k, event.isCommit = false := by
  rw [attemptEvents, eventsAt, worldEvents_append, List.forall_mem_append]
  exact ⟨quiet, isCommit_logged _⟩

theorem mem_attemptEvents {k : Nat} {event : Event}
    (among : event ∈ worldEvents
      (attemptRun (connector.driver db) ctx (Program.toWork db body) w k).trace) :
    event ∈ connector.attemptEvents db ctx body w k := by
  rw [attemptEvents, eventsAt, worldEvents_append]
  exact List.mem_append_left _ among

section Kept

variable (bodyKeeps : ∀ number p, (body (ctx.forAttempt number)).concludes db p = false)
variable (hookKeeps : ∀ hook ∈ connector.preCommitHook, ∀ number p,
  (hook (ctx.forAttempt number)).concludes db p = false)

include bodyKeeps hookKeeps

/-- A call that returns has committed in its last attempt, unless the hook of that attempt failed
with the error of a concluded handle. -/
theorem committed_of_transact_returned {value : α}
    (returned : (connector.transact db ctx body w).result = .returned value) :
    ∃ k, k + 1 = connector.attempts db ctx body w ∧
      ((∃ event ∈ connector.attemptEvents db ctx body w k, event.isCommitted = true) ∨
        ∃ hookRun, connector.hookRunAt? db ctx body w k = some hookRun ∧
          hookRun.result = .failed .txDone) := by
  obtain ⟨last, -, count, result⟩ :=
    exists_history_of_returned (connector.driver db) (Program.toWork db body) w returned
  refine ⟨last, count.symm, ?_⟩
  rcases committed_of_returned (attempted_attemptRun ..) result (bodyKeeps (last + 1))
    (fun hook present => hookKeeps hook present (last + 1)) with ⟨event, among, accepted⟩ | swallowed
  · exact .inl ⟨event, mem_attemptEvents among, accepted⟩
  · exact .inr swallowed

/-- **A hook that fails with the error of a concluded handle** ends its call with success, and what
was done is rolled back. -/
theorem transact_of_hook_done {k : Nat} (made : k < connector.attempts db ctx body w)
    {hookRun : Run (World δ μ × Tx) Event (Ending Unit)}
    (reached : connector.hookRunAt? db ctx body w k = some hookRun)
    (failed : hookRun.result = .failed .txDone) :
    k + 1 = connector.attempts db ctx body w ∧
      (∃ value, (connector.transact db ctx body w).result = .returned value) ∧
      (∀ event ∈ connector.attemptEvents db ctx body w k, event.isCommit = false) ∧
      ∃ event ∈ connector.attemptEvents db ctx body w k, event.isRollback = true := by
  unfold attempts at made ⊢
  obtain ⟨last, history, count⟩ :=
    exists_history_of_made (connector.driver db) (Program.toWork db body) w made
  rw [count] at made ⊢
  obtain ⟨⟨value, returned⟩, quiet, event, among, sent⟩ :=
    returned_of_hook_done reached failed rfl (bodyKeeps (k + 1))
      (fun hook present => hookKeeps hook present (k + 1)) rfl
  have decided : (connector.driver db).verdict (k + 1)
      (attemptRun (connector.driver db) ctx (Program.toWork db body) w k).result =
        some (.returned value) := by
    rw [attemptRun, returned]
    rfl
  obtain ⟨rfl, result⟩ := history.last_of_verdict (Nat.le_of_lt_succ made) decided
  exact ⟨rfl, ⟨value, result⟩, forall_attemptEvents quiet, event, mem_attemptEvents among, sent⟩

/-- **A hook that fails with any other error** fails its attempt, which is rolled back, and the call
goes on as after any failure. -/
theorem transact_of_hook_failed {k : Nat} (made : k < connector.attempts db ctx body w)
    {hookRun : Run (World δ μ × Tx) Event (Ending Unit)} {error : Error}
    (reached : connector.hookRunAt? db ctx body w k = some hookRun)
    (failed : hookRun.result = .failed error) (other : error.isTxDone = false) :
    (∀ event ∈ connector.attemptEvents db ctx body w k, event.isCommit = false) ∧
      (∃ event ∈ connector.attemptEvents db ctx body w k, event.isRollback = true) ∧
      ∃ raised, (raised = error ∨ ∃ failure, raised = .rollback error failure) ∧
        raised.sqlstate = error.sqlstate ∧
        FailurePath (connector.driver db) ctx (Program.toWork db body) w
          (connector.attempts db ctx body w) k raised := by
  unfold attempts at made ⊢
  obtain ⟨last, history, count⟩ :=
    exists_history_of_made (connector.driver db) (Program.toWork db body) w made
  rw [count] at made ⊢
  obtain ⟨⟨raised, kind, result⟩, quiet, event, among, sent⟩ :=
    failed_of_hook_failed reached failed other (bodyKeeps (k + 1))
      (fun hook present => hookKeeps hook present (k + 1)) rfl
  refine ⟨forall_attemptEvents quiet, ⟨event, mem_attemptEvents among, sent⟩, raised, kind, ?_,
    history.failurePath (Nat.le_of_lt_succ made) result⟩
  rcases kind with rfl | ⟨failure, rfl⟩ <;> rfl

end Kept

/-- **What a success says about the commit**, when body and hook keep their handle.  A success was
committed, and a failure of the hook is a failure, if and only if no hook fails with the error of a
concluded handle.  A hook that does ends its call with success, and what was done is rolled back. -/
theorem commitFaithful_iff (connector : Connector μ) (db : Database δ) (ctx : Context)
    (body : Context → Program μ α) (w : World δ μ)
    (bodyKeeps : ∀ number p, (body (ctx.forAttempt number)).concludes db p = false)
    (hookKeeps : ∀ hook ∈ connector.preCommitHook, ∀ number p,
      (hook (ctx.forAttempt number)).concludes db p = false) :
    (CommitFaithful connector db ctx body w ↔
      ∀ k < connector.attempts db ctx body w, ∀ hookRun,
        connector.hookRunAt? db ctx body w k = some hookRun →
          hookRun.result ≠ .failed .txDone) ∧
    ∀ k < connector.attempts db ctx body w, ∀ hookRun,
      connector.hookRunAt? db ctx body w k = some hookRun → hookRun.result = .failed .txDone →
        k + 1 = connector.attempts db ctx body w ∧
          (∃ value, (connector.transact db ctx body w).result = .returned value) ∧
          (∀ event ∈ connector.attemptEvents db ctx body w k, event.isCommit = false) ∧
          ∃ event ∈ connector.attemptEvents db ctx body w k, event.isRollback = true := by
  refine ⟨⟨?_, ?_⟩, fun k made hookRun => transact_of_hook_done bodyKeeps hookKeeps made⟩
  · -- A swallowed error would have to fail its attempt, which returns.
    intro faithful k made hookRun reached failed
    obtain ⟨-, -, raised, -, -, path⟩ :=
      faithful.hookFailure k made hookRun .txDone reached failed
    obtain ⟨⟨value, returned⟩, -⟩ :=
      returned_of_hook_done reached failed rfl (bodyKeeps (k + 1))
        (fun hook present => hookKeeps hook present (k + 1)) rfl
    cases path.failed.symm.trans returned
  · intro kept
    refine ⟨?_, ?_⟩
    · intro value returned
      obtain ⟨k, place, committed | ⟨hookRun, reached, failed⟩⟩ :=
        committed_of_transact_returned bodyKeeps hookKeeps returned
      · exact ⟨k, place, committed⟩
      · exact absurd failed (kept k (by omega) hookRun reached)
    · intro k made hookRun error reached failed
      have other : error.isTxDone = false := by
        cases error with
        | txDone => exact absurd failed (kept k made hookRun reached)
        | _ => rfl
      exact transact_of_hook_failed bodyKeeps hookKeeps made reached failed other

/-- A hook that finds a conflict in the first attempt, and none in later ones. -/
def conflictOnce (ctx : Context) : Program Unit Unit :=
  if ctx.attempt = some 1 then Program.fail (.database serializationFailureCode "conflict")
  else Program.finish (.returned ())

/-- A call whose hook fails with a conflict is as expected, and is made again. -/
theorem commitFaithful_of_conflictOnce :
    (∀ number p, (Program.finish (.returned ()) : Program Unit Unit).concludes
      Database.agreeable (p : World Unit Unit × Tx) = false ∧
        (conflictOnce (Context.fresh.forAttempt number)).concludes Database.agreeable p = false) ∧
      Connector.attempts { preCommitHook := some conflictOnce } Database.agreeable .fresh
        (fun _ => Program.finish (.returned ())) { database := (), memory := () } = 2 ∧
      CommitFaithful { preCommitHook := some conflictOnce } Database.agreeable .fresh
        (fun _ => Program.finish (.returned ())) { database := (), memory := () } := by
  have keeps : ∀ number p, (conflictOnce (Context.fresh.forAttempt number)).concludes
      Database.agreeable (p : World Unit Unit × Tx) = false := by
    intro number p
    unfold conflictOnce
    split <;> rfl
  refine ⟨fun number p => ⟨rfl, keeps number p⟩, by decide +kernel, ?_⟩
  refine (commitFaithful_iff { preCommitHook := some conflictOnce } Database.agreeable .fresh
    (fun _ => Program.finish (.returned ())) { database := (), memory := () } (fun _ _ => rfl)
    ?_).1.mpr ?_
  · intro hook present number p
    cases present
    exact keeps number p
  · intro k _ hookRun reached
    obtain ⟨_, _, hook, _, _, _, present, rfl⟩ := hookRun?_eq_some_iff.mp reached
    cases present
    unfold conflictOnce
    split <;> exact nofun

/-- **A hook that fails with the error of a concluded handle** is taken for a success, with the
default configuration: the call returns, and only a rollback was sent. -/
theorem not_commitFaithful_of_hook_done :
    ¬ CommitFaithful { preCommitHook := some fun _ => Program.fail .txDone } Database.agreeable
      .fresh (fun _ => (Program.finish (.returned ()) : Program Unit Unit))
      { database := (), memory := () } := by
  intro faithful
  have made : 0 < Connector.attempts { preCommitHook := some fun _ => Program.fail .txDone }
      Database.agreeable .fresh (fun _ => (Program.finish (.returned ()) : Program Unit Unit))
      { database := (), memory := () } := by
    decide +kernel
  have hooked : (Connector.hookRunAt? { preCommitHook := some fun _ => Program.fail .txDone }
      Database.agreeable .fresh (fun _ => (Program.finish (.returned ()) : Program Unit Unit))
      { database := (), memory := () } 0).isSome = true := by
    decide +kernel
  obtain ⟨hookRun, reached⟩ := Option.isSome_iff_exists.mp hooked
  have failed : hookRun.result = .failed .txDone := by
    obtain ⟨_, _, hook, _, _, _, present, rfl⟩ := hookRun?_eq_some_iff.mp reached
    cases present
    rfl
  have hookKeeps : ∀ hook ∈ some fun (_ : Context) => (Program.fail .txDone : Program Unit Unit),
      ∀ number p, (hook (Context.fresh.forAttempt number)).concludes Database.agreeable
        (p : World Unit Unit × Tx) = false := by
    intro hook present number p
    cases present
    rfl
  obtain ⟨place, ⟨value, returned⟩, quiet, -⟩ :=
    transact_of_hook_done (fun _ _ => rfl) hookKeeps made reached failed
  obtain ⟨k, last, event, among, committed⟩ := faithful.success value returned
  obtain rfl : k = 0 := by omega
  have sent := Event.isCommit_of_isCommitted committed
  rw [quiet event among] at sent
  cases sent

end Connector

end TxRetry.Postgres
