import TxRetry.Proofs.Postgres.Clock
import TxRetry.Proofs.Postgres.FullSetup

/-!
# Deadlines end a call

The retry loop does not look at the clock.  That a call does not outlive the deadline of its context
is due to the setup of each attempt, whose statements are under the deadline, and to the error with
which they fail, which is never worth another attempt.

## Main definitions

* `Connector.Begun` — the database accepted the beginning of a transaction
* `Connector.Overtaken` — the deadline comes while a transaction is set up, or came before
* `Connector.TimedOut` — what happens then
* `Connector.GivenUp` — what happens after a body that failed by the deadline
* `Connector.DeadlineKept` — what is expected of a call whose context has a deadline

## Main statements

* `Connector.early_of_begin` — a transaction is handed out before the deadline
* `Connector.begin_of_overtaken` — one that is overtaken is not handed out
* `Connector.deadlineKept` — no body starts after the deadline, and nothing is tried again for it

## Design notes

**The deadline is that of the caller,** and every attempt has the same one: neither the number of an
attempt nor the lack of a cost check changes it.

**No deadline never comes,** so the statements hold of every context.
-/

namespace TxRetry

namespace Driver

variable {σ ν η : Type}

/-- A passed deadline is never listed, **whatever the codes are.** -/
theorem not_lists_deadlineExceeded (driver : Driver σ ν η) : ¬ driver.Lists .deadlineExceeded := by
  rintro ⟨code, -, carries⟩
  cases carries

/-- An error that is not listed stays so, whatever the rollback after it answers. -/
theorem exists_afterRollback_eq {α : Type} {driver : Driver σ ν η} {error : Error}
    (unlisted : ¬ driver.Lists error) {answer : Ending Unit}
    (answered : ∀ payload, answer ≠ .panicked payload) :
    ∃ final, driver.afterRollback error answer = (.failed final : Ending α) ∧
      ¬ driver.Lists final ∧ (answer = .returned () → final = error) ∧
      ∀ failure, answer = .failed failure →
        final = if driver.isTxDone failure then error else .rollback error failure := by
  cases answer with
  | returned =>
      refine ⟨error, rfl, unlisted, fun _ => rfl, ?_⟩
      rintro _ ⟨⟩
  | panicked payload => exact absurd rfl (answered payload)
  | failed failure =>
      rw [afterRollback]
      split
      · rename_i done
        refine ⟨error, rfl, unlisted, by rintro ⟨⟩, ?_⟩
        rintro _ ⟨⟩
        exact (if_pos done).symm
      · rename_i failing
        refine ⟨.rollback error failure, rfl, mt lists_rollback_iff.mp unlisted, by rintro ⟨⟩, ?_⟩
        rintro _ ⟨⟩
        exact (if_neg failing).symm

end Driver

namespace Postgres

variable {δ μ α : Type} {db : Database δ} {ctx : Context}

theorem Reply.exists_answer_of_accepted {reply : Reply} (accepted : reply.accepted = true) :
    ∃ answer, reply.answer = .ok answer := by
  obtain ⟨outcome, delay⟩ := reply
  cases outcome with
  | ok answer => exact ⟨answer, rfl⟩
  | error | lost => cases accepted

namespace Tx

variable {command : Command} {w : World δ μ} {tx : Tx}

/-- A query that succeeds was answered in time. -/
theorem early_of_query {p : World δ μ × Tx} {answer : Answer}
    (answered : ((query .executed db ctx command).run p).result = .ok answer) :
    isDue ctx.deadline ((query .executed db ctx command).run p).state.1.clock = false := by
  obtain ⟨-, timely, after, -⟩ := (queried_query .executed db ctx command p.1 p.2).of_ok answered
  rw [after]
  exact timely

/-- A query **whose reply would come too late** fails by the deadline, sent or not. -/
theorem query_of_due (opened : tx.isOpen = true) (free : tx.late = none)
    (due : isDue ctx.deadline (w.afterSending db command).clock = true) :
    ((query .executed db ctx command).run (w, tx)).result = .error .deadlineExceeded := by
  have queried := queried_query .executed db ctx command w tx
  generalize (query .executed db ctx command).run (w, tx) = run at queried ⊢
  cases queried with
  | concluded closed => cases opened.symm.trans closed
  | overdue => rfl
  | overtaken _ waiting => cases free.symm.trans waiting
  | answered _ _ _ timely => cases due.symm.trans timely
  | late => rfl

/-- What comes of a query whose reply would come too late. -/
theorem failing_of_due (opened : tx.isOpen = true) (free : tx.late = none)
    (due : isDue ctx.deadline (w.afterSending db command).clock = true) :
    ((query .executed db ctx command).run (w, tx)).result = .error .deadlineExceeded ∧
      Failing db ctx.deadline command w .deadlineExceeded
        ((query .executed db ctx command).run (w, tx)).trace ∧
      ((query .executed db ctx command).run (w, tx)).state.2.isOpen = true := by
  have failed := query_of_due opened free due
  exact ⟨failed, failing_of_query opened free (queried_query .executed db ctx command w tx) failed⟩

end Tx

namespace Connector

variable {connector : Connector μ} {body : Context → Program μ α} {w : World δ μ}

/-! ### What is handed out in time -/

section Early

variable {p : World δ μ × Tx}

/-- A setup statement that succeeds was answered in time. -/
theorem early_of_execute {sql : String} {affected : Nat}
    (done : (Action.ofFallible (Tx.execute db ctx.withoutCostCheck sql []).run p).result =
      .returned affected) :
    isDue ctx.deadline
      (Action.ofFallible (Tx.execute db ctx.withoutCostCheck sql []).run p).state.1.clock =
        false := by
  rw [execute_unchecked_apply] at done ⊢
  dsimp only at done ⊢
  cases answered :
      ((Tx.query .executed db ctx.withoutCostCheck (.statement sql [])).run p).result with
  | error error =>
      rw [answered] at done
      cases done
  | ok answer =>
      have early := Tx.early_of_query answered
      exact early

/-- So was a setup batch, if there is one. -/
theorem early_of_sendBatch {batch? : Option String} (early : isDue ctx.deadline p.1.clock = false)
    (done : (sendBatch db ctx batch? p).result = .returned ()) :
    isDue ctx.deadline (sendBatch db ctx batch? p).state.1.clock = false := by
  cases batch? with
  | none => exact early
  | some batch =>
      rw [sendBatch_apply] at done ⊢
      dsimp only at done ⊢
      cases answered :
          ((Tx.query .executed db ctx.withoutCostCheck (.batch batch)).run p).result with
      | error error =>
          rw [answered] at done
          cases done
      | ok answer =>
          have early := Tx.early_of_query answered
          exact early

/-- A setup that succeeds ends **before the deadline.** -/
theorem early_of_setUp
    (done : (connector.setUp db ctx (connector.levelFor ctx) p).result = .returned ()) :
    isDue ctx.deadline (connector.setUp db ctx (connector.levelFor ctx) p).state.1.clock =
      false := by
  rw [setUp_eq] at done ⊢
  obtain ⟨affected, modes, stage⟩ := Action.exists_of_bind_returned done
  rw [Action.bind_of_returned modes]
  dsimp only
  have early := early_of_execute modes
  generalize (Action.ofFallible (Tx.execute db ctx.withoutCostCheck
    (connector.modeText ctx) []).run p).state = q at early stage ⊢
  unfold batchStage at stage ⊢
  rw [Action.bind_of_returned rfl] at stage ⊢
  dsimp only at stage ⊢
  obtain ⟨batch?, computed, sent⟩ := Action.exists_of_bind_returned stage
  rw [Action.bind_of_returned computed]
  exact early_of_sendBatch early sent

end Early

/-- The database accepted **the beginning of a transaction.** -/
structure Begun (connector : Connector μ) (db : Database δ) (ctx : Context) (w : World δ μ) :
    Prop where
  live : w.poolClosed = false
  allowed : connector.forbids ctx = false
  accepted : (w.replyTo db .begin).accepted = true

theorem SetUpFully.begun {events : List Event} (setUp : SetUpFully connector db ctx w events) :
    Begun connector db ctx w := by
  cases setUp with
  | intro modesSet => exact ⟨modesSet.live, modesSet.allowed, modesSet.begun⟩

/-- A transaction that was begun is set up next. -/
theorem begin_of_begun (begun : Begun connector db ctx w) :
    connector.begin db ctx w =
      let run := connector.setUpOrRelease db ctx (connector.levelFor ctx)
        (w.afterSending db .begin, connector.openHandle)
      ⟨run.result, run.state.1, beginEvents db w ++ run.trace⟩ := by
  obtain ⟨answer, answered⟩ := Reply.exists_answer_of_accepted begun.accepted
  unfold begin
  rw [Action.bind_of_returned (a := w) rfl]
  dsimp only
  rw [isolationFor_eq, begun.live, begun.allowed]
  simp only [Bool.false_eq_true, if_false]
  rw [Action.bind_of_returned (a := connector.levelFor ctx) rfl,
    Action.bind_of_returned (a := w.replyTo db .begin) rfl, answered]
  rfl

/-- A transaction that is handed out is left **as its setup left it.** -/
theorem setUp_of_begin {handle : Tx} {after : World δ μ} {events : List Event}
    (opened : connector.begin db ctx w = ⟨.returned handle, after, events⟩) :
    let setUp := connector.setUp db ctx (connector.levelFor ctx)
      (w.afterSending db .begin, connector.openHandle)
    setUp.result = .returned () ∧ setUp.state.1 = after := by
  rw [begin_of_begun (setUpFully_of_returned opened).1.begun] at opened
  dsimp only at opened ⊢
  have stopped : ∀ stop : Ending Empty, (connector.setUp db ctx (connector.levelFor ctx)
      (w.afterSending db .begin, connector.openHandle)).result ≠ stop.stopped := by
    intro stop result
    rw [setUpOrRelease_of_stopped result] at opened
    exact stop.stopped_ne_returned handle (congrArg Run.result opened)
  cases result : (connector.setUp db ctx (connector.levelFor ctx)
      (w.afterSending db .begin, connector.openHandle)).result with
  | failed error => exact absurd result (stopped (.failed error))
  | panicked payload => exact absurd result (stopped (.panicked payload))
  | returned =>
      rw [setUpOrRelease_of_returned result] at opened
      cases opened
      exact ⟨rfl, rfl⟩

/-- **A transaction is handed out before the deadline.** -/
theorem early_of_begin {handle : Tx} {after : World δ μ} {events : List Event}
    (opened : connector.begin db ctx w = ⟨.returned handle, after, events⟩) :
    isDue ctx.deadline after.clock = false := by
  obtain ⟨result, state⟩ := setUp_of_begin opened
  rw [← state]
  exact early_of_setUp result

/-! ### What is overtaken -/

/-- The deadline **comes while a transaction is set up**, or came before. -/
inductive Overtaken (connector : Connector μ) (db : Database δ) (ctx : Context) (w : World δ μ) :
    Prop
  /-- When the modes are set, or would have been, the deadline has come. -/
  | modes (due : isDue ctx.deadline (connector.afterModes db ctx w).clock = true)
  /-- The modes were set in time, but when the batch is executed the deadline has come. -/
  | batch {batch} (modesSet : ModesSet connector db ctx w)
      (early : isDue ctx.deadline (connector.afterModes db ctx w).clock = false)
      (computed : connector.batchFor db ctx w = .returned (some batch))
      (due : isDue ctx.deadline
        ((connector.afterModes db ctx w).afterSending db (.batch batch)).clock = true)

/-- A deadline that has come **before a transaction is begun** overtakes it. -/
theorem overtaken_of_due (due : isDue ctx.deadline w.clock = true) :
    Overtaken connector db ctx w :=
  .modes (isDue_of_le (isDue_of_le due (w.clock_le_afterSending db .begin))
    (World.clock_le_afterSending _ db _))

/-- What happens when **a setup statement fails by the deadline**: no other statement follows, and
the transaction is rolled back. -/
inductive TimedOut (connector : Connector μ) (db : Database δ) (ctx : Context) (w : World δ μ) :
    List Event → Prop
  | modes {sent undone}
      (failing : Tx.Failing db ctx.deadline (connector.modeCommand ctx) (w.afterSending db .begin)
        .deadlineExceeded sent) :
      TimedOut connector db ctx w
        (beginEvents db w ++ connector.setupRecord (connector.modeText ctx) :: sent ++
          [.executed .rollback undone])
  | batch {batch sent undone}
      (failing : Tx.Failing db ctx.deadline (.batch batch) (connector.afterModes db ctx w)
        .deadlineExceeded sent) :
      TimedOut connector db ctx w
        (beginEvents db w ++ connector.modeEvents db ctx w ++ connector.setupRecord batch :: sent ++
          [.executed .rollback undone])

/-- How a setup ends that **fails by the deadline.** -/
structure SetUpTimedOut (connector : Connector μ) (db : Database δ) (ctx : Context) (w : World δ μ)
    (run : Run (World δ μ × Tx) Event (Ending Unit)) : Prop where
  failed : run.result = .failed .deadlineExceeded
  opened : run.state.2.isOpen = true
  timedOut : ∀ undone,
    TimedOut connector db ctx w (beginEvents db w ++ run.trace ++ [.executed .rollback undone])

/-- Where setting the modes is overtaken, the setup fails by the deadline. -/
theorem setUp_of_overtaken_modes
    (due : isDue ctx.deadline (connector.afterModes db ctx w).clock = true) :
    SetUpTimedOut connector db ctx w (connector.setUp db ctx (connector.levelFor ctx)
      (w.afterSending db .begin, connector.openHandle)) := by
  have due : isDue ctx.withoutCostCheck.deadline ((w.afterSending db .begin).afterSending db
      (.statement (connector.modeText ctx) [])).clock = true := due
  have opened : connector.openHandle.isOpen = true := rfl
  obtain ⟨failed, failing, stillOpen⟩ := Tx.failing_of_due opened rfl due
  have modes : (Action.ofFallible
      (Tx.execute db ctx.withoutCostCheck (connector.modeText ctx) []).run
      (w.afterSending db .begin, connector.openHandle)).result = .failed .deadlineExceeded := by
    rw [execute_unchecked_apply]
    dsimp only
    rw [failed]
    rfl
  rw [setUp_eq, Action.bind_of_failed modes, execute_unchecked_apply]
  exact ⟨rfl, stillOpen, fun undone => .modes failing⟩

/-- Modes that are set in time leave the handle and the clock where the batch finds them. -/
theorem execute_of_modesSet (modesSet : ModesSet connector db ctx w)
    (early : isDue ctx.deadline (connector.afterModes db ctx w).clock = false) :
    ∃ affected, Action.ofFallible
        (Tx.execute db ctx.withoutCostCheck (connector.modeText ctx) []).run
        (w.afterSending db .begin, connector.openHandle) =
      ⟨.returned affected, (connector.afterModes db ctx w, connector.openHandle),
        connector.modeEvents db ctx w⟩ := by
  have before : isDue ctx.withoutCostCheck.deadline (w.afterSending db .begin).clock = false := by
    by_contra due
    have late := isDue_of_le (by simpa using due) (World.clock_le_afterSending _ db
      (connector.modeCommand ctx))
    cases early.symm.trans late
  have opened : connector.openHandle.isOpen = true := rfl
  obtain ⟨answer, answered⟩ := Reply.exists_answer_of_accepted modesSet.modes
  have timely : ¬ isDue ctx.withoutCostCheck.deadline ((w.afterSending db .begin).afterSending db
      (.statement (connector.modeText ctx) [])).clock = true := Bool.eq_false_iff.mp early
  rw [execute_unchecked_apply, Tx.query_of_early opened rfl before]
  dsimp only
  rw [if_neg timely]
  dsimp only
  refine ⟨answer.rowsAffected, ?_⟩
  rw [show ((w.afterSending db .begin).replyTo db (.statement (connector.modeText ctx) [])).answer =
    .ok answer from answered]
  rfl

/-- The stage of the batch is the sending of what the hook computed. -/
theorem batchStage_of_computed {p : World δ μ × Tx} {batch? : Option String}
    (computed : setupBatch ctx connector.beginHook connector.setupOptions p.1.clock =
      .returned batch?) :
    connector.batchStage db ctx p = sendBatch db ctx batch? p := by
  have looked : connector.batchStage db ctx p =
      (Action.ended (setupBatch ctx connector.beginHook connector.setupOptions p.1.clock) >>=
        sendBatch db ctx) p := by
    unfold batchStage
    rw [Action.bind_of_returned rfl]
    rfl
  rw [looked, computed, Action.bind_of_returned rfl]
  rfl

/-- Where the batch is overtaken, the setup fails by the deadline too. -/
theorem setUp_of_overtaken_batch {batch : String} (modesSet : ModesSet connector db ctx w)
    (early : isDue ctx.deadline (connector.afterModes db ctx w).clock = false)
    (computed : connector.batchFor db ctx w = .returned (some batch))
    (due : isDue ctx.deadline
      ((connector.afterModes db ctx w).afterSending db (.batch batch)).clock = true) :
    SetUpTimedOut connector db ctx w (connector.setUp db ctx (connector.levelFor ctx)
      (w.afterSending db .begin, connector.openHandle)) := by
  obtain ⟨affected, modes⟩ := execute_of_modesSet modesSet early
  have due : isDue ctx.withoutCostCheck.deadline
    ((connector.afterModes db ctx w).afterSending db (.batch batch)).clock = true := due
  have opened : connector.openHandle.isOpen = true := rfl
  obtain ⟨failed, failing, stillOpen⟩ := Tx.failing_of_due opened rfl due
  rw [setUp_eq, Action.bind_of_returned (by rw [modes]), modes]
  dsimp only
  rw [show connector.batchStage db ctx (connector.afterModes db ctx w, connector.openHandle) =
    sendBatch db ctx (some batch) _ from batchStage_of_computed computed, sendBatch_apply]
  dsimp only
  rw [failed]
  refine ⟨rfl, stillOpen, fun undone => ?_⟩
  dsimp only
  rw [← List.append_assoc]
  exact .batch failing

/-- **A transaction that is overtaken is not handed out.**  Its setup fails by the deadline. -/
theorem begin_of_overtaken (begun : Begun connector db ctx w)
    (overtaken : Overtaken connector db ctx w) :
    ∃ after events, connector.begin db ctx w = ⟨.failed .deadlineExceeded, after, events⟩ ∧
      TimedOut connector db ctx w events := by
  have setUp : SetUpTimedOut connector db ctx w (connector.setUp db ctx (connector.levelFor ctx)
      (w.afterSending db .begin, connector.openHandle)) := by
    cases overtaken with
    | modes due => exact setUp_of_overtaken_modes due
    | batch modesSet early computed due =>
        exact setUp_of_overtaken_batch modesSet early computed due
  have stopped : _ = (Ending.failed .deadlineExceeded : Ending Empty).stopped := setUp.failed
  rw [begin_of_begun begun, setUpOrRelease_of_stopped stopped]
  dsimp only
  rw [Tx.release_of_open setUp.opened, ← List.append_assoc]
  exact ⟨_, _, rfl, setUp.timedOut _⟩

/-! ### What becomes of a call -/

/-- What is expected of a call when a transaction is **overtaken by the deadline**: its setup fails,
and with it the call. -/
structure EndedByDeadline (connector : Connector μ) (db : Database δ) (ctx : Context)
    (body : Context → Program μ α) (w : World δ μ) (k : Nat) : Prop where
  timedOut : TimedOut connector db (ctx.forAttempt (k + 1)) (connector.worldAt db ctx body w k)
    (connector.attemptEvents db ctx body w k)
  unentered : connector.bodyRunAt? db ctx body w k = none
  last : k + 1 = connector.attempts db ctx body w
  result_eq : (connector.transact db ctx body w).result = .failed (.begin .deadlineExceeded)

/-- What is expected of a call **after a body that failed with an error which is not listed**, given
how the driver rolled back then. -/
structure GivenUp (connector : Connector μ) (db : Database δ) (ctx : Context)
    (body : Context → Program μ α) (w : World δ μ) (k : Nat) (error : Error)
    (ran : Run (World δ μ × Tx) Event (Ending α))
    (rolled : Run (World δ μ × Tx) Event (Ending Unit)) : Prop where
  last : k + 1 = connector.attempts db ctx body w
  /-- The rollback follows the body. -/
  rolledBack : ∃ before after,
    connector.attemptEvents db ctx body w k = before ++ ran.trace ++ rolled.trace ++ after
  /-- It is sent, unless the body concluded the handle itself. -/
  sent : ran.state.2.isOpen = true → ∃ event ∈ rolled.trace, event.isRollback = true
  answered : ∀ payload, rolled.result ≠ .panicked payload
  /-- The call ends with the error of the body, -/
  result_of_rolledBack : rolled.result = .returned () →
    (connector.transact db ctx body w).result = .failed error
  /-- to which the failure of the rollback is added, if it is one. -/
  result_of_failed : ∀ failure, rolled.result = .failed failure →
    (connector.transact db ctx body w).result =
      .failed (if failure.isTxDone then error else .rollback error failure)

/-- What is expected of **a call whose context has a deadline.** -/
structure DeadlineKept (connector : Connector μ) (db : Database δ) (ctx : Context)
    (body : Context → Program μ α) (w : World δ μ) : Prop where
  /-- Every body starts before the deadline, on the handle that was handed out for it. -/
  inTime : ∀ k < connector.attempts db ctx body w, ∀ ran,
    connector.bodyRunAt? db ctx body w k = some ran → ∃ handle opened inside,
      connector.begin db (ctx.forAttempt (k + 1)) (connector.worldAt db ctx body w k) =
        ⟨.returned handle, opened, inside⟩ ∧
      (body (ctx.forAttempt (k + 1))).run db (opened, handle) = ran ∧
      isDue ctx.deadline opened.clock = false
  /-- An attempt that begins after the deadline does not get to its body, and is the last one.  If
  the database begins a transaction for it, the call ends by the deadline. -/
  expired : ∀ k < connector.attempts db ctx body w,
    isDue ctx.deadline (connector.worldAt db ctx body w k).clock = true →
    connector.bodyRunAt? db ctx body w k = none ∧ k + 1 = connector.attempts db ctx body w ∧
      (Begun connector db (ctx.forAttempt (k + 1)) (connector.worldAt db ctx body w k) →
        EndedByDeadline connector db ctx body w k)
  /-- If the deadline comes before a body has ended, at most one attempt follows, without a body. -/
  passed : ∀ k < connector.attempts db ctx body w, ∀ ran,
    connector.bodyRunAt? db ctx body w k = some ran →
    isDue ctx.deadline ran.state.1.clock = true →
    ∀ later < connector.attempts db ctx body w, k < later →
      connector.bodyRunAt? db ctx body w later = none ∧
        later + 1 = connector.attempts db ctx body w
  /-- If the deadline comes while a transaction is set up, the call ends by the deadline. -/
  overtaken : ∀ k < connector.attempts db ctx body w,
    Begun connector db (ctx.forAttempt (k + 1)) (connector.worldAt db ctx body w k) →
    Overtaken connector db (ctx.forAttempt (k + 1)) (connector.worldAt db ctx body w k) →
      EndedByDeadline connector db ctx body w k
  /-- A body that fails by the deadline ends the call too, after a rollback. -/
  givenUp : ∀ k < connector.attempts db ctx body w, ∀ ran,
    connector.bodyRunAt? db ctx body w k = some ran → ran.result = .failed .deadlineExceeded →
      GivenUp connector db ctx body w k .deadlineExceeded ran
        ((connector.driver db).rollback (ctx.forAttempt (k + 1)) ran.state)

section Calls

variable {k : Nat}

/-- A body runs from where its transaction was handed out. -/
theorem exists_begin_of_bodyRunAt? {ran : Run (World δ μ × Tx) Event (Ending α)}
    (reached : connector.bodyRunAt? db ctx body w k = some ran) : ∃ handle opened inside,
      connector.begin db (ctx.forAttempt (k + 1)) (connector.worldAt db ctx body w k) =
        ⟨.returned handle, opened, inside⟩ ∧
      (body (ctx.forAttempt (k + 1))).run db (opened, handle) = ran := by
  obtain ⟨events, entered⟩ := exists_entered reached
  cases entered with
  | intro opening preparation =>
      cases preparation
      exact ⟨_, _, _, opening, rfl⟩

/-- An attempt that does not get to its body is the last one. -/
theorem last_of_unentered (made : k < connector.attempts db ctx body w)
    (unentered : connector.bodyRunAt? db ctx body w k = none) :
    k + 1 = connector.attempts db ctx body w := by
  obtain ⟨stop, -, result⟩ :=
    stopped_of_unentered (attempted_attemptRun (connector.driver db) ctx _ w k) unentered
  exact (last_of_ofOpening made result).1

/-- **A transaction that is overtaken ends its call.** -/
theorem endedByDeadline_of_overtaken (made : k < connector.attempts db ctx body w)
    (begun : Begun connector db (ctx.forAttempt (k + 1)) (connector.worldAt db ctx body w k))
    (overtaken : Overtaken connector db (ctx.forAttempt (k + 1))
      (connector.worldAt db ctx body w k)) :
    EndedByDeadline connector db ctx body w k := by
  obtain ⟨after, events, opening, timedOut⟩ := begin_of_overtaken begun overtaken
  have run : attemptRun (connector.driver db) ctx (Program.toWork db body) w k =
      ⟨.failed (.begin .deadlineExceeded), after,
        [.begun (ctx.forAttempt (k + 1)) (.failed .deadlineExceeded) events]⟩ :=
    attempt_of_unopened opening
  have stopped : (attemptRun (connector.driver db) ctx (Program.toWork db body) w k).result =
      (Ending.failed .deadlineExceeded : Ending Empty).ofOpening := congrArg Run.result run
  obtain ⟨last, result, during⟩ := last_of_ofOpening made stopped
  refine ⟨?_, ?_, last, result⟩
  · rw [during, run, worldEvents_begun]
    exact timedOut
  · cases reached : connector.bodyRunAt? db ctx body w k with
    | none => rfl
    | some ran =>
        obtain ⟨handle, opened, inside, returned, -⟩ := exists_begin_of_bodyRunAt? reached
        cases opening.symm.trans returned

/-- An attempt that begins after the deadline does not get to its body. -/
theorem unentered_of_due
    (due : isDue ctx.deadline (connector.worldAt db ctx body w k).clock = true) :
    connector.bodyRunAt? db ctx body w k = none := by
  cases reached : connector.bodyRunAt? db ctx body w k with
  | none => rfl
  | some ran =>
      obtain ⟨handle, opened, inside, returned, -⟩ := exists_begin_of_bodyRunAt? reached
      have begun := (setUpFully_of_returned returned).1.begun
      obtain ⟨after, events, failed, -⟩ := begin_of_overtaken begun (overtaken_of_due due)
      cases failed.symm.trans returned

/-- The next attempt begins **no earlier than a body ends.** -/
theorem clock_le_worldAt_succ {ran : Run (World δ μ × Tx) Event (Ending α)}
    (reached : connector.bodyRunAt? db ctx body w k = some ran) :
    ran.state.1.clock ≤ (connector.worldAt db ctx body w (k + 1)).clock := by
  obtain ⟨events, entered⟩ := exists_entered reached
  have drivers := driverObeys_forward connector db
  have follows := afterBody_obeys drivers (ctx.forAttempt (k + 1)) (k + 1) ran.result ran.state
  have released := drivers.release (afterBody (connector.driver db) (ctx.forAttempt (k + 1)) (k + 1)
    ran.result ran.state).state
  show _ ≤ (attempt (connector.driver db) ctx (k + 1) (Program.toWork db body)
    (connector.worldAt db ctx body w k)).state.clock
  rw [attempt_of_entered entered rfl]
  exact Instant.le_trans follows released

/-- An attempt that fails with an error which is not listed ends the call with it. -/
theorem result_of_unlisted (made : k < connector.attempts db ctx body w) {error : Error}
    (failed : (attemptRun (connector.driver db) ctx (Program.toWork db body) w k).result =
      .failed error)
    (unlisted : ¬ (connector.driver (μ := μ) db).Lists error) :
    k + 1 = connector.attempts db ctx body w ∧
      (connector.transact db ctx body w).result = .failed error := by
  unfold attempts at made ⊢
  obtain ⟨last, history, count⟩ :=
    exists_history_of_made (connector.driver db) (Program.toWork db body) w made
  rw [count] at made ⊢
  exact (history.failurePath (Nat.le_of_lt_succ made) failed).final unlisted

/-- A rollback answers. -/
theorem rollback_ne_panicked (connector : Connector μ) (db : Database δ) (ctx : Context)
    (p : World δ μ × Tx) (payload : Payload) :
    ((connector.driver db).rollback ctx p).result ≠ .panicked payload := by
  show (Action.ofFallible (Tx.rollback db).run p).result ≠ _
  rw [Action.ofFallible_apply]
  cases ((Tx.rollback db).run p).result <;> nofun

/-- **A body that fails with an error which is not listed** ends its call after a rollback. -/
theorem givenUp_of_unlisted (made : k < connector.attempts db ctx body w) {error : Error}
    {ran : Run (World δ μ × Tx) Event (Ending α)}
    (reached : connector.bodyRunAt? db ctx body w k = some ran)
    (failed : ran.result = .failed error)
    (unlisted : ¬ (connector.driver (μ := μ) db).Lists error) :
    GivenUp connector db ctx body w k error ran
      ((connector.driver db).rollback (ctx.forAttempt (k + 1)) ran.state) := by
  obtain ⟨events, entered⟩ := exists_entered reached
  obtain ⟨opening, -, before⟩ := setUpFully_of_entered entered
  have answered := rollback_ne_panicked connector db (ctx.forAttempt (k + 1)) ran.state
  have sent := @rollback_sent _ _ connector db (ctx.forAttempt (k + 1)) ran.state
  obtain ⟨rolled, rollback⟩ :
    ∃ rolled, (connector.driver db).rollback (ctx.forAttempt (k + 1)) ran.state = rolled := ⟨_, rfl⟩
  have run := attempt_of_bodyFailed entered failed rollback
  rw [rollback] at answered sent ⊢
  obtain ⟨final, afterRollback, unlistedFinal, ofReturned, ofFailed⟩ :=
    Driver.exists_afterRollback_eq (α := α) unlisted answered
  rw [afterRollback] at run
  obtain ⟨last, result⟩ := result_of_unlisted made (congrArg Run.result run) unlistedFinal
  refine ⟨last, ?_, sent, answered, ?_, ?_⟩
  · have during :
        worldEvents (attemptRun (connector.driver db) ctx (Program.toWork db body) w k).trace = _ :=
      congrArg (fun r => worldEvents r.trace) run
    rw [worldEvents_leave, worldEvents_append, worldEvents_rolledBack, before] at during
    rw [attemptEvents, eventsAt, worldEvents_append, during]
    simp only [List.append_assoc]
    exact ⟨_, _, rfl⟩
  · intro returned
    rw [result, ofReturned returned]
  · intro failure failed
    rw [result, ofFailed failure failed]
    rfl

end Calls

/-- **A call does not outlive the deadline of its context.**  Once the deadline has come, no body
starts any more; a transaction that is begun nevertheless fails in its setup and is rolled back, and
so ends the call; and so does a body that fails by the deadline. -/
theorem deadlineKept (connector : Connector μ) (db : Database δ) (ctx : Context)
    (body : Context → Program μ α) (w : World δ μ) : DeadlineKept connector db ctx body w where
  inTime k made ran reached := by
    obtain ⟨handle, opened, inside, returned, ran⟩ := exists_begin_of_bodyRunAt? reached
    have early := early_of_begin returned
    exact ⟨handle, opened, inside, returned, ran, early⟩
  expired k made due := by
    have unentered := unentered_of_due due
    exact ⟨unentered, last_of_unentered made unentered,
      fun begun => endedByDeadline_of_overtaken made begun (overtaken_of_due due)⟩
  passed k made ran reached due later laterMade follows := by
    have dueNext := isDue_of_le due (clock_le_worldAt_succ reached)
    have unentered := unentered_of_due dueNext
    -- The next attempt is the last one, so no other can be meant.
    have next := last_of_unentered (Nat.lt_of_le_of_lt follows laterMade) unentered
    obtain rfl : later = k + 1 := by omega
    exact ⟨unentered, next⟩
  overtaken k made begun overtaken := endedByDeadline_of_overtaken made begun overtaken
  givenUp k made ran reached failed :=
    givenUp_of_unlisted made reached failed (Driver.not_lists_deadlineExceeded _)

/-- A body that outlasts the deadline and then meets a conflict is tried again, but only as far as
the setup. -/
example :
    ((({} : Connector Unit).transact Database.agreeable (Context.fresh.withDeadline ⟨1⟩)
      (fun _ => do
        Program.ask (.wait ⟨2⟩)
        Program.fail (.database "40001" "conflict") : Context → Program Unit Unit)
      { database := (), memory := () }).result matches .failed (.begin .deadlineExceeded)) =
      true := by
  decide +kernel

end Connector

end Postgres

end TxRetry
