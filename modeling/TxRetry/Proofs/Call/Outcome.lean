import TxRetry.Proofs.Call.History
import TxRetry.Rehearsal.Scenario

/-!
# The outcome of a call

Which attempts a call makes, and what it ends in: the law of the retry loop, for every driver, every
body and every number of attempts allowed.

## Main definitions

* `CallDecided` — the law, for a call of `n` attempts

## Main statements

* `transact_decided` — every call from outside a transaction obeys it
-/

namespace TxRetry

variable {σ ν η α : Type}

/-- The **law of the retry loop** for a call that makes `n` attempts. -/
structure CallDecided (driver : Driver σ ν η) (caller : Context) (work : Work σ ν η α) (s : σ)
    (n : Nat) : Prop where
  one_le : 1 ≤ n
  le_limit : n ≤ max 1 driver.maxRetries.toNat
  /-- The number of every attempt fits into the 32 bits in which the driver counts. -/
  fits : n < UInt32.size
  /-- The attempts have the numbers from one to `n`, and their contexts differ from the caller's in
  nothing else. -/
  numbered : (transact driver caller work s).trace.filterMap CallEvent.opening? =
    (List.range n).map fun k => { caller with attempt := some (k + 1) }
  /-- Every attempt before the last one failed with an error whose code is listed. -/
  conflicts : ∀ k, k + 1 < n →
    ∃ error, (attemptRun driver caller work s k).result = .failed error ∧ driver.Lists error
  /-- If the last attempt succeeds, the call returns the value of that attempt's body. -/
  value : ∀ k value, k + 1 = n → (attemptRun driver caller work s k).result = .returned value →
    (transact driver caller work s).result = .returned value ∧
      ∃ body, bodyRun? driver (caller.forAttempt n) work (worldBefore driver caller work s k) =
        some body ∧ body.result = .returned value
  /-- An error whose code is absent or not listed is the result, unchanged. -/
  unlisted : ∀ k error, k + 1 = n → (attemptRun driver caller work s k).result = .failed error →
    ¬ driver.Lists error → (transact driver caller work s).result = .failed error
  /-- An error whose code is listed ends the call only when no attempt is left. -/
  exhausted : ∀ k error, k + 1 = n → (attemptRun driver caller work s k).result = .failed error →
    driver.Lists error → n = max 1 driver.maxRetries.toNat ∧
      (transact driver caller work s).result = .failed (.retriesExceeded n error)
  /-- A panic of the last attempt, wherever it comes from, is the end of the call. -/
  panicked : ∀ k payload, k + 1 = n →
    (attemptRun driver caller work s k).result = .panicked payload →
      (transact driver caller work s).result = .panicked payload
  /-- A panic of the body, in any attempt, ends the call with that panic, unless the driver's own
  rollback panics over it. -/
  bodyPanicked : ∀ k body payload, k < n →
    bodyRun? driver (caller.forAttempt (k + 1)) work (worldBefore driver caller work s k) =
      some body → body.result = .panicked payload →
    (∀ second, (driver.rollback (caller.forAttempt (k + 1)) body.state).result ≠
      .panicked second) →
    k + 1 = n ∧ (transact driver caller work s).result = .panicked payload

/-- **The outcome of a call.**  The attempts of a call go on as long as they fail with listed codes
and more of them are allowed, and the last one decides what the call ends in.  The code of an error
is found behind failed rollbacks, however many there are, and behind nothing else. -/
theorem transact_decided (driver : Driver σ ν η) (caller : Context) (work : Work σ ν η α) (s : σ)
    (outside : caller.inTransaction = false) :
    CallDecided driver caller work s (attemptCount driver caller work s) ∧
      ∀ (error : Error) (code : String), error.sqlstate = some code ↔ error.Carries code := by
  refine ⟨?_, fun error code => Error.sqlstate_eq_some_iff⟩
  obtain ⟨last, history⟩ := exists_callHistory driver work s outside
  have allowed := history.last_lt
  have fits := driver.attemptLimit_lt
  rw [history.count_eq]
  refine ⟨by omega, ?_, by omega, history.openings, ?_, ?_, ?_, ?_, ?_, ?_⟩
  · rw [← driver.attemptLimit_eq]
    exact allowed
  · intro k before
    exact (Driver.verdict_eq_none_iff.mp (history.undecided k (by omega))).2
  · intro k value place returned
    obtain rfl : k = last := by omega
    refine ⟨(history.last_of_verdict (Nat.le_refl _) (by rw [returned]; rfl)).2, ?_⟩
    exact (attempted_attemptRun ..).value_of_returned returned
  · intro k error place failed unlisted
    have path := history.failurePath (by omega) failed
    exact (path.final unlisted).2
  · intro k error place failed listed
    have path := history.failurePath (by omega) failed
    -- Were an attempt left, the call would have made it.
    have exhausted : driver.attemptLimit ≤ k + 1 := by
      by_contra left
      have another := path.again listed (Nat.not_le.mp left)
      omega
    refine ⟨?_, by rw [← place, (path.exhausted listed exhausted).2]⟩
    rw [← driver.attemptLimit_eq]
    omega
  · intro k payload place panicked
    obtain rfl : k = last := by omega
    exact (history.last_of_verdict (Nat.le_refl _) (by rw [panicked]; rfl)).2
  · intro k body payload made reached ending answered
    have panicked : (attemptRun driver caller work s k).result = .panicked payload :=
      attempt_panicked_of_body reached ending answered
    obtain ⟨rfl, result⟩ := history.last_of_verdict (k := k) (by omega)
      (by rw [panicked]; rfl)
    exact ⟨rfl, result⟩

open Rehearsal in
/-- A body that always fails with a listed code, behind a rollback that fails too, is run as often
as the driver allows. -/
theorem transact_decided_of_conflicts :
    Context.fresh.inTransaction = false ∧
      ∃ driver : Driver Unit Happening ScriptedTx, ∃ work : Work Unit Happening ScriptedTx Unit,
        attemptCount driver .fresh work () = 3 ∧ CallDecided driver .fresh work () 3 ∧
          (Error.rollback (.database "40001" "") (.other "")).Carries "40001" := by
  have count : attemptCount
      (scenarioDriver ⟨["40001"], 3, none⟩ [{ rollbackFailure := some (.other "lost") }]) .fresh
      (Work.ofAction fun _ => Action.fail (.database "40001" "conflict") :
        Work Unit Happening ScriptedTx Unit) () = 3 := by
    decide +kernel
  obtain ⟨law, carries⟩ := transact_decided
    (scenarioDriver ⟨["40001"], 3, none⟩ [{ rollbackFailure := some (.other "lost") }]) .fresh
    (Work.ofAction fun _ => Action.fail (.database "40001" "conflict") :
      Work Unit Happening ScriptedTx Unit) () rfl
  rw [count] at law
  exact ⟨rfl, _, _, count, law, (carries _ _).mp rfl⟩

end TxRetry
