import Mathlib.Tactic.ByContra
import TxRetry.Proofs.Call.Attempt

/-!
# The decision after an attempt

After each attempt a call either ends or makes another one.  The decision rests on the code of the
error alone, and on whether a further attempt is allowed.

## Main definitions

* `Error.Carries` — the code that an error carries, as a relation
* `Driver.Lists` — the driver lists the code that an error carries
* `Driver.verdict` — what a call ends in after an attempt, or nothing if it makes another one
* `Driver.decisionRecords` — what the call reports about that decision

## Main statements

* `Error.sqlstate_eq_some_iff` — `sqlstate` finds exactly the code that an error carries
* `Driver.verdict_eq_none_iff`, `Driver.verdict_of_unlisted`, `Driver.verdict_of_exhausted` — the
  three decisions about a failed attempt
-/

namespace TxRetry

/-- An error **carries a code** if it is a coded database error, or wraps one in failed rollbacks
and in nothing else. -/
inductive Error.Carries : Error → String → Prop
  | client (code message : String) :
      Carries (.client (.database (some code) message)) code
  | database (code message : String) : Carries (.database code message) code
  | rollback {source : Error} {code : String} (failure : Error) (inner : Carries source code) :
      Carries (.rollback source failure) code

/-- `sqlstate` finds the code that an error carries. -/
theorem Error.sqlstate_of_carries {error : Error} {code : String} (carries : error.Carries code) :
    error.sqlstate = some code := by
  induction carries with
  | client code message => rfl
  | database code message => rfl
  | rollback failure inner ih => exact ih

/-- `sqlstate` finds no other code. -/
theorem Error.carries_of_sqlstate {error : Error} {code : String}
    (found : error.sqlstate = some code) : error.Carries code := by
  induction error with
  | client cause =>
      cases cause with
      | database code? message =>
          obtain rfl : code? = some code := found
          exact .client code message
      | _ => cases found
  | database own message =>
      obtain rfl : own = code := Option.some.inj found
      exact .database own message
  | rollback source failure ihSource _ => exact .rollback failure (ihSource found)
  | _ => cases found

theorem Error.sqlstate_eq_some_iff {error : Error} {code : String} :
    error.sqlstate = some code ↔ error.Carries code :=
  ⟨carries_of_sqlstate, sqlstate_of_carries⟩

namespace Driver

variable {σ ν η α : Type}

/-- The driver **lists** the code that an error carries. -/
def Lists (driver : Driver σ ν η) (error : Error) : Prop :=
  ∃ code ∈ driver.retryCodes, error.Carries code

theorem retryableCode_eq_some_iff {driver : Driver σ ν η} {error : Error} {code : String} :
    driver.retryableCode error = some code ↔ error.Carries code ∧ code ∈ driver.retryCodes := by
  rw [retryableCode, Option.filter_eq_some_iff, Error.sqlstate_eq_some_iff, List.contains_iff_mem]

/-- An error has a retryable code if and only if the driver lists it. -/
theorem exists_retryableCode_iff {driver : Driver σ ν η} {error : Error} :
    (∃ code, driver.retryableCode error = some code) ↔ driver.Lists error := by
  simp only [retryableCode_eq_some_iff, Lists, and_comm]

theorem retryableCode_eq_none_iff {driver : Driver σ ν η} {error : Error} :
    driver.retryableCode error = none ↔ ¬ driver.Lists error := by
  rw [← exists_retryableCode_iff, Option.eq_none_iff_forall_ne_some, not_exists]

/-- A failure to open a transaction is never listed, whatever is behind it. -/
theorem not_lists_begin (driver : Driver σ ν η) (error : Error) :
    ¬ driver.Lists (.begin error) := by
  rintro ⟨code, -, carries⟩
  cases carries

/-- An error is listed behind failed rollbacks if it is listed. -/
theorem lists_rollback_iff {driver : Driver σ ν η} {error failure : Error} :
    driver.Lists (.rollback error failure) ↔ driver.Lists error := by
  constructor
  · rintro ⟨code, listed, carries⟩
    cases carries with
    | rollback _ inner => exact ⟨code, listed, inner⟩
  · rintro ⟨code, listed, carries⟩
    exact ⟨code, listed, .rollback failure carries⟩

/-- **What a call ends in** after the attempt with a number has ended; nothing, if it makes another
attempt. -/
def verdict (driver : Driver σ ν η) (number : Nat) : Ending α → Option (Ending α)
  | .returned value => some (.returned value)
  | .panicked payload => some (.panicked payload)
  | .failed error =>
    match driver.retryableCode error with
    | none => some (.failed error)
    | some _ =>
      if number < driver.attemptLimit then none
      else some (.failed (.retriesExceeded number error))

/-- What the call reports about its decision. -/
def decisionRecords (driver : Driver σ ν η) (number : Nat) : Ending α → List LogRecord
  | .failed error =>
    match driver.retryableCode error with
    | none => []
    | some code =>
      [if number < driver.attemptLimit then Wording.retrying code number
        else Wording.givingUp code number]
  | _ => []

section Verdict

variable {driver : Driver σ ν η} {number : Nat} {error : Error}

@[simp] theorem verdict_returned (value : α) :
    driver.verdict number (.returned value) = some (.returned value) := rfl

@[simp] theorem verdict_panicked (payload : Payload) :
    driver.verdict number (.panicked payload : Ending α) = some (.panicked payload) := rfl

/-- An error that is not listed ends the call, unchanged. -/
theorem verdict_of_unlisted (unlisted : ¬ driver.Lists error) :
    driver.verdict number (.failed error : Ending α) = some (.failed error) := by
  simp [verdict, retryableCode_eq_none_iff.mpr unlisted]

/-- A listed error in the last attempt allowed ends the call as exhausted. -/
theorem verdict_of_exhausted (listed : driver.Lists error)
    (exhausted : driver.attemptLimit ≤ number) :
    driver.verdict number (.failed error : Ending α) =
      some (.failed (.retriesExceeded number error)) := by
  obtain ⟨code, hcode⟩ := exists_retryableCode_iff.mpr listed
  simp [verdict, hcode, Nat.not_lt.mpr exhausted]

/-- A call returns what its last attempt returned, and only that. -/
theorem eq_returned_of_verdict {ending : Ending α} {value : α}
    (verdict : driver.verdict number ending = some (.returned value)) :
    ending = .returned value := by
  cases ending with
  | returned other =>
      cases verdict
      rfl
  | panicked payload => cases verdict
  | failed error =>
      simp only [Driver.verdict] at verdict
      split at verdict
      · cases verdict
      · split at verdict <;> cases verdict

/-- **Another attempt** is made after a listed error before the last attempt allowed, and in no
other case. -/
theorem verdict_eq_none_iff {ending : Ending α} :
    driver.verdict number ending = none ↔
      number < driver.attemptLimit ∧ ∃ error, ending = .failed error ∧ driver.Lists error := by
  constructor
  · intro undecided
    cases ending with
    | returned value => cases undecided
    | panicked payload => cases undecided
    | failed error =>
        -- Without a listed code, or without an attempt left, there would be a verdict.
        have listed : driver.Lists error := by
          by_contra unlisted
          rw [verdict_of_unlisted unlisted] at undecided
          cases undecided
        refine ⟨?_, error, rfl, listed⟩
        by_contra exhausted
        rw [verdict_of_exhausted listed (Nat.not_lt.mp exhausted)] at undecided
        cases undecided
  · rintro ⟨allowed, error, rfl, listed⟩
    obtain ⟨code, hcode⟩ := exists_retryableCode_iff.mpr listed
    simp [verdict, hcode, allowed]

end Verdict

/-- At least one attempt is allowed, and their number fits into 32 bits. -/
theorem attemptLimit_eq (driver : Driver σ ν η) :
    driver.attemptLimit = max 1 driver.maxRetries.toNat := Nat.max_comm _ _

theorem one_le_attemptLimit (driver : Driver σ ν η) : 1 ≤ driver.attemptLimit :=
  Nat.le_max_right _ _

theorem attemptLimit_lt (driver : Driver σ ν η) : driver.attemptLimit < UInt32.size := by
  have fits : driver.maxRetries.toNat < UInt32.size := driver.maxRetries.toNat_lt
  unfold attemptLimit
  exact Nat.max_lt.mpr ⟨fits, by decide⟩

end Driver

end TxRetry
