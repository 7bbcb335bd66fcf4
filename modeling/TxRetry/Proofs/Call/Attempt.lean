import TxRetry.Transact

/-!
# One attempt, call by call

Whatever a driver and a body do, an attempt goes in one of nine ways.  This module lists them, and
everything that is proved of attempts is proved by going through the list.

## Main definitions

* `Wording` — the records that a call itself reports, word by word
* `IsReport` — that a record is one of them
* `bodyRun?` — the run of the body in an attempt, if the attempt gets that far
* `Entered` — an attempt that gets that far, with the events up to the end of the body
* `Driver.afterRollback`, `afterPanic` — what an attempt comes to, given how its rollback ended
* `Attempted` — the ways in which an attempt goes

## Main statements

* `attempted_attempt` — every attempt goes in one of them
* `attempt_of_entered` — what follows the body, as an equation
* `Attempted.value_of_returned`, `attempt_panicked_of_body` — what the ending of an attempt says
  about its body, and the other way round

## Design notes

**States are threaded, not hidden.**  Each way says from which state each call is made.  So it shows
that body, commit and rollback get the handle that this very attempt opened, as the call before
left it.
-/

namespace TxRetry

variable {σ ν η α : Type}

/-! ### What a call reports

The records are written out here, apart from the code that reports them.  What is said of the
reports is said of these. -/

namespace Wording

def retrying (code : String) (number : Nat) : LogRecord where
  level := .warn
  message := "serialization failure " ++ code ++ " on attempt " ++ toString number ++ ", retrying"

def givingUp (code : String) (attempts : Nat) : LogRecord where
  level := .warn
  message := "giving up after " ++ toString attempts ++ " attempts, last serialization failure " ++ code

def concludedByBody (number : Nat) : LogRecord where
  level := .debug
  message := "transaction concluded by its body on attempt " ++ toString number

def rollbackSkipped (number : Nat) (failure : Error) : LogRecord where
  level := .debug
  message := "rollback skipped on attempt " ++ toString number ++ ": " ++ failure.message

def rollbackFailed (number : Nat) (failure : Error) : LogRecord where
  level := .error
  message := "rollback after panic on attempt " ++ toString number ++ " failed: " ++ failure.message

def panicked (number : Nat) : LogRecord where
  level := .error
  message := "transaction body panicked on attempt " ++ toString number ++ ", rolled back"

end Wording

/-! A call **reports in these words.** -/

@[simp] theorem Report.retrying_eq (code : String) (number : Nat) :
    Report.retrying code number = Wording.retrying code number := rfl

@[simp] theorem Report.givingUp_eq (code : String) (attempts : Nat) :
    Report.givingUp code attempts = Wording.givingUp code attempts := rfl

@[simp] theorem Report.concludedByBody_eq (number : Nat) :
    Report.concludedByBody number = Wording.concludedByBody number := rfl

@[simp] theorem Report.rollbackSkipped_eq (number : Nat) (failure : Error) :
    Report.rollbackSkipped number failure = Wording.rollbackSkipped number failure := rfl

@[simp] theorem Report.rollbackFailed_eq (number : Nat) (failure : Error) :
    Report.rollbackFailed number failure = Wording.rollbackFailed number failure := rfl

@[simp] theorem Report.panicked_eq (number : Nat) :
    Report.panicked number = Wording.panicked number := rfl

/-- The records that **a call itself reports**, beside those of its driver and its work. -/
inductive IsReport : LogRecord → Prop
  | retrying (code : String) (attempt : Nat) : IsReport (Wording.retrying code attempt)
  | givingUp (code : String) (attempts : Nat) : IsReport (Wording.givingUp code attempts)
  | concludedByBody (attempt : Nat) : IsReport (Wording.concludedByBody attempt)
  | rollbackSkipped (attempt : Nat) (failure : Error) : IsReport (Wording.rollbackSkipped attempt failure)
  | rollbackFailed (attempt : Nat) (failure : Error) : IsReport (Wording.rollbackFailed attempt failure)
  | panicked (attempt : Nat) : IsReport (Wording.panicked attempt)

namespace Driver

/-- What an attempt that failed with `error` comes to, given how its rollback ended. -/
def afterRollback (driver : Driver σ ν η) (error : Error) : Ending Unit → Ending α
  | .returned () => .failed error
  | .failed failure =>
    if driver.isTxDone failure then .failed error else .failed (.rollback error failure)
  | .panicked second => .panicked second

/-- What is reported about the rollback of a failed attempt. -/
def rollbackRecords (driver : Driver σ ν η) (number : Nat) : Ending Unit → List LogRecord
  | .failed failure =>
    if driver.isTxDone failure then [Wording.rollbackSkipped number failure] else []
  | _ => []

/-- What is reported about the rollback of an attempt whose body panicked. -/
def panicRecords (driver : Driver σ ν η) (number : Nat) : Ending Unit → List LogRecord
  | .returned () => [Wording.panicked number]
  | .failed failure =>
    if driver.isTxDone failure then [Wording.panicked number]
    else [Wording.rollbackFailed number failure, Wording.panicked number]
  | .panicked _ => []

/-- The run of an attempt whose handle goes out of scope at `p`. -/
def leave (driver : Driver σ ν η) (ctx : Context) (p : σ × η) (events : List (CallEvent ν))
    (ending : Ending α) : Run σ (CallEvent ν) (Ending α) :=
  ⟨ending, (driver.release p).state.1, events ++ [.released ctx (driver.release p).trace]⟩

end Driver

/-- What an attempt whose body panicked comes to, given how its rollback ended. -/
def afterPanic (payload : Payload) : Ending Unit → Ending α
  | .panicked second => .panicked second
  | _ => .panicked payload

/-- A body that panics is what its attempt ends in, if the rollback answers at all. -/
theorem afterPanic_of_answered {payload : Payload} {answer : Ending Unit}
    (answered : ∀ second, answer ≠ .panicked second) :
    (afterPanic payload answer : Ending α) = .panicked payload := by
  cases answer with
  | panicked second => exact absurd rfl (answered second)
  | _ => rfl

/-- After a panic there is a panic. -/
theorem exists_afterPanic_eq (payload : Payload) (answer : Ending Unit) :
    ∃ last, (afterPanic payload answer : Ending α) = .panicked last := by
  cases answer with
  | panicked second => exact ⟨second, rfl⟩
  | _ => exact ⟨payload, rfl⟩

/-- The failure of a rollback is added to the error in one case only. -/
theorem Driver.afterRollback_eq_rollback_iff {driver : Driver σ ν η} {error failure : Error}
    {answer : Ending Unit} :
    driver.afterRollback error answer = (.failed (.rollback error failure) : Ending α) ↔
      answer = .failed failure ∧ driver.isTxDone failure = false := by
  -- An error is smaller than one that wraps it, so it never passes for that one.
  have grows : error ≠ .rollback error failure := by
    intro same
    have := congrArg sizeOf same
    simp at this
    omega
  cases answer with
  | returned => simp [afterRollback, grows]
  | panicked => simp [afterRollback]
  | failed other =>
      cases done : driver.isTxDone other with
      | true =>
          simp only [afterRollback, done, if_true, Ending.failed.injEq, grows, false_iff, not_and]
          rintro rfl
          simp [done]
      | false =>
          simp only [afterRollback, done, Bool.false_eq_true, if_false, Ending.failed.injEq,
            Error.rollback.injEq, true_and]
          constructor
          · rintro rfl
            exact ⟨rfl, done⟩
          · exact And.left

/-! ### The ways in which an attempt goes -/

/-- The **run of the body** in an attempt from the world `s`, if the attempt gets that far. -/
def bodyRun? (driver : Driver σ ν η) (ctx : Context) (work : Work σ ν η α) (s : σ) :
    Option (Run (σ × η) ν (Ending α)) :=
  match driver.begin ctx s with
  | ⟨.returned handle, opened, _⟩ =>
    match work ctx (opened, handle) with
    | ⟨.ok action, prepared, _⟩ => some (action prepared)
    | ⟨.error _, _, _⟩ => none
  | ⟨_, _, _⟩ => none

/-- An attempt that **reaches its body**: a transaction is opened, an action is prepared with the
new handle, and that action runs. -/
inductive Entered (driver : Driver σ ν η) (ctx : Context) (work : Work σ ν η α) (s : σ) :
    Run (σ × η) ν (Ending α) → List (CallEvent ν) → Prop
  | intro {handle opened inOpening action prepared inPreparation}
      (opening : driver.begin ctx s = ⟨.returned handle, opened, inOpening⟩)
      (preparation : work ctx (opened, handle) = ⟨.ok action, prepared, inPreparation⟩) :
      Entered driver ctx work s (action prepared)
        [.begun ctx (.returned ()) inOpening, .prepared ctx none inPreparation,
          .worked ctx (action prepared).result.void (action prepared).trace]

theorem Entered.bodyRun?_eq {driver : Driver σ ν η} {ctx : Context} {work : Work σ ν η α} {s : σ}
    {body : Run (σ × η) ν (Ending α)} {events : List (CallEvent ν)}
    (entered : Entered driver ctx work s body events) :
    bodyRun? driver ctx work s = some body := by
  cases entered with
  | intro opening preparation => simp [bodyRun?, opening, preparation]

/-- An attempt in which the body runs reaches it. -/
theorem exists_entered {driver : Driver σ ν η} {ctx : Context} {work : Work σ ν η α} {s : σ}
    {body : Run (σ × η) ν (Ending α)} (reached : bodyRun? driver ctx work s = some body) :
    ∃ events, Entered driver ctx work s body events := by
  unfold bodyRun? at reached
  split at reached
  · rename_i opening
    split at reached
    · rename_i preparation
      cases reached
      exact ⟨_, .intro opening preparation⟩
    · cases reached
  · cases reached

/-- The **ways in which an attempt goes**, with its result, its final state and its events. -/
inductive Attempted (driver : Driver σ ν η) (ctx : Context) (number : Nat)
    (work : Work σ ν η α) (s : σ) : Run σ (CallEvent ν) (Ending α) → Prop
  | unopened {error after inside}
      (opening : driver.begin ctx s = ⟨.failed error, after, inside⟩) :
      Attempted driver ctx number work s
        ⟨.failed (.begin error), after, [.begun ctx (.failed error) inside]⟩
  | openingPanicked {payload after inside}
      (opening : driver.begin ctx s = ⟨.panicked payload, after, inside⟩) :
      Attempted driver ctx number work s
        ⟨.panicked payload, after, [.begun ctx (.panicked payload) inside]⟩
  | preparationPanicked {handle opened inOpening payload q inside}
      (opening : driver.begin ctx s = ⟨.returned handle, opened, inOpening⟩)
      (preparation : work ctx (opened, handle) = ⟨.error payload, q, inside⟩) :
      Attempted driver ctx number work s
        (driver.leave ctx q
          [.begun ctx (.returned ()) inOpening, .prepared ctx (some payload) inside]
          (.panicked payload))
  | bodyFailed {body events error}
      (entered : Entered driver ctx work s body events) (ending : body.result = .failed error)
      {rolled} (rollback : driver.rollback ctx body.state = rolled) :
      Attempted driver ctx number work s
        (driver.leave ctx rolled.state
          (events ++ .rolledBack ctx rolled.result rolled.trace ::
            (driver.rollbackRecords number rolled.result).map .logged)
          (driver.afterRollback error rolled.result))
  | bodyPanicked {body events payload}
      (entered : Entered driver ctx work s body events) (ending : body.result = .panicked payload)
      {rolled} (rollback : driver.rollback ctx body.state = rolled) :
      Attempted driver ctx number work s
        (driver.leave ctx rolled.state
          (events ++ .rolledBack ctx rolled.result rolled.trace ::
            (driver.panicRecords number rolled.result).map .logged)
          (afterPanic payload rolled.result))
  | committed {body events value q inside}
      (entered : Entered driver ctx work s body events) (ending : body.result = .returned value)
      (commit : driver.commit ctx body.state = ⟨.returned (), q, inside⟩) :
      Attempted driver ctx number work s
        (driver.leave ctx q (events ++ [.committed ctx (.returned ()) inside]) (.returned value))
  | concludedByBody {body events value error q inside}
      (entered : Entered driver ctx work s body events) (ending : body.result = .returned value)
      (commit : driver.commit ctx body.state = ⟨.failed error, q, inside⟩)
      (done : driver.isTxDone error = true) :
      Attempted driver ctx number work s
        (driver.leave ctx q
          (events ++ [.committed ctx (.failed error) inside,
            .logged (Wording.concludedByBody number)])
          (.returned value))
  | commitFailed {body events value error q inside}
      (entered : Entered driver ctx work s body events) (ending : body.result = .returned value)
      (commit : driver.commit ctx body.state = ⟨.failed error, q, inside⟩)
      (rejected : driver.isTxDone error = false)
      {rolled} (rollback : driver.rollback ctx q = rolled) :
      Attempted driver ctx number work s
        (driver.leave ctx rolled.state
          (events ++ .committed ctx (.failed error) inside ::
            .rolledBack ctx rolled.result rolled.trace ::
              (driver.rollbackRecords number rolled.result).map .logged)
          (driver.afterRollback error rolled.result))
  | commitPanicked {body events value payload q inside}
      (entered : Entered driver ctx work s body events) (ending : body.result = .returned value)
      (commit : driver.commit ctx body.state = ⟨.panicked payload, q, inside⟩) :
      Attempted driver ctx number work s
        (driver.leave ctx q (events ++ [.committed ctx (.panicked payload) inside])
          (.panicked payload))

/-! ### Every attempt goes in one of these ways -/

section Equations

variable {driver : Driver σ ν η} {ctx : Context} {number : Nat} {work : Work σ ν η α}
variable {value : α} {error : Error} {payload : Payload} {p q : σ × η} {inside : List ν}

theorem rollBackAfter_apply :
    (rollBackAfter driver ctx number error : Step _ _ (Ending α)) p =
      ⟨driver.afterRollback error (driver.rollback ctx p).result, (driver.rollback ctx p).state,
        .rolledBack ctx (driver.rollback ctx p).result (driver.rollback ctx p).trace ::
          (driver.rollbackRecords number (driver.rollback ctx p).result).map .logged⟩ := by
  rw [rollBackAfter, Step.bind_apply, rollbackStep, Action.observed_apply]
  dsimp only
  cases (driver.rollback ctx p).result with
  | returned => simp [Driver.afterRollback, Driver.rollbackRecords]
  | panicked => simp [Driver.afterRollback, Driver.rollbackRecords]
  | failed failure =>
      by_cases done : driver.isTxDone failure <;>
        simp [Driver.afterRollback, Driver.rollbackRecords, done, report]

theorem rollBackPanicked_apply :
    (rollBackPanicked driver ctx number payload : Step _ _ (Ending α)) p =
      ⟨afterPanic payload (driver.rollback ctx p).result, (driver.rollback ctx p).state,
        .rolledBack ctx (driver.rollback ctx p).result (driver.rollback ctx p).trace ::
          (driver.panicRecords number (driver.rollback ctx p).result).map .logged⟩ := by
  rw [rollBackPanicked, Step.bind_apply, rollbackStep, Action.observed_apply]
  dsimp only
  cases (driver.rollback ctx p).result with
  | returned => simp [afterPanic, Driver.panicRecords, report]
  | panicked => simp [afterPanic, Driver.panicRecords]
  | failed failure =>
      by_cases done : driver.isTxDone failure <;>
        simp [afterPanic, Driver.panicRecords, done, report]

theorem commitAfter_of_returned (commit : driver.commit ctx p = ⟨.returned (), q, inside⟩) :
    commitAfter driver ctx number value p =
      ⟨.returned value, q, [.committed ctx (.returned ()) inside]⟩ := by
  rw [commitAfter, Step.bind_apply, Action.observed_apply, commit]
  rfl

theorem commitAfter_of_panicked (commit : driver.commit ctx p = ⟨.panicked payload, q, inside⟩) :
    commitAfter driver ctx number value p =
      ⟨.panicked payload, q, [.committed ctx (.panicked payload) inside]⟩ := by
  rw [commitAfter, Step.bind_apply, Action.observed_apply, commit]
  rfl

/-- A commit that finds the handle concluded ends the attempt well. -/
theorem commitAfter_of_done (commit : driver.commit ctx p = ⟨.failed error, q, inside⟩)
    (done : driver.isTxDone error = true) :
    commitAfter driver ctx number value p =
      ⟨.returned value, q, [.committed ctx (.failed error) inside,
        .logged (Wording.concludedByBody number)]⟩ := by
  rw [commitAfter, Step.bind_apply, Action.observed_apply, commit]
  simp [done, report]

/-- A commit that fails in another way is followed by a rollback. -/
theorem commitAfter_of_rejected (commit : driver.commit ctx p = ⟨.failed error, q, inside⟩)
    (rejected : driver.isTxDone error = false) :
    commitAfter driver ctx number value p =
      let rolled : Run _ _ (Ending α) := rollBackAfter driver ctx number error q
      ⟨rolled.result, rolled.state, .committed ctx (.failed error) inside :: rolled.trace⟩ := by
  rw [commitAfter, Step.bind_apply, Action.observed_apply, commit]
  simp [rejected]

/-- What the ending of a body calls for. -/
def afterBody (driver : Driver σ ν η) (ctx : Context) (number : Nat) :
    Ending α → Step (σ × η) (CallEvent ν) (Ending α)
  | .returned value => commitAfter driver ctx number value
  | .failed error => rollBackAfter driver ctx number error
  | .panicked payload => rollBackPanicked driver ctx number payload

theorem attemptOpen_of_unprepared (preparation : work ctx p = ⟨.error payload, q, inside⟩) :
    attemptOpen driver ctx number work p =
      ⟨.panicked payload, q, [.prepared ctx (some payload) inside]⟩ := by
  rw [attemptOpen, Step.bind_apply, Step.observed_apply, preparation]
  rfl

theorem attemptOpen_of_prepared {action : Action (σ × η) ν α}
    (preparation : work ctx p = ⟨.ok action, q, inside⟩) :
    attemptOpen driver ctx number work p =
      let body := action q
      let rest := afterBody driver ctx number body.result body.state
      ⟨rest.result, rest.state, .prepared ctx none inside ::
        .worked ctx body.result.void body.trace :: rest.trace⟩ := by
  rw [attemptOpen, Step.bind_apply, Step.observed_apply, preparation]
  rfl

theorem attempt_of_unopened {caller : Context} {s after : σ}
    (opening : driver.begin (caller.forAttempt number) s = ⟨.failed error, after, inside⟩) :
    attempt driver caller number work s =
      ⟨.failed (.begin error), after, [.begun (caller.forAttempt number) (.failed error) inside]⟩ := by
  rw [attempt, Step.bind_apply, Action.observed_apply, opening]
  rfl

theorem attempt_of_opened {caller : Context} {s opened : σ} {handle : η}
    {run : Run (σ × η) (CallEvent ν) (Ending α)}
    (opening : driver.begin (caller.forAttempt number) s = ⟨.returned handle, opened, inside⟩)
    (rest : attemptOpen driver (caller.forAttempt number) number work (opened, handle) = run) :
    attempt driver caller number work s =
      driver.leave (caller.forAttempt number) run.state
        (.begun (caller.forAttempt number) (.returned ()) inside :: run.trace) run.result := by
  rw [attempt, Step.bind_apply, Action.observed_apply, opening]
  simp [Driver.leave, Ending.void, Ending.map, rest]

/-- After the body, an attempt does what the ending of the body calls for. -/
theorem attempt_of_entered {caller : Context} {s : σ} {body : Run (σ × η) ν (Ending α)}
    {events : List (CallEvent ν)}
    (entered : Entered driver (caller.forAttempt number) work s body events)
    {rest : Run (σ × η) (CallEvent ν) (Ending α)}
    (follows : afterBody driver (caller.forAttempt number) number body.result body.state = rest) :
    attempt driver caller number work s =
      driver.leave (caller.forAttempt number) rest.state (events ++ rest.trace) rest.result := by
  subst follows
  cases entered with
  | intro opening preparation =>
      rw [attempt_of_opened opening (attemptOpen_of_prepared preparation)]
      rfl

/-- After a body that failed, an attempt is rolled back. -/
theorem attempt_of_bodyFailed {caller : Context} {s : σ} {body : Run (σ × η) ν (Ending α)}
    {events : List (CallEvent ν)}
    (entered : Entered driver (caller.forAttempt number) work s body events)
    (failed : body.result = .failed error) {rolled : Run (σ × η) ν (Ending Unit)}
    (rollback : driver.rollback (caller.forAttempt number) body.state = rolled) :
    attempt driver caller number work s =
      driver.leave (caller.forAttempt number) rolled.state
        (events ++ .rolledBack (caller.forAttempt number) rolled.result rolled.trace ::
          (driver.rollbackRecords number rolled.result).map .logged)
        (driver.afterRollback error rolled.result) := by
  subst rollback
  have follows : afterBody driver (caller.forAttempt number) number body.result body.state =
      rollBackAfter driver (caller.forAttempt number) number error body.state := by
    rw [failed]
    rfl
  rw [attempt_of_entered entered follows, rollBackAfter_apply]

/-- What follows the body of an attempt, for each of its endings. -/
theorem attempted_of_entered {s : σ} {body : Run (σ × η) ν (Ending α)}
    {events : List (CallEvent ν)} (entered : Entered driver ctx work s body events) :
    Attempted driver ctx number work s
      (let rest := afterBody driver ctx number body.result body.state
       driver.leave ctx rest.state (events ++ rest.trace) rest.result) := by
  obtain ⟨ending, p, inside⟩ := body
  -- An error or a panic leads to a rollback; after a value the answer to the commit decides.
  cases ending with
  | failed error =>
      simp only [afterBody, rollBackAfter_apply]
      exact .bodyFailed entered rfl rfl
  | panicked payload =>
      simp only [afterBody, rollBackPanicked_apply]
      exact .bodyPanicked entered rfl rfl
  | returned value =>
      obtain ⟨commit, hcommit⟩ : ∃ run, driver.commit ctx p = run := ⟨_, rfl⟩
      obtain ⟨ending, q, inCommit⟩ := commit
      cases ending with
      | returned =>
          simp only [afterBody, commitAfter_of_returned hcommit]
          exact .committed entered rfl hcommit
      | panicked payload =>
          simp only [afterBody, commitAfter_of_panicked hcommit]
          exact .commitPanicked entered rfl hcommit
      | failed error =>
          cases done : driver.isTxDone error with
          | true =>
              simp only [afterBody, commitAfter_of_done hcommit done]
              exact .concludedByBody entered rfl hcommit done
          | false =>
              simp only [afterBody, commitAfter_of_rejected hcommit done, rollBackAfter_apply]
              exact .commitFailed entered rfl hcommit done rfl

end Equations

/-- **Every attempt goes in one of the ways** of `Attempted`, under the context of its number. -/
theorem attempted_attempt (driver : Driver σ ν η) (caller : Context) (number : Nat)
    (work : Work σ ν η α) (s : σ) :
    Attempted driver (caller.forAttempt number) number work s
      (attempt driver caller number work s) := by
  -- Before the body an attempt can stop in two places: at the opening and at the preparation.
  obtain ⟨opening, hopening⟩ : ∃ run, driver.begin (caller.forAttempt number) s = run := ⟨_, rfl⟩
  obtain ⟨ending, opened, inOpening⟩ := opening
  cases ending with
  | failed error =>
      rw [attempt_of_unopened hopening]
      exact .unopened hopening
  | panicked payload =>
      rw [attempt, Step.bind_apply, Action.observed_apply, hopening]
      exact .openingPanicked hopening
  | returned handle =>
      obtain ⟨preparation, hpreparation⟩ :
          ∃ run, work (caller.forAttempt number) (opened, handle) = run := ⟨_, rfl⟩
      obtain ⟨prepared?, prepared, inPreparation⟩ := preparation
      cases prepared? with
      | error payload =>
          rw [attempt_of_opened hopening (attemptOpen_of_unprepared hpreparation)]
          exact .preparationPanicked hopening hpreparation
      | ok action =>
          rw [attempt_of_entered (.intro hopening hpreparation) rfl]
          exact attempted_of_entered (.intro hopening hpreparation)

/-! ### What the ending of an attempt says about its body -/

namespace Attempted

variable {driver : Driver σ ν η} {ctx : Context} {number : Nat} {work : Work σ ν η α} {s : σ}
variable {run : Run σ (CallEvent ν) (Ending α)}

/-- After a rollback there is no value. -/
theorem afterRollback_ne_returned (driver : Driver σ ν η) (error : Error) (answer : Ending Unit)
    (value : α) : driver.afterRollback error answer ≠ .returned value := by
  cases answer with
  | failed failure => simp only [Driver.afterRollback]; split <;> simp
  | _ => simp [Driver.afterRollback]

/-- The value of an attempt is the value of its body. -/
theorem value_of_returned (attempted : Attempted driver ctx number work s run) {value : α}
    (returned : run.result = .returned value) :
    ∃ body, bodyRun? driver ctx work s = some body ∧ body.result = .returned value := by
  cases attempted with
  | unopened => cases returned
  | openingPanicked => cases returned
  | preparationPanicked => cases returned
  | bodyFailed => exact (afterRollback_ne_returned _ _ _ _ returned).elim
  | bodyPanicked =>
      obtain ⟨_, panicked⟩ := exists_afterPanic_eq _ _
      cases panicked.symm.trans returned
  | committed entered ending =>
      cases returned
      exact ⟨_, entered.bodyRun?_eq, ending⟩
  | concludedByBody entered ending =>
      cases returned
      exact ⟨_, entered.bodyRun?_eq, ending⟩
  | commitFailed => exact (afterRollback_ne_returned _ _ _ _ returned).elim
  | commitPanicked => cases returned

end Attempted

/-- The panic of a body is the panic of its attempt, unless the rollback panics too. -/
theorem attempt_panicked_of_body {driver : Driver σ ν η} {caller : Context} {number : Nat}
    {work : Work σ ν η α} {s : σ} {body : Run (σ × η) ν (Ending α)} {payload : Payload}
    (reached : bodyRun? driver (caller.forAttempt number) work s = some body)
    (ending : body.result = .panicked payload)
    (answered : ∀ second,
      (driver.rollback (caller.forAttempt number) body.state).result ≠ .panicked second) :
    (attempt driver caller number work s).result = .panicked payload := by
  obtain ⟨events, entered⟩ := exists_entered reached
  rw [attempt_of_entered entered rfl, ending]
  show (rollBackPanicked driver _ number payload body.state : Run _ _ (Ending α)).result = _
  rw [rollBackPanicked_apply]
  exact afterPanic_of_answered answered

end TxRetry
