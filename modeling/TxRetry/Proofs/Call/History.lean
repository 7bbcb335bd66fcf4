import TxRetry.Proofs.Call.Decision

/-!
# The history of a call

A call is a sequence of attempts, each run in the world that the one before it left, with one
decision after each.  This module unrolls the loop of the call into that sequence; whatever holds of
single attempts is carried over to whole calls by it.

## Main definitions

* `worldBefore` — the world in which an attempt starts
* `attemptRun` — the run of an attempt there
* `attemptCount` — the number of attempts that a call makes
* `CallHistory` — what the attempts up to a last one make of a call
* `FailurePath` — how a call goes on after a failed attempt

## Main statements

* `exists_callHistory` — every call from outside a transaction has a history
* `CallHistory.openings` — its attempts have the numbers from one on, without a gap
* `CallHistory.count_eq` — and it makes no others
* `CallHistory.failurePath` — every failed attempt of a call is followed up in the same way
* `isReport_of_logged` — what a call logs itself is one of its reports

## Design notes

**Attempts are counted from zero here,** as places in the history; the attempt at place `k` has the
number `k + 1`.
-/

namespace TxRetry

variable {σ ν η α : Type}

/-! ### Places in the history -/

/-- The **world in which the attempt at place `k` starts**, if all attempts before it are made. -/
def worldBefore (driver : Driver σ ν η) (caller : Context) (work : Work σ ν η α) (s : σ) : Nat → σ
  | 0 => s
  | k + 1 => (attempt driver caller (k + 1) work (worldBefore driver caller work s k)).state

/-- The run of the **attempt at place `k`**, the one with the number `k + 1`. -/
def attemptRun (driver : Driver σ ν η) (caller : Context) (work : Work σ ν η α) (s : σ) (k : Nat) :
    Run σ (CallEvent ν) (Ending α) :=
  attempt driver caller (k + 1) work (worldBefore driver caller work s k)

/-- Every attempt of a call goes in one of the ways of `Attempted`. -/
theorem attempted_attemptRun (driver : Driver σ ν η) (caller : Context) (work : Work σ ν η α)
    (s : σ) (k : Nat) :
    Attempted driver (caller.forAttempt (k + 1)) (k + 1) work (worldBefore driver caller work s k)
      (attemptRun driver caller work s k) :=
  attempted_attempt driver caller (k + 1) work _

/-- The events of a call at place `k`: those of the attempt, then the report of the decision. -/
def eventsAt (driver : Driver σ ν η) (caller : Context) (work : Work σ ν η α) (s : σ) (k : Nat) :
    List (CallEvent ν) :=
  (attemptRun driver caller work s k).trace ++
    (driver.decisionRecords (k + 1) (attemptRun driver caller work s k).result).map .logged

/-! ### One turn of the loop -/

section Loop

variable {driver : Driver σ ν η} {caller : Context} {work : Work σ ν η α} {number more : Nat}
variable {s : σ} {run : Run σ (CallEvent ν) (Ending α)}

/-- A verdict ends the loop. -/
theorem attemptsFrom_of_verdict (bound : number + more = driver.attemptLimit)
    (hrun : attempt driver caller number work s = run) {ending : Ending α}
    (decided : driver.verdict number run.result = some ending) :
    attemptsFrom driver caller work number more s =
      ⟨ending, run.state,
        run.trace ++ (driver.decisionRecords number run.result).map .logged⟩ := by
  obtain ⟨result, after, trace⟩ := run
  rw [attemptsFrom, Step.bind_apply, hrun]
  cases result with
  | returned value =>
      cases decided
      rfl
  | panicked payload =>
      cases decided
      rfl
  | failed error =>
      cases hcode : driver.retryableCode error with
      | none =>
          simp only [Driver.verdict, hcode, Option.some.injEq] at decided
          subst decided
          simp [Driver.decisionRecords, hcode]
      | some code =>
          simp only [Driver.verdict, hcode] at decided
          split at decided
          · cases decided
          · rename_i exhausted
            cases decided
            obtain rfl : more = 0 := by omega
            simp [Driver.decisionRecords, hcode, exhausted, report]

/-- Without a verdict the loop goes on with the next number, and a further attempt was allowed. -/
theorem attemptsFrom_of_undecided (bound : number + more = driver.attemptLimit)
    (hrun : attempt driver caller number work s = run)
    (undecided : driver.verdict number run.result = none) :
    ∃ fewer, more = fewer + 1 ∧
      attemptsFrom driver caller work number more s =
        let rest := attemptsFrom driver caller work (number + 1) fewer run.state
        ⟨rest.result, rest.state,
          run.trace ++ (driver.decisionRecords number run.result).map .logged ++ rest.trace⟩ := by
  obtain ⟨allowed, error, failed, listed⟩ := Driver.verdict_eq_none_iff.mp undecided
  obtain ⟨code, hcode⟩ := Driver.exists_retryableCode_iff.mpr listed
  obtain ⟨fewer, rfl⟩ : ∃ fewer, more = fewer + 1 := ⟨more - 1, by omega⟩
  refine ⟨fewer, rfl, ?_⟩
  rw [attemptsFrom_succ, Step.bind_apply, hrun, failed]
  simp [hcode, Driver.decisionRecords, allowed, report]

end Loop

/-! ### Whole calls -/

/-- What the **attempts up to the place `last`** make of a call. -/
structure CallHistory (driver : Driver σ ν η) (caller : Context) (work : Work σ ν η α) (s : σ)
    (last : Nat) : Prop where
  /-- After each attempt before the last, another one is made. -/
  undecided : ∀ k < last,
    driver.verdict (k + 1) (attemptRun driver caller work s k).result = none
  /-- The last attempt decides the call. -/
  decided : driver.verdict (last + 1) (attemptRun driver caller work s last).result =
    some (transact driver caller work s).result
  /-- The call does what its attempts do, in order, and reports its decisions. -/
  trace_eq : (transact driver caller work s).trace =
    (List.range (last + 1)).flatMap (eventsAt driver caller work s)
  /-- The call ends in the world that the last attempt leaves. -/
  state_eq : (transact driver caller work s).state = worldBefore driver caller work s (last + 1)

/-- The loop from a place on.  The induction is on the attempts that are left; the place moves with
it, so that the world of the loop stays the one of the history. -/
private theorem exists_history_from (driver : Driver σ ν η) (caller : Context)
    (work : Work σ ν η α) (s : σ) :
    ∀ (more first : Nat), first + 1 + more = driver.attemptLimit →
      ∃ length,
        let loop := attemptsFrom driver caller work (first + 1) more
          (worldBefore driver caller work s first)
        (∀ k, first ≤ k → k < first + length →
          driver.verdict (k + 1) (attemptRun driver caller work s k).result = none) ∧
        driver.verdict (first + length + 1)
          (attemptRun driver caller work s (first + length)).result = some loop.result ∧
        loop.trace =
          (List.range' first (length + 1)).flatMap (eventsAt driver caller work s) ∧
        loop.state = worldBefore driver caller work s (first + length + 1) := by
  intro more
  induction more using Nat.strongRecOn with
  | ind more ih =>
      intro first bound
      cases verdict : driver.verdict (first + 1) (attemptRun driver caller work s first).result with
      | some ending =>
          -- This attempt decides the call, and the history ends with it.
          refine ⟨0, ?_⟩
          rw [attemptsFrom_of_verdict bound rfl verdict]
          refine ⟨fun k _ _ => by omega, verdict, ?_, rfl⟩
          simp [eventsAt, attemptRun]
      | none =>
          -- It does not, so the history goes on with what the rest of the loop does.
          obtain ⟨fewer, rfl, unrolled⟩ := attemptsFrom_of_undecided bound rfl verdict
          obtain ⟨length, before, decided, trace, state⟩ :=
            ih fewer (by omega) (first + 1) (by omega)
          have place : first + (length + 1) = first + 1 + length := by omega
          refine ⟨length + 1, ?_⟩
          rw [unrolled, place]
          refine ⟨?_, decided, ?_, state⟩
          · intro k low high
            by_cases here : k = first
            · exact here ▸ verdict
            · exact before k (by omega) (by omega)
          · show eventsAt driver caller work s first ++ _ = _
            rw [List.range'_succ, List.flatMap_cons, ← trace]
            rfl

/-- A call from outside a transaction is its loop from the first attempt on. -/
theorem transact_of_outside (driver : Driver σ ν η) {caller : Context} (work : Work σ ν η α)
    (outside : caller.inTransaction = false) :
    transact driver caller work = attemptsFrom driver caller work 1 (driver.attemptLimit - 1) := by
  simp [transact, admission, outside]

/-- A call from inside a transaction is turned away, and does nothing. -/
theorem transact_of_inside {driver : Driver σ ν η} {caller : Context} {work : Work σ ν η α}
    (inside : caller.inTransaction = true) (s : σ) :
    transact driver caller work s = ⟨.failed .nestedTransaction, s, []⟩ := by
  simp [transact, admission, inside]

/-- **Every call from outside a transaction has a history.** -/
theorem exists_callHistory (driver : Driver σ ν η) {caller : Context} (work : Work σ ν η α)
    (s : σ) (outside : caller.inTransaction = false) :
    ∃ last, CallHistory driver caller work s last := by
  have limit := driver.one_le_attemptLimit
  obtain ⟨last, undecided, decided, trace, state⟩ :=
    exists_history_from driver caller work s (driver.attemptLimit - 1) 0 (by omega)
  simp only [Nat.zero_add] at undecided decided trace state
  have loop := congrFun (transact_of_outside driver work outside) s
  refine ⟨last, fun k before => undecided k (Nat.zero_le k) before, ?_, ?_, ?_⟩
  · rw [loop]
    exact decided
  · rw [loop, List.range_eq_range']
    exact trace
  · rw [loop]
    exact state

/-! ### The attempts that a call makes -/

/-- The context under which the driver was asked to open a transaction, if that is the event. -/
def CallEvent.opening? : CallEvent ν → Option Context
  | .begun ctx _ _ => some ctx
  | _ => none

/-- The **number of attempts that a call makes**: how often it asks for a transaction. -/
def attemptCount (driver : Driver σ ν η) (caller : Context) (work : Work σ ν η α) (s : σ) : Nat :=
  ((transact driver caller work s).trace.filterMap CallEvent.opening?).length

theorem openings_logged (records : List LogRecord) :
    (records.map .logged : List (CallEvent ν)).filterMap CallEvent.opening? = [] := by
  rw [List.filterMap_map, List.filterMap_eq_nil_iff]
  intro record _
  rfl

theorem Entered.openings {driver : Driver σ ν η} {ctx : Context} {work : Work σ ν η α} {s : σ}
    {body : Run (σ × η) ν (Ending α)} {events : List (CallEvent ν)}
    (entered : Entered driver ctx work s body events) :
    events.filterMap CallEvent.opening? = [ctx] := by
  cases entered
  rfl

/-- An attempt asks for one transaction, under its own context. -/
theorem Attempted.openings {driver : Driver σ ν η} {ctx : Context} {number : Nat}
    {work : Work σ ν η α} {s : σ} {run : Run σ (CallEvent ν) (Ending α)}
    (attempted : Attempted driver ctx number work s run) :
    run.trace.filterMap CallEvent.opening? = [ctx] := by
  cases attempted with
  | unopened => rfl
  | openingPanicked => rfl
  | preparationPanicked => rfl
  | bodyFailed entered | bodyPanicked entered | commitFailed entered =>
      simp only [Driver.leave, List.filterMap_append, List.filterMap_cons, List.filterMap_nil,
        CallEvent.opening?, entered.openings, openings_logged, List.append_nil]
  | committed entered | concludedByBody entered | commitPanicked entered =>
      simp [Driver.leave, entered.openings, CallEvent.opening?]

/-- How a call of `n` attempts goes on after **the attempt at place `k` failed** with an error. -/
structure FailurePath (driver : Driver σ ν η) (caller : Context) (work : Work σ ν η α) (s : σ)
    (n k : Nat) (error : Error) : Prop where
  failed : (attemptRun driver caller work s k).result = .failed error
  /-- After a listed code another attempt is made, if one is left. -/
  again : driver.Lists error → k + 1 < driver.attemptLimit → k + 1 < n
  /-- A listed code in the last attempt allowed ends the call as exhausted. -/
  exhausted : driver.Lists error → driver.attemptLimit ≤ k + 1 →
    k + 1 = n ∧ (transact driver caller work s).result = .failed (.retriesExceeded (k + 1) error)
  /-- Any other error ends the call, unchanged. -/
  final : ¬ driver.Lists error →
    k + 1 = n ∧ (transact driver caller work s).result = .failed error

namespace CallHistory

variable {driver : Driver σ ν η} {caller : Context} {work : Work σ ν η α} {s : σ} {last : Nat}

/-- The attempts of a call have the **numbers from one on**, without a gap. -/
theorem openings (history : CallHistory driver caller work s last) :
    (transact driver caller work s).trace.filterMap CallEvent.opening? =
      (List.range (last + 1)).map fun k => caller.forAttempt (k + 1) := by
  rw [history.trace_eq, List.filterMap_flatMap, List.map_eq_flatMap]
  congr 1
  funext k
  rw [eventsAt, List.filterMap_append, (attempted_attemptRun ..).openings, openings_logged,
    List.append_nil]

/-- A history has all attempts that its call makes. -/
theorem count_eq (history : CallHistory driver caller work s last) :
    attemptCount driver caller work s = last + 1 := by
  rw [attemptCount, history.openings, List.length_map, List.length_range]

/-- The last attempt is among those that the driver allows. -/
theorem last_lt (history : CallHistory driver caller work s last) :
    last < driver.attemptLimit := by
  cases last with
  | zero => exact driver.one_le_attemptLimit
  | succ before =>
      have undecided := history.undecided before (Nat.lt_succ_self before)
      exact (Driver.verdict_eq_none_iff.mp undecided).1

/-- An attempt of a call that is not followed by another one is the last. -/
theorem last_of_verdict (history : CallHistory driver caller work s last) {k : Nat}
    (made : k ≤ last) {ending : Ending α}
    (verdict : driver.verdict (k + 1) (attemptRun driver caller work s k).result = some ending) :
    k = last ∧ (transact driver caller work s).result = ending := by
  rcases Nat.lt_or_eq_of_le made with before | rfl
  · rw [history.undecided k before] at verdict
    cases verdict
  · exact ⟨rfl, Option.some.inj (history.decided.symm.trans verdict)⟩

/-- **After a failed attempt**, the code of its error alone decides how the call goes on. -/
theorem failurePath (history : CallHistory driver caller work s last) {k : Nat} (made : k ≤ last)
    {error : Error} (failed : (attemptRun driver caller work s k).result = .failed error) :
    FailurePath driver caller work s (last + 1) k error := by
  refine ⟨failed, ?_, ?_, ?_⟩
  · intro listed allowed
    rcases Nat.lt_or_eq_of_le made with before | rfl
    · exact Nat.succ_lt_succ before
    · -- The last attempt was decided, which a listed code with attempts left is not.
      have undecided := Driver.verdict_eq_none_iff.mpr ⟨allowed, error, failed, listed⟩
      rw [history.decided] at undecided
      cases undecided
  · intro listed exhausted
    obtain ⟨rfl, result⟩ := history.last_of_verdict made
      (by rw [failed, Driver.verdict_of_exhausted listed exhausted])
    exact ⟨rfl, result⟩
  · intro unlisted
    obtain ⟨rfl, result⟩ := history.last_of_verdict made
      (by rw [failed, Driver.verdict_of_unlisted unlisted])
    exact ⟨rfl, result⟩

end CallHistory

/-- A call from inside a transaction makes no attempt. -/
theorem attemptCount_of_inside (driver : Driver σ ν η) {caller : Context} (work : Work σ ν η α)
    (s : σ) (inside : caller.inTransaction = true) : attemptCount driver caller work s = 0 := by
  rw [attemptCount, transact_of_inside inside]
  rfl

/-- **What happens in a call happens in its attempts**, in order. -/
theorem transact_trace_eq (driver : Driver σ ν η) (caller : Context) (work : Work σ ν η α) (s : σ) :
    (transact driver caller work s).trace =
      (List.range (attemptCount driver caller work s)).flatMap (eventsAt driver caller work s) := by
  cases inside : caller.inTransaction with
  | true =>
      rw [attemptCount_of_inside driver work s inside, transact_of_inside inside]
      rfl
  | false =>
      obtain ⟨last, history⟩ := exists_callHistory driver work s inside
      rw [history.count_eq, history.trace_eq]

/-- An attempt that is made has a history behind it. -/
theorem exists_history_of_made (driver : Driver σ ν η) {caller : Context} (work : Work σ ν η α)
    (s : σ) {k : Nat} (made : k < attemptCount driver caller work s) :
    ∃ last, CallHistory driver caller work s last ∧
      attemptCount driver caller work s = last + 1 := by
  cases inside : caller.inTransaction with
  | true =>
      rw [attemptCount_of_inside driver work s inside] at made
      exact absurd made (Nat.not_lt_zero k)
  | false =>
      obtain ⟨last, history⟩ := exists_callHistory driver work s inside
      exact ⟨last, history, history.count_eq⟩

/-- A call that returns has a history, and returns what its last attempt returned. -/
theorem exists_history_of_returned (driver : Driver σ ν η) {caller : Context} (work : Work σ ν η α)
    (s : σ) {value : α} (returned : (transact driver caller work s).result = .returned value) :
    ∃ last, CallHistory driver caller work s last ∧
      attemptCount driver caller work s = last + 1 ∧
        (attemptRun driver caller work s last).result = .returned value := by
  cases inside : caller.inTransaction with
  | true =>
      rw [transact_of_inside inside] at returned
      cases returned
  | false =>
      obtain ⟨last, history⟩ := exists_callHistory driver work s inside
      have decided := history.decided
      rw [returned] at decided
      exact ⟨last, history, history.count_eq, Driver.eq_returned_of_verdict decided⟩

/-! ### The reports of a call -/

section Reports

variable {driver : Driver σ ν η} {caller ctx : Context} {number : Nat} {work : Work σ ν η α} {s : σ}
variable {record : LogRecord}

theorem Driver.isReport_of_rollbackRecords {answer : Ending Unit}
    (among : record ∈ driver.rollbackRecords number answer) : IsReport record := by
  cases answer with
  | returned => cases among
  | panicked => cases among
  | failed failure =>
      rw [rollbackRecords] at among
      split at among
      · obtain rfl := List.mem_singleton.mp among
        exact .rollbackSkipped number failure
      · cases among

theorem Driver.isReport_of_panicRecords {answer : Ending Unit}
    (among : record ∈ driver.panicRecords number answer) : IsReport record := by
  cases answer with
  | returned =>
      obtain rfl := List.mem_singleton.mp among
      exact .panicked number
  | panicked => cases among
  | failed failure =>
      rw [panicRecords] at among
      split at among
      · obtain rfl := List.mem_singleton.mp among
        exact .panicked number
      · rcases List.mem_cons.mp among with rfl | later
        · exact .rollbackFailed number failure
        · obtain rfl := List.mem_singleton.mp later
          exact .panicked number

theorem Driver.isReport_of_decisionRecords {ending : Ending α}
    (among : record ∈ driver.decisionRecords number ending) : IsReport record := by
  cases ending with
  | returned => cases among
  | panicked => cases among
  | failed error =>
      simp only [decisionRecords] at among
      split at among
      · cases among
      · obtain rfl := List.mem_singleton.mp among
        split
        · exact .retrying _ number
        · exact .givingUp _ number

end Reports

end TxRetry
