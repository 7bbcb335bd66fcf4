import Mathlib.Logic.ExistsUnique
import TxRetry.Proofs.Call.History
import TxRetry.Rehearsal.Scenario

/-!
# The calls of the driver

A driver that keeps its word is called in one order only: a transaction is opened, the body runs on
its handle, and then the handle is committed or rolled back as the body's ending demands.

## Main definitions

* `CallEvent.isCall` — the calls of the driver and the runs of the work among the events
* `CallEvent.strayPanic?` — a panic that comes from the driver, or from the work before it runs
* `AttemptShape`, `Bracketed` — the four shapes of an attempt
* `CallBracketed` — the order of the driver's calls in a call of `n` attempts

## Main statements

* `Attempted.bracketed`, `Bracketed.shape_eq` — an attempt has one of the shapes, and only one
* `transact_bracketed` — every call from outside a transaction is a sequence of such attempts

## Design notes

**Shapes say on which handle.**  A shape lists the driver's calls together with the state from
which each one is made, so the handle that is committed or rolled back is the one that was opened.

**Stray panics stand apart.**  A driver that panics, or work that panics before there is anything to
run, breaks an attempt off.  What then happens is a clause of its own and not a fifth shape.
-/

namespace TxRetry

variable {σ ν η α : Type}

/-! ### Calls among the events -/

namespace CallEvent

/-- Whether an event is a **call of the driver or a run of the work**, and neither a report nor the
end of a handle. -/
def isCall : CallEvent ν → Bool
  | .released _ _ => false
  | .logged _ => false
  | _ => true

/-- The panic of an event that is not the running body's. -/
def strayPanic? : CallEvent ν → Option Payload
  | .begun _ (.panicked payload) _ => some payload
  | .prepared _ panic? _ => panic?
  | .committed _ (.panicked payload) _ => some payload
  | .rolledBack _ (.panicked payload) _ => some payload
  | _ => none

/-- The error of an event that **ends an attempt**: the one that the body returned, or the one with
which the commit failed, unless that says that the handle was concluded before. -/
def failure? (driver : Driver σ ν η) : CallEvent ν → Option Error
  | .worked _ (.failed error) _ => some error
  | .committed _ (.failed error) _ => if driver.isTxDone error then none else some error
  | _ => none

/-- How a rollback ended, if that is the event. -/
def rollbackAnswer? : CallEvent ν → Option (Ending Unit)
  | .rolledBack _ ending _ => some ending
  | _ => none

/-- No event is a stray panic. -/
def Unbroken (events : List (CallEvent ν)) : Prop :=
  ∀ event ∈ events, event.strayPanic? = none

theorem filter_isCall_logged (records : List LogRecord) :
    (records.map .logged : List (CallEvent ν)).filter isCall = [] := by
  rw [List.filter_map, List.map_eq_nil_iff, List.filter_eq_nil_iff]
  intro record _ called
  cases called

end CallEvent

/-! ### Shapes -/

/-- The **shapes of an attempt.** -/
inductive AttemptShape where
  /-- No transaction is opened, and nothing else is called. -/
  | unopened
  /-- The body fails, and one rollback follows. -/
  | bodyFailed
  /-- The body returns, one commit follows, and a rollback if the commit fails. -/
  | bodyReturned
  /-- The body panics, and one rollback follows. -/
  | bodyPanicked
  deriving DecidableEq, Repr

/-- The calls and the result of an attempt **of a given shape**, under the context `ctx` and from
the world `s`. -/
inductive Bracketed (driver : Driver σ ν η) (ctx : Context) (work : Work σ ν η α) (s : σ) :
    AttemptShape → List (CallEvent ν) → Ending α → Prop
  | unopened {error after inside}
      (opening : driver.begin ctx s = ⟨.failed error, after, inside⟩) :
      Bracketed driver ctx work s .unopened [.begun ctx (.failed error) inside]
        (.failed (.begin error))
  | bodyFailed {body events error}
      (entered : Entered driver ctx work s body events) (ending : body.result = .failed error)
      {rolled} (rollback : driver.rollback ctx body.state = rolled) :
      Bracketed driver ctx work s .bodyFailed
        (events ++ [.rolledBack ctx rolled.result rolled.trace])
        (driver.afterRollback error rolled.result)
  | committed {body events value q inside}
      (entered : Entered driver ctx work s body events) (ending : body.result = .returned value)
      (commit : driver.commit ctx body.state = ⟨.returned (), q, inside⟩) :
      Bracketed driver ctx work s .bodyReturned
        (events ++ [.committed ctx (.returned ()) inside]) (.returned value)
  | concludedByBody {body events value error q inside}
      (entered : Entered driver ctx work s body events) (ending : body.result = .returned value)
      (commit : driver.commit ctx body.state = ⟨.failed error, q, inside⟩)
      (done : driver.isTxDone error = true) :
      Bracketed driver ctx work s .bodyReturned
        (events ++ [.committed ctx (.failed error) inside]) (.returned value)
  | commitFailed {body events value error q inside}
      (entered : Entered driver ctx work s body events) (ending : body.result = .returned value)
      (commit : driver.commit ctx body.state = ⟨.failed error, q, inside⟩)
      (rejected : driver.isTxDone error = false)
      {rolled} (rollback : driver.rollback ctx q = rolled) :
      Bracketed driver ctx work s .bodyReturned
        (events ++ [.committed ctx (.failed error) inside,
          .rolledBack ctx rolled.result rolled.trace])
        (driver.afterRollback error rolled.result)
  | bodyPanicked {body events payload}
      (entered : Entered driver ctx work s body events) (ending : body.result = .panicked payload)
      {rolled} (rollback : driver.rollback ctx body.state = rolled) :
      Bracketed driver ctx work s .bodyPanicked
        (events ++ [.rolledBack ctx rolled.result rolled.trace]) (.panicked payload)

/-- The shape that the run of its body gives to an attempt. -/
def AttemptShape.ofBody : Option (Run (σ × η) ν (Ending α)) → AttemptShape
  | none => .unopened
  | some ⟨.failed _, _, _⟩ => .bodyFailed
  | some ⟨.returned _, _, _⟩ => .bodyReturned
  | some ⟨.panicked _, _, _⟩ => .bodyPanicked

/-- An attempt has **one shape only**: the run of its body decides which. -/
theorem Bracketed.shape_eq {driver : Driver σ ν η} {ctx : Context} {work : Work σ ν η α} {s : σ}
    {shape : AttemptShape} {calls : List (CallEvent ν)} {ending : Ending α}
    (bracketed : Bracketed driver ctx work s shape calls ending) :
    shape = .ofBody (bodyRun? driver ctx work s) := by
  -- All shapes but the first have a body that ran, and its ending is the shape.
  have ran : ∀ {body events}, Entered driver ctx work s body events →
      AttemptShape.ofBody (bodyRun? driver ctx work s) = .ofBody (some body) :=
    fun entered => congrArg _ entered.bodyRun?_eq
  cases bracketed with
  | unopened opening => simp [bodyRun?, opening, AttemptShape.ofBody]
  | @bodyFailed body _ _ entered ended =>
      obtain ⟨_, _, _⟩ := body
      cases ended
      exact (ran entered).symm
  | @committed body _ _ _ _ entered ended | @concludedByBody body _ _ _ _ _ entered ended
  | @commitFailed body _ _ _ _ _ entered ended =>
      obtain ⟨_, _, _⟩ := body
      cases ended
      exact (ran entered).symm
  | @bodyPanicked body _ _ entered ended =>
      obtain ⟨_, _, _⟩ := body
      cases ended
      exact (ran entered).symm

/-! ### The shape of an attempt -/

namespace Entered

variable {driver : Driver σ ν η} {ctx : Context} {work : Work σ ν η α} {s : σ}
variable {body : Run (σ × η) ν (Ending α)} {events : List (CallEvent ν)}

/-- Everything up to the end of the body is a call. -/
theorem filter_isCall (entered : Entered driver ctx work s body events) :
    events.filter CallEvent.isCall = events := by
  cases entered
  rfl

/-- After the body, only the reports and the end of the handle are not calls. -/
theorem filter_leave (entered : Entered driver ctx work s body events)
    (calls : List (CallEvent ν)) (only : calls.filter CallEvent.isCall = calls)
    (records : List LogRecord) (p : σ × η) (ending : Ending α) :
    (driver.leave ctx p (events ++ (calls ++ records.map .logged)) ending).trace.filter
      CallEvent.isCall = events ++ calls := by
  simp only [Driver.leave, List.filter_append, entered.filter_isCall, only,
    CallEvent.filter_isCall_logged, List.append_nil]
  exact List.append_nil _

/-- Nothing up to the end of the body is a stray panic. -/
theorem strayPanic?_eq_none (entered : Entered driver ctx work s body events)
    {event : CallEvent ν} (among : event ∈ events) : event.strayPanic? = none := by
  cases entered
  simp only [List.mem_cons, List.not_mem_nil, or_false] at among
  rcases among with rfl | rfl | rfl <;> rfl

/-- Up to the end of the body, an error is the body's. -/
theorem failure (entered : Entered driver ctx work s body events) {ending : Ending α}
    (ended : body.result = ending) :
    events.findSome? (CallEvent.failure? driver) =
      match ending with
      | .failed error => some error
      | _ => none := by
  subst ended
  cases entered with
  | @intro _ _ _ action prepared =>
      generalize action prepared = body
      obtain ⟨ending, _, _⟩ := body
      cases ending <;> rfl

/-- Nothing is rolled back before the end of the body. -/
theorem rollbackAnswer (entered : Entered driver ctx work s body events) :
    events.findSome? CallEvent.rollbackAnswer? = none := by
  cases entered
  rfl

end Entered

section Attempt

variable {driver : Driver σ ν η} {ctx : Context} {number : Nat} {work : Work σ ν η α} {s : σ}
variable {run : Run σ (CallEvent ν) (Ending α)}

/-- A shape is kept when its calls and its result are written in another way. -/
theorem Bracketed.of_eq {shape : AttemptShape} {calls other : List (CallEvent ν)}
    {ending same : Ending α} (bracketed : Bracketed driver ctx work s shape calls ending)
    (callsEq : other = calls) (endingEq : same = ending) :
    Bracketed driver ctx work s shape other same := by
  subst callsEq endingEq
  exact bracketed

/-- **An attempt without a stray panic has a shape.** -/
theorem Attempted.bracketed (attempted : Attempted driver ctx number work s run)
    (clean : CallEvent.Unbroken (run.trace.filter CallEvent.isCall)) :
    ∃ shape, Bracketed driver ctx work s shape (run.trace.filter CallEvent.isCall) run.result := by
  cases attempted with
  | unopened opening => exact ⟨_, .unopened opening⟩
  | openingPanicked => cases clean _ (.head _)
  | preparationPanicked => cases clean _ (.tail _ (.head _))
  | bodyFailed entered ended rollback =>
      have shape := Bracketed.bodyFailed entered ended rollback
      exact ⟨_, shape.of_eq (entered.filter_leave [_] rfl _ _ _) rfl⟩
  | @bodyPanicked _ _ _ entered ended rolled rollback =>
      have answered : ∀ second, rolled.result ≠ .panicked second := by
        intro second panicked
        have stray := clean (.rolledBack ctx rolled.result rolled.trace)
          (by simp [Driver.leave, CallEvent.isCall])
        rw [panicked] at stray
        cases stray
      have shape := Bracketed.bodyPanicked entered ended rollback
      exact ⟨_, shape.of_eq (entered.filter_leave [_] rfl _ _ _) (afterPanic_of_answered answered)⟩
  | committed entered ended commit =>
      have shape := Bracketed.committed entered ended commit
      exact ⟨_, shape.of_eq (entered.filter_leave [_] rfl [] _ _) rfl⟩
  | concludedByBody entered ended commit done =>
      have shape := Bracketed.concludedByBody entered ended commit done
      exact ⟨_, shape.of_eq (entered.filter_leave [_] rfl [_] _ _) rfl⟩
  | commitFailed entered ended commit rejected rollback =>
      have shape := Bracketed.commitFailed entered ended commit rejected rollback
      exact ⟨_, shape.of_eq (entered.filter_leave [_, _] rfl _ _ _) rfl⟩
  | @commitPanicked _ _ _ payload _ inside =>
      cases clean (.committed ctx (.panicked payload) inside)
        (by simp [Driver.leave, CallEvent.isCall])

/-- **A stray panic breaks the attempt off.** -/
theorem Attempted.panicked_of_stray (attempted : Attempted driver ctx number work s run)
    {event : CallEvent ν} (among : event ∈ run.trace.filter CallEvent.isCall) {payload : Payload}
    (stray : event.strayPanic? = some payload) : run.result = .panicked payload := by
  -- The event is the one call of the attempt that is not known to have answered.
  have last : ∀ {body events calls}, Entered driver ctx work s body events →
      run.trace.filter CallEvent.isCall = events ++ calls → event ∈ calls := by
    intro body events calls entered filtered
    rw [filtered, List.mem_append] at among
    rcases among with early | late
    · rw [entered.strayPanic?_eq_none early] at stray
      cases stray
    · exact late
  cases attempted with
  | unopened =>
      obtain rfl := List.mem_singleton.mp among
      cases stray
  | openingPanicked =>
      obtain rfl := List.mem_singleton.mp among
      cases stray
      rfl
  | preparationPanicked =>
      have calls : event ∈ [_, _] := among
      rcases List.mem_cons.mp calls with rfl | rest
      · cases stray
      · obtain rfl := List.mem_singleton.mp rest
        cases stray
        rfl
  | @bodyFailed _ _ _ entered _ rolled =>
      obtain ⟨answer, _, _⟩ := rolled
      obtain rfl := List.mem_singleton.mp (last entered (entered.filter_leave [_] rfl _ _ _))
      cases answer <;> cases stray
      rfl
  | @bodyPanicked _ _ _ entered _ rolled =>
      obtain ⟨answer, _, _⟩ := rolled
      obtain rfl := List.mem_singleton.mp (last entered (entered.filter_leave [_] rfl _ _ _))
      cases answer <;> cases stray
      rfl
  | committed entered =>
      obtain rfl := List.mem_singleton.mp (last entered (entered.filter_leave [_] rfl [] _ _))
      cases stray
  | concludedByBody entered =>
      obtain rfl := List.mem_singleton.mp (last entered (entered.filter_leave [_] rfl [_] _ _))
      cases stray
  | @commitFailed _ _ _ _ _ _ entered _ _ _ rolled =>
      obtain ⟨answer, _, _⟩ := rolled
      have calls := last entered (entered.filter_leave [_, _] rfl _ _ _)
      rcases List.mem_cons.mp calls with rfl | rest
      · cases stray
      · obtain rfl := List.mem_singleton.mp rest
        cases answer <;> cases stray
        rfl
  | commitPanicked entered =>
      obtain rfl := List.mem_singleton.mp (last entered (entered.filter_leave [_] rfl [] _ _))
      cases stray
      rfl

/-- The failure of a rollback **is added to the error of an attempt** if and only if that is what
the rollback ended in and the handle was not concluded before. -/
theorem Bracketed.wrapped_iff {shape : AttemptShape} {calls : List (CallEvent ν)}
    {ending : Ending α} (bracketed : Bracketed driver ctx work s shape calls ending)
    {error failure : Error} (ends : calls.findSome? (CallEvent.failure? driver) = some error) :
    ending = .failed (.rollback error failure) ↔
      calls.findSome? CallEvent.rollbackAnswer? = some (.failed failure) ∧
        driver.isTxDone failure = false := by
  cases bracketed with
  | unopened => cases ends
  | bodyFailed entered ended =>
      rw [List.findSome?_append, entered.failure ended] at ends
      obtain rfl := Option.some.inj ends
      rw [List.findSome?_append, entered.rollbackAnswer, Driver.afterRollback_eq_rollback_iff]
      exact and_congr_left' Option.some_inj.symm
  | committed entered ended =>
      rw [List.findSome?_append, entered.failure ended] at ends
      cases ends
  | concludedByBody entered ended _ done =>
      rw [List.findSome?_append, entered.failure ended] at ends
      simp [CallEvent.failure?, done] at ends
  | @commitFailed _ _ _ cause _ _ entered ended _ rejected =>
      rw [List.findSome?_append, entered.failure ended] at ends
      obtain rfl : cause = error := by simpa [CallEvent.failure?, rejected] using ends
      rw [List.findSome?_append, entered.rollbackAnswer, Driver.afterRollback_eq_rollback_iff]
      exact and_congr_left' Option.some_inj.symm
  | bodyPanicked entered ended =>
      rw [List.findSome?_append, entered.failure ended] at ends
      cases ends

/-- The panic of a body is what its attempt ends in. -/
theorem Bracketed.panicked_of_body {shape : AttemptShape} {calls : List (CallEvent ν)}
    {ending : Ending α} (bracketed : Bracketed driver ctx work s shape calls ending)
    {body : Run (σ × η) ν (Ending α)} {payload : Payload}
    (reached : bodyRun? driver ctx work s = some body)
    (panicked : body.result = .panicked payload) : ending = .panicked payload := by
  have shaped := bracketed.shape_eq
  obtain ⟨_, p, inside⟩ := body
  cases panicked
  rw [reached] at shaped
  obtain rfl : shape = .bodyPanicked := shaped
  cases bracketed with
  | bodyPanicked entered ended =>
      have same := Option.some.inj (entered.bodyRun?_eq.symm.trans reached)
      rw [same] at ended
      exact ended.symm

end Attempt

/-! ### The shape of a call -/

/-- The **calls of the attempt at place `k`**. -/
def callsAt (driver : Driver σ ν η) (caller : Context) (work : Work σ ν η α) (s : σ) (k : Nat) :
    List (CallEvent ν) :=
  (attemptRun driver caller work s k).trace.filter CallEvent.isCall

/-- The **order of the driver's calls** in a call of `n` attempts. -/
structure CallBracketed (driver : Driver σ ν η) (caller : Context) (work : Work σ ν η α) (s : σ)
    (n : Nat) : Prop where
  /-- The calls are those of the attempts, one attempt after the other. -/
  calls_eq : (transact driver caller work s).trace.filter CallEvent.isCall =
    (List.range n).flatMap (callsAt driver caller work s)
  /-- Every attempt that is not broken off has exactly one shape, in the world that the attempt
  before it left, and under a context that differs from the caller's in the attempt only. -/
  shaped : ∀ k < n, CallEvent.Unbroken (callsAt driver caller work s k) →
    ∃! shape, Bracketed driver { caller with attempt := some (k + 1) } work
      (worldBefore driver caller work s k) shape (callsAt driver caller work s k)
      (attemptRun driver caller work s k).result
  /-- The failure of a rollback is added to the error that ended an attempt, unless the handle was
  concluded before; and nothing else is. -/
  wrapped : ∀ k < n, CallEvent.Unbroken (callsAt driver caller work s k) → ∀ error failure,
    (callsAt driver caller work s k).findSome? (CallEvent.failure? driver) = some error →
      ((attemptRun driver caller work s k).result = .failed (.rollback error failure) ↔
        (callsAt driver caller work s k).findSome? CallEvent.rollbackAnswer? =
          some (.failed failure) ∧ driver.isTxDone failure = false)
  /-- A transaction that cannot be opened ends the call. -/
  unopened : ∀ k < n, ∀ error after inside,
    driver.begin { caller with attempt := some (k + 1) } (worldBefore driver caller work s k) =
      ⟨.failed error, after, inside⟩ →
    k + 1 = n ∧ (transact driver caller work s).result = .failed (.begin error)
  /-- A body that panics ends the call with its own payload, whatever the rollback returned. -/
  panicked : ∀ k < n, ∀ body payload,
    bodyRun? driver { caller with attempt := some (k + 1) } work
      (worldBefore driver caller work s k) = some body → body.result = .panicked payload →
    CallEvent.Unbroken (callsAt driver caller work s k) →
    k + 1 = n ∧ (transact driver caller work s).result = .panicked payload
  /-- A stray panic breaks off its attempt and the call. -/
  brokenOff : ∀ k < n, ∀ event ∈ callsAt driver caller work s k, ∀ payload,
    event.strayPanic? = some payload →
    k + 1 = n ∧ (transact driver caller work s).result = .panicked payload

/-- **The driver's calls are bracketed.**  Whatever the driver answers and the body does, each
attempt opens its own transaction, runs the body on it at most once, and concludes it as the
ending of the body demands. -/
theorem transact_bracketed (driver : Driver σ ν η) (caller : Context) (work : Work σ ν η α) (s : σ)
    (outside : caller.inTransaction = false) :
    CallBracketed driver caller work s (attemptCount driver caller work s) := by
  obtain ⟨last, history⟩ := exists_callHistory driver work s outside
  rw [history.count_eq]
  have shaped : ∀ k, CallEvent.Unbroken (callsAt driver caller work s k) →
      ∃ shape, Bracketed driver (caller.forAttempt (k + 1)) work
        (worldBefore driver caller work s k) shape (callsAt driver caller work s k)
        (attemptRun driver caller work s k).result :=
    fun k clean => (attempted_attemptRun driver caller work s k).bracketed clean
  have ended : ∀ k < last + 1, ∀ payload,
      (attemptRun driver caller work s k).result = .panicked payload →
      k + 1 = last + 1 ∧ (transact driver caller work s).result = .panicked payload := by
    intro k made payload panicked
    obtain ⟨place, result⟩ := history.last_of_verdict (k := k) (by omega) (by rw [panicked]; rfl)
    exact ⟨congrArg Nat.succ place, result⟩
  refine ⟨?_, ?_, ?_, ?_, ?_, ?_⟩
  · rw [history.trace_eq, List.filter_flatMap]
    congr 1
    funext k
    rw [eventsAt, List.filter_append, CallEvent.filter_isCall_logged, List.append_nil]
    rfl
  · intro k _ clean
    obtain ⟨shape, bracketed⟩ := shaped k clean
    refine ⟨shape, bracketed, ?_⟩
    -- Any two shapes of the attempt are the shape of the one run of its body.
    intro other same
    rw [bracketed.shape_eq, same.shape_eq]
    rfl
  · intro k _ clean error failure ends
    obtain ⟨_, bracketed⟩ := shaped k clean
    exact bracketed.wrapped_iff ends
  · intro k made error after inside opening
    have failed : (attemptRun driver caller work s k).result = .failed (.begin error) := by
      rw [attemptRun, attempt_of_unopened opening]
    obtain ⟨place, result⟩ := history.last_of_verdict (k := k) (by omega)
      (by rw [failed, Driver.verdict_of_unlisted (driver.not_lists_begin error)])
    exact ⟨congrArg Nat.succ place, result⟩
  · intro k made body payload reached panicked clean
    obtain ⟨_, bracketed⟩ := shaped k clean
    exact ended k made payload (bracketed.panicked_of_body reached panicked)
  · intro k made event among payload stray
    exact ended k made payload
      ((attempted_attemptRun driver caller work s k).panicked_of_stray among stray)

open Rehearsal in
/-- A conflict in the commit, a rollback that fails after it, and a second attempt that commits. -/
theorem transact_bracketed_of_conflict :
    Context.fresh.inTransaction = false ∧
      ∃ driver : Driver Unit Happening ScriptedTx, ∃ work : Work Unit Happening ScriptedTx Unit,
        attemptCount driver .fresh work () = 2 ∧ CallBracketed driver .fresh work () 2 := by
  have count : attemptCount
      (scenarioDriver ⟨["40001"], 3, none⟩
        [{ commitFailure := some (.database "40001" "conflict"),
           rollbackFailure := some (.other "lost") }, {}]) .fresh Work.idle () = 2 := by
    decide +kernel
  have law := transact_bracketed
    (scenarioDriver ⟨["40001"], 3, none⟩
      [{ commitFailure := some (.database "40001" "conflict"),
         rollbackFailure := some (.other "lost") }, {}]) .fresh Work.idle () rfl
  rw [count] at law
  exact ⟨rfl, _, _, count, law⟩

end TxRetry
