import TxRetry.Proofs.Call.History
import TxRetry.Rehearsal.Scenario

/-!
# The guard around a body

A body that panics while it runs is guarded: its transaction is rolled back once, the panic is
reported, and only then does it go on to the caller.  A body that panics before that, while its
action is still being prepared, is not: nothing is rolled back and nothing is reported.

## Main definitions

* `PanicsBuilding`, `PanicsRunning`, `BodyPanics` — the two stages in which the body of an attempt
  panics
* `Guarded` — what is expected of an attempt whose body panics
* `PanicGuarded` — what is expected of the panics in a call

## Main statements

* `guarded_of_running` — a body that panics while it runs is guarded
* `unguarded_of_building` — one that panics before that is not
* `panicGuarded_iff` — when the panics in a call are guarded

## Design notes

**A rollback that panics itself** leaves nothing to guard: its own panic is the one that goes on, and
it is not reported.  So the guard is only as good as the rollback behind it.
-/

namespace TxRetry

variable {σ ν η α : Type}

/-! ### Panics of a body -/

section Panics

variable (driver : Driver σ ν η) (ctx : Context) (work : Work σ ν η α) (s : σ) (payload : Payload)
variable (p : σ × η)

/-- The body of an attempt panics **while its action is prepared**, and leaves the state `p`. -/
def PanicsBuilding : Prop :=
  ∃ handle opened inOpening inside, driver.begin ctx s = ⟨.returned handle, opened, inOpening⟩ ∧
    work ctx (opened, handle) = ⟨.error payload, p, inside⟩

/-- The body of an attempt panics **while it runs**, and leaves the state `p`. -/
def PanicsRunning : Prop :=
  ∃ inside, bodyRun? driver ctx work s = some ⟨.panicked payload, p, inside⟩

/-- The body of an attempt **panics.** -/
def BodyPanics : Prop :=
  PanicsBuilding driver ctx work s payload p ∨ PanicsRunning driver ctx work s payload p

end Panics

/-! ### Guarded attempts -/

/-- Whether an event is the driver's commit or its rollback. -/
def CallEvent.isConclusion : CallEvent ν → Bool
  | .committed _ _ _ => true
  | .rolledBack _ _ _ => true
  | _ => false

/-- The failure of a rollback, unless it says that the handle was concluded before. -/
def Driver.rollbackFailure? (driver : Driver σ ν η) : Ending Unit → Option Error
  | .failed failure => if driver.isTxDone failure then none else some failure
  | _ => none

/-- What is expected to be reported of a panic: a failure of the rollback, and then the panic. -/
def Driver.guardRecords (driver : Driver σ ν η) (number : Nat) (answer : Ending Unit) :
    List LogRecord :=
  (driver.rollbackFailure? answer).toList.map (Wording.rollbackFailed number) ++
    [Wording.panicked number]

/-- What is expected of **an attempt whose body panics**, given how the rollback of its handle goes. -/
structure Guarded (driver : Driver σ ν η) (ctx : Context) (number : Nat) (payload : Payload)
    (rolled : Run (σ × η) ν (Ending Unit)) (run : Run σ (CallEvent ν) (Ending α)) : Prop where
  /-- There is this one rollback, and no commit. -/
  rolledBackOnce : run.trace.filter CallEvent.isConclusion =
    [.rolledBack ctx rolled.result rolled.trace]
  /-- The reports follow it, and there are no others. -/
  reported : ∃ before inside, (∀ record, .logged record ∉ before) ∧
    run.trace = before ++ .rolledBack ctx rolled.result rolled.trace ::
      (driver.guardRecords number rolled.result).map .logged ++ [.released ctx inside]
  /-- Then the panic goes on, with its own payload. -/
  resumed : run.result = .panicked payload

/-- What is expected of **the panics in a call**: an attempt whose body panics rolls back the handle
as the body left it and is guarded, it is the last attempt, and the caller sees its panic. -/
def PanicGuarded (driver : Driver σ ν η) (caller : Context) (work : Work σ ν η α) (s : σ) : Prop :=
  ∀ k < attemptCount driver caller work s, ∀ payload p,
    BodyPanics driver (caller.forAttempt (k + 1)) work (worldBefore driver caller work s k) payload p →
      Guarded driver (caller.forAttempt (k + 1)) (k + 1) payload
          (driver.rollback (caller.forAttempt (k + 1)) p) (attemptRun driver caller work s k) ∧
        k + 1 = attemptCount driver caller work s ∧
        (transact driver caller work s).result = .panicked payload

section Attempts

variable {driver : Driver σ ν η} {caller : Context} {work : Work σ ν η α} {s : σ} {number : Nat}
variable {payload : Payload} {p : σ × η}

theorem filter_isConclusion_logged (records : List LogRecord) :
    (records.map .logged : List (CallEvent ν)).filter CallEvent.isConclusion = [] := by
  rw [List.filter_map, List.map_eq_nil_iff, List.filter_eq_nil_iff]
  intro record _ concludes
  cases concludes

theorem Entered.filter_isConclusion {ctx : Context} {body : Run (σ × η) ν (Ending α)}
    {events : List (CallEvent ν)} (entered : Entered driver ctx work s body events) :
    events.filter CallEvent.isConclusion = [] := by
  cases entered
  rfl

theorem Entered.logged_notMem {ctx : Context} {body : Run (σ × η) ν (Ending α)}
    {events : List (CallEvent ν)} (entered : Entered driver ctx work s body events)
    (record : LogRecord) : .logged record ∉ events := by
  cases entered
  simp

/-- What follows a body **that panics while it runs.** -/
theorem exists_attempt_of_running {rolled : Run (σ × η) ν (Ending Unit)}
    (panics : PanicsRunning driver (caller.forAttempt number) work s payload p)
    (rollback : driver.rollback (caller.forAttempt number) p = rolled) :
    ∃ body events, Entered driver (caller.forAttempt number) work s body events ∧
      attempt driver caller number work s =
        driver.leave (caller.forAttempt number) rolled.state
          (events ++ .rolledBack (caller.forAttempt number) rolled.result rolled.trace ::
            (driver.panicRecords number rolled.result).map .logged)
          (afterPanic payload rolled.result) := by
  subst rollback
  obtain ⟨inside, reached⟩ := panics
  obtain ⟨events, entered⟩ := exists_entered reached
  refine ⟨_, events, entered, ?_⟩
  have follows : afterBody driver (caller.forAttempt number) number (.panicked payload) p =
      (rollBackPanicked driver (caller.forAttempt number) number payload : Step _ _ (Ending α)) p :=
    rfl
  rw [attempt_of_entered entered follows, rollBackPanicked_apply]

theorem panicRecords_of_answered {answer : Ending Unit}
    (answered : ∀ second, answer ≠ .panicked second) :
    driver.panicRecords number answer = driver.guardRecords number answer := by
  cases answer with
  | returned => rfl
  | panicked second => exact absurd rfl (answered second)
  | failed failure =>
      by_cases done : driver.isTxDone failure <;>
        simp [Driver.panicRecords, Driver.guardRecords, Driver.rollbackFailure?, done]

/-- A body that panics while it runs is **guarded**, if its rollback answers at all. -/
theorem guarded_of_running
    (panics : PanicsRunning driver (caller.forAttempt number) work s payload p)
    (answered : ∀ second, (driver.rollback (caller.forAttempt number) p).result ≠ .panicked second) :
    Guarded driver (caller.forAttempt number) number payload
      (driver.rollback (caller.forAttempt number) p) (attempt driver caller number work s) := by
  obtain ⟨body, events, entered, goes⟩ := exists_attempt_of_running panics rfl
  rw [goes, Driver.leave, panicRecords_of_answered answered, afterPanic_of_answered answered]
  refine ⟨?_, ⟨events, _, entered.logged_notMem, rfl⟩, rfl⟩
  simp [List.filter_cons, entered.filter_isConclusion, filter_isConclusion_logged,
    CallEvent.isConclusion]

/-- A rollback that panics is **not reported.** -/
theorem logged_notMem_of_running {second : Payload}
    (panics : PanicsRunning driver (caller.forAttempt number) work s payload p)
    (unanswered : (driver.rollback (caller.forAttempt number) p).result = .panicked second)
    (record : LogRecord) : .logged record ∉ (attempt driver caller number work s).trace := by
  obtain ⟨body, events, entered, goes⟩ := exists_attempt_of_running panics rfl
  rw [goes, unanswered]
  simp [Driver.leave, Driver.panicRecords, entered.logged_notMem]

/-- A body that panics before it runs is **not guarded**: the handle is let go, with neither a rollback
nor a report, and the panic goes on. -/
theorem unguarded_of_building
    (panics : PanicsBuilding driver (caller.forAttempt number) work s payload p) :
    (attempt driver caller number work s).trace.filter CallEvent.isConclusion = [] ∧
      (∀ record, .logged record ∉ (attempt driver caller number work s).trace) ∧
      (attempt driver caller number work s).result = .panicked payload := by
  obtain ⟨handle, opened, inOpening, inside, opening, preparation⟩ := panics
  rw [attempt_of_opened opening (attemptOpen_of_unprepared preparation)]
  refine ⟨rfl, ?_, rfl⟩
  simp [Driver.leave]

end Attempts

/-! ### Guarded calls -/

/-- **The panics in a call are guarded** as long as no body panics before it runs, and no rollback
panics after a body that did. -/
theorem panicGuarded_iff (driver : Driver σ ν η) (caller : Context) (work : Work σ ν η α) (s : σ) :
    PanicGuarded driver caller work s ↔
      ∀ k < attemptCount driver caller work s, ∀ payload p,
        ¬ PanicsBuilding driver (caller.forAttempt (k + 1)) work
            (worldBefore driver caller work s k) payload p ∧
          (PanicsRunning driver (caller.forAttempt (k + 1)) work
              (worldBefore driver caller work s k) payload p →
            ∀ second,
              (driver.rollback (caller.forAttempt (k + 1)) p).result ≠ .panicked second) := by
  constructor
  · intro guarded k made payload p
    constructor
    · intro building
      have once := (guarded k made payload p (.inl building)).1.rolledBackOnce
      cases (unguarded_of_building building).1.symm.trans once
    · intro running second unanswered
      obtain ⟨before, inside, -, trace⟩ := (guarded k made payload p (.inr running)).1.reported
      apply logged_notMem_of_running running unanswered (Wording.panicked (k + 1))
      rw [attemptRun] at trace
      rw [trace]
      simp [Driver.guardRecords]
  · intro tame k made payload p panics
    have running := panics.resolve_left (tame k made payload p).1
    have guarded := guarded_of_running running ((tame k made payload p).2 running)
    obtain ⟨last, history, count⟩ := exists_history_of_made driver work s made
    obtain ⟨rfl, result⟩ := history.last_of_verdict (k := k) (by omega) (by
      rw [attemptRun, guarded.resumed]
      rfl)
    exact ⟨guarded, count.symm, result⟩

open Rehearsal in
/-- **A body that panics before it runs** leaves its transaction to whatever letting go of the handle
does. -/
theorem not_panicGuarded_of_building :
    ¬ PanicGuarded (scenarioDriver ⟨["40001"], 3, none⟩ [{}]) .fresh
      (fun _ => pure (.error (.text "boom")) : Work Unit Happening ScriptedTx Unit) () := by
  intro guarded
  have made : 0 < attemptCount (scenarioDriver ⟨["40001"], 3, none⟩ [{}]) .fresh
      (fun _ => pure (.error (.text "boom")) : Work Unit Happening ScriptedTx Unit) () := by
    decide +kernel
  have building : PanicsBuilding (scenarioDriver ⟨["40001"], 3, none⟩ [{}])
      (Context.fresh.forAttempt 1)
      (fun _ => pure (.error (.text "boom")) : Work Unit Happening ScriptedTx Unit) ()
      (.text "boom") ((), { script := {} }) :=
    ⟨_, _, _, _, rfl, rfl⟩
  have once := (guarded 0 made _ _ (.inl building)).1.rolledBackOnce
  cases (unguarded_of_building building).1.symm.trans once

end TxRetry
