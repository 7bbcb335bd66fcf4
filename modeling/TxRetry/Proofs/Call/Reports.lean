import Mathlib.Data.List.Basic
import Mathlib.Tactic.Choose
import TxRetry.Proofs.Call.Bracket

/-!
# The reports of a call

A call reports what it does beside its driver and its work: that a handle was found concluded, that
a body panicked, that it tries again or gives up.  Whoever reads these reports, and nothing else,
learns how the attempts of the call went and how many there were.

## Main definitions

* `reportsIn` — the reports among the events of a call
* `Driver.narrate` — the reports told from the calls of the driver and the runs of the work alone
* `AttemptTold` — calls, reports and ending of an attempt, for each of the ways in which it goes
* `AttemptNoted`, `AttemptDecided` — what is expected of the reports about one attempt
* `CallReported` — what is expected of the reports of a call

## Main statements

* `Attempted.told`, `AttemptTold.noted` — attempts report as expected
* `CallHistory.decidedAt` — so do the decisions after them
* `callReported` — and whole calls

## Design notes

**The telling keeps two things in mind,** the number of the attempt and the error in which it ends
so far.  Every report follows a call at once: the decision after a failed attempt is certain as soon
as its rollback is answered, and a transaction that cannot be opened is never tried again.

**Records are told apart by their wording,** where two of them have the same level.
-/

namespace TxRetry

variable {σ ν η α : Type}

/-! ### Reports and answers among the events -/

namespace CallEvent

/-- The record of an event, if the event is a report. -/
def record? : CallEvent ν → Option LogRecord
  | .logged record => some record
  | _ => none

/-- How the body ended, if the event is its run. -/
def bodyEnding? : CallEvent ν → Option (Ending Unit)
  | .worked _ ending _ => some ending
  | _ => none

/-- How a commit ended, if that is the event. -/
def commitAnswer? : CallEvent ν → Option (Ending Unit)
  | .committed _ ending _ => some ending
  | _ => none

end CallEvent

/-- The **reports among events**, in order. -/
def reportsIn (events : List (CallEvent ν)) : List LogRecord :=
  events.filterMap CallEvent.record?

theorem reportsIn_append (first second : List (CallEvent ν)) :
    reportsIn (first ++ second) = reportsIn first ++ reportsIn second := List.filterMap_append

theorem reportsIn_logged (records : List LogRecord) :
    reportsIn (records.map .logged : List (CallEvent ν)) = records := by
  rw [reportsIn, List.filterMap_map]
  exact List.filterMap_some

namespace Driver

/-- What is reported about the commit of an attempt. -/
def commitRecords (driver : Driver σ ν η) (number : Nat) : Ending Unit → List LogRecord
  | .failed error => if driver.isTxDone error then [Wording.concludedByBody number] else []
  | _ => []

/-- What is reported **on a call**, in an attempt in which the error so far is `failure?`. -/
def reportsOn (driver : Driver σ ν η) (number : Nat) (failure? : Option Error) :
    CallEvent ν → List LogRecord
  | .committed _ answer _ => driver.commitRecords number answer
  | .rolledBack _ answer _ =>
    match failure? with
    | none => driver.panicRecords number answer
    | some error =>
      driver.rollbackRecords number answer ++
        driver.decisionRecords number (driver.afterRollback error answer : Ending Unit)
  | _ => []

/-- The reports **told from the calls alone**, after the attempt with a number has begun. -/
def narrate (driver : Driver σ ν η) : Nat → Option Error → List (CallEvent ν) → List LogRecord
  | _, _, [] => []
  | number, _, .begun _ _ _ :: later => driver.narrate (number + 1) none later
  | number, failure?, call :: later =>
    driver.reportsOn number failure? call ++
      driver.narrate number ((call.failure? driver).or failure?) later

end Driver

/-! ### The reports of an attempt -/

/-- The calls of an attempt, **what it reports of them** and what it ends in, for each of the ways
in which it goes. -/
inductive AttemptTold (driver : Driver σ ν η) (ctx : Context) (number : Nat) :
    List (CallEvent ν) → List LogRecord → Ending α → Prop
  | unopened (error : Error) (inside : List ν) :
      AttemptTold driver ctx number [.begun ctx (.failed error) inside] [] (.failed (.begin error))
  | openingPanicked (payload : Payload) (inside : List ν) :
      AttemptTold driver ctx number [.begun ctx (.panicked payload) inside] [] (.panicked payload)
  | preparationPanicked (payload : Payload) (inOpening inside : List ν) :
      AttemptTold driver ctx number
        [.begun ctx (.returned ()) inOpening, .prepared ctx (some payload) inside] []
        (.panicked payload)
  | bodyFailed (error : Error) (answer : Ending Unit)
      (inOpening inPreparation inBody inRollback : List ν) :
      AttemptTold driver ctx number
        [.begun ctx (.returned ()) inOpening, .prepared ctx none inPreparation,
          .worked ctx (.failed error) inBody, .rolledBack ctx answer inRollback]
        (driver.rollbackRecords number answer) (driver.afterRollback error answer)
  | bodyPanicked (payload : Payload) (answer : Ending Unit)
      (inOpening inPreparation inBody inRollback : List ν) :
      AttemptTold driver ctx number
        [.begun ctx (.returned ()) inOpening, .prepared ctx none inPreparation,
          .worked ctx (.panicked payload) inBody, .rolledBack ctx answer inRollback]
        (driver.panicRecords number answer) (afterPanic payload answer)
  | committed (value : α) (inOpening inPreparation inBody inCommit : List ν) :
      AttemptTold driver ctx number
        [.begun ctx (.returned ()) inOpening, .prepared ctx none inPreparation,
          .worked ctx (.returned ()) inBody, .committed ctx (.returned ()) inCommit]
        [] (.returned value)
  | concludedByBody (value : α) {error : Error} (done : driver.isTxDone error = true)
      (inOpening inPreparation inBody inCommit : List ν) :
      AttemptTold driver ctx number
        [.begun ctx (.returned ()) inOpening, .prepared ctx none inPreparation,
          .worked ctx (.returned ()) inBody, .committed ctx (.failed error) inCommit]
        [Wording.concludedByBody number] (.returned value)
  | commitFailed {error : Error} (rejected : driver.isTxDone error = false) (answer : Ending Unit)
      (inOpening inPreparation inBody inCommit inRollback : List ν) :
      AttemptTold driver ctx number
        [.begun ctx (.returned ()) inOpening, .prepared ctx none inPreparation,
          .worked ctx (.returned ()) inBody, .committed ctx (.failed error) inCommit,
          .rolledBack ctx answer inRollback]
        (driver.rollbackRecords number answer) (driver.afterRollback error answer)
  | commitPanicked (payload : Payload) (inOpening inPreparation inBody inCommit : List ν) :
      AttemptTold driver ctx number
        [.begun ctx (.returned ()) inOpening, .prepared ctx none inPreparation,
          .worked ctx (.returned ()) inBody, .committed ctx (.panicked payload) inCommit]
        [] (.panicked payload)

section Attempt

variable {driver : Driver σ ν η} {ctx : Context} {number : Nat} {work : Work σ ν η α} {s : σ}
variable {run : Run σ (CallEvent ν) (Ending α)}
variable {body : Run (σ × η) ν (Ending α)} {events : List (CallEvent ν)}

namespace Entered

/-- The events up to the end of a body. -/
theorem events_eq (entered : Entered driver ctx work s body events) {ending : Ending α}
    (ended : body.result = ending) :
    ∃ inOpening inPreparation inBody, events =
      [.begun ctx (.returned ()) inOpening, .prepared ctx none inPreparation,
        .worked ctx ending.void inBody] := by
  subst ended
  cases entered
  exact ⟨_, _, _, rfl⟩

/-- What follows a body are calls, and then reports. -/
theorem told_leave (entered : Entered driver ctx work s body events)
    (calls : List (CallEvent ν)) (only : calls.filter CallEvent.isCall = calls)
    (silent : reportsIn calls = []) {records : List LogRecord} {p : σ × η} {ending : Ending α}
    (told : AttemptTold driver ctx number (events ++ calls) records ending) :
    AttemptTold driver ctx number
      ((driver.leave ctx p (events ++ (calls ++ records.map .logged)) ending).trace.filter
        CallEvent.isCall)
      (reportsIn (driver.leave ctx p (events ++ (calls ++ records.map .logged)) ending).trace)
      ending := by
  have before : reportsIn events = [] := by
    cases entered
    rfl
  rw [entered.filter_leave calls only]
  simp only [Driver.leave, reportsIn_append, before, silent, reportsIn_logged, List.nil_append]
  rwa [show reportsIn [.released ctx _] = ([] : List LogRecord) from rfl, List.append_nil]

end Entered

/-- **Every attempt reports what its calls call for.** -/
theorem Attempted.told (attempted : Attempted driver ctx number work s run) :
    AttemptTold driver ctx number (run.trace.filter CallEvent.isCall) (reportsIn run.trace)
      run.result := by
  cases attempted with
  | unopened => exact .unopened ..
  | openingPanicked => exact .openingPanicked ..
  | preparationPanicked => exact .preparationPanicked ..
  | bodyFailed entered ended =>
      obtain ⟨_, _, _, rfl⟩ := entered.events_eq ended
      exact entered.told_leave [_] rfl rfl (.bodyFailed ..)
  | bodyPanicked entered ended =>
      obtain ⟨_, _, _, rfl⟩ := entered.events_eq ended
      exact entered.told_leave [_] rfl rfl (.bodyPanicked ..)
  | committed entered ended =>
      obtain ⟨_, _, _, rfl⟩ := entered.events_eq ended
      exact entered.told_leave [_] rfl rfl (.committed ..)
  | concludedByBody entered ended _ done =>
      obtain ⟨_, _, _, rfl⟩ := entered.events_eq ended
      exact entered.told_leave [_] rfl rfl (.concludedByBody _ done ..)
  | commitFailed entered ended _ rejected =>
      obtain ⟨_, _, _, rfl⟩ := entered.events_eq ended
      exact entered.told_leave [_, _] rfl rfl (.commitFailed rejected ..)
  | commitPanicked entered ended =>
      obtain ⟨_, _, _, rfl⟩ := entered.events_eq ended
      exact entered.told_leave [_] rfl rfl (.commitPanicked ..)

end Attempt

section Told

variable {driver : Driver σ ν η} {ctx : Context} {number : Nat}
variable {calls : List (CallEvent ν)} {records : List LogRecord} {ending : Ending α}

/-- The decision about a failed attempt looks at its error only. -/
theorem Driver.decisionRecords_afterRollback (driver : Driver σ ν η) (number : Nat) (error : Error)
    (answer : Ending Unit) :
    driver.decisionRecords number (driver.afterRollback error answer : Ending Unit) =
      driver.decisionRecords number (driver.afterRollback error answer : Ending α) := by
  cases answer with
  | failed failure => simp only [Driver.afterRollback]; split <;> rfl
  | _ => rfl

/-- After a panic there is nothing to decide. -/
theorem Driver.decisionRecords_afterPanic (driver : Driver σ ν η) (number : Nat) (payload : Payload)
    (answer : Ending Unit) :
    driver.decisionRecords number (afterPanic payload answer : Ending α) = [] := by
  cases answer <;> rfl

/-- The reports of an attempt, with the one on the decision after it, are **told from its calls**,
and the telling goes on with the next attempt. -/
theorem AttemptTold.narrate (told : AttemptTold driver ctx (number + 1) calls records ending)
    (earlier? : Option Error) :
    ∃ failure?, ∀ later,
      driver.narrate number earlier? (calls ++ later) =
        records ++ driver.decisionRecords (number + 1) ending ++
          driver.narrate (number + 1) failure? later := by
  cases told with
  | unopened | openingPanicked | preparationPanicked | committed | commitPanicked =>
      exact ⟨none, fun _ => rfl⟩
  | concludedByBody value done =>
      refine ⟨none, fun later => ?_⟩
      simp [Driver.narrate, Driver.reportsOn, CallEvent.failure?, Driver.commitRecords, done,
        Driver.decisionRecords]
  | bodyFailed error answer =>
      refine ⟨some error, fun later => ?_⟩
      rw [← driver.decisionRecords_afterRollback]
      rfl
  | bodyPanicked payload answer =>
      refine ⟨none, fun later => ?_⟩
      rw [driver.decisionRecords_afterPanic, List.append_nil]
      rfl
  | @commitFailed error rejected answer =>
      refine ⟨some error, fun later => ?_⟩
      rw [← driver.decisionRecords_afterRollback]
      simp [Driver.narrate, Driver.reportsOn, CallEvent.failure?, Driver.commitRecords, rejected]

end Told

/-! ### Notes about the driver's answers -/

/-- An answer of the driver **says that the handle was concluded before.** -/
def Driver.SaysDone (driver : Driver σ ν η) (answer? : Option (Ending Unit)) (error : Error) :
    Prop :=
  answer? = some (.failed error) ∧ driver.isTxDone error = true

/-- What is expected of the **notes that an attempt takes of its calls**, given how its body ended
and how its commit and its rollback were answered. -/
structure AttemptNoted (driver : Driver σ ν η) (number : Nat)
    (body? commit? rollback? : Option (Ending Unit)) (notes : List LogRecord) : Prop where
  /-- A commit that finds the handle concluded is noted, once and with nothing beside it. -/
  concluded : ∀ error, driver.SaysDone commit? error → notes = [Wording.concludedByBody number]
  of_concluded : Wording.concludedByBody number ∈ notes → ∃ error, driver.SaysDone commit? error
  /-- So is a rollback that does, unless the body panicked. -/
  skipped : ∀ failure, driver.SaysDone rollback? failure →
    (∀ payload, body? ≠ some (.panicked payload)) → notes = [Wording.rollbackSkipped number failure]
  of_skipped : ∀ failure, Wording.rollbackSkipped number failure ∈ notes →
    (∀ payload, body? ≠ some (.panicked payload)) ∧ ∃ other, driver.SaysDone rollback? other
  /-- Errors are noted only if the body panicked. -/
  erred : ∀ record ∈ notes, record.level = .error → ∃ payload, body? = some (.panicked payload)
  /-- There are no other notes. -/
  known : ∀ record ∈ notes, record = Wording.concludedByBody number ∨
    (∃ failure, record = Wording.rollbackSkipped number failure) ∨ record.level = .error

section Noted

variable {driver : Driver σ ν η} {number : Nat} {body? commit? rollback? : Option (Ending Unit)}
variable {record : LogRecord} {notes : List LogRecord}

theorem Wording.rollbackSkipped_ne_concludedByBody (number : Nat) (failure : Error) :
    Wording.rollbackSkipped number failure ≠ Wording.concludedByBody number := by
  intro same
  have first := congrArg (fun record : LogRecord => record.message.toList.head?) same
  simp [Wording.rollbackSkipped, Wording.concludedByBody, String.toList_append] at first

/-- The only note about a rollback is that it was not needed. -/
theorem Driver.mem_rollbackRecords {answer : Ending Unit}
    (among : record ∈ driver.rollbackRecords number answer) :
    ∃ failure, driver.SaysDone (some answer) failure ∧
      record = Wording.rollbackSkipped number failure := by
  cases answer with
  | returned => cases among
  | panicked => cases among
  | failed failure =>
      rw [rollbackRecords] at among
      split at among
      · rename_i done
        exact ⟨failure, ⟨rfl, done⟩, List.mem_singleton.mp among⟩
      · cases among

theorem Driver.level_of_panicRecords {answer : Ending Unit}
    (among : record ∈ driver.panicRecords number answer) : record.level = .error := by
  have levels : ∀ other ∈ driver.panicRecords number answer, other.level = .error := by
    cases answer with
    | failed failure =>
        rw [panicRecords]
        split <;> simp [Wording.panicked, Wording.rollbackFailed]
    | _ => simp [panicRecords, Wording.panicked]
  exact levels record among

/-- Without a rollback and without a concluded handle there is nothing to note. -/
theorem attemptNoted_of_unrolled (undone : ∀ error, ¬ driver.SaysDone commit? error) :
    AttemptNoted driver number body? commit? none [] where
  concluded := fun error done => absurd done (undone error)
  of_concluded := nofun
  skipped := by rintro _ ⟨⟨⟩, _⟩
  of_skipped := nofun
  erred := nofun
  known := nofun

theorem attemptNoted_of_concluded {error : Error} (done : driver.isTxDone error = true) :
    AttemptNoted driver number body? (some (.failed error)) none
      [Wording.concludedByBody number] where
  concluded := fun _ _ => rfl
  of_concluded := fun _ => ⟨error, rfl, done⟩
  skipped := by rintro _ ⟨⟨⟩, _⟩
  of_skipped := fun failure among =>
    absurd (List.mem_singleton.mp among) (Wording.rollbackSkipped_ne_concludedByBody number failure)
  erred := by
    intro record among erred
    rw [List.mem_singleton.mp among] at erred
    cases erred
  known := fun record among => .inl (List.mem_singleton.mp among)

theorem attemptNoted_of_rolledBack (running : ∀ payload, body? ≠ some (.panicked payload))
    (undone : ∀ error, ¬ driver.SaysDone commit? error) (answer : Ending Unit) :
    AttemptNoted driver number body? commit? (some answer)
      (driver.rollbackRecords number answer) where
  concluded := fun error done => absurd done (undone error)
  of_concluded := by
    intro among
    obtain ⟨failure, -, same⟩ := Driver.mem_rollbackRecords among
    exact absurd same.symm (Wording.rollbackSkipped_ne_concludedByBody number failure)
  skipped := by
    rintro failure ⟨⟨⟩, done⟩ _
    exact if_pos done
  of_skipped := by
    intro failure among
    obtain ⟨other, done, -⟩ := Driver.mem_rollbackRecords among
    exact ⟨running, other, done⟩
  erred := by
    intro record among erred
    obtain ⟨failure, -, rfl⟩ := Driver.mem_rollbackRecords among
    cases erred
  known := by
    intro record among
    obtain ⟨failure, -, same⟩ := Driver.mem_rollbackRecords among
    exact .inr (.inl ⟨failure, same⟩)

theorem attemptNoted_of_panicked (payload : Payload) (answer : Ending Unit) :
    AttemptNoted driver number (some (.panicked payload)) none (some answer)
      (driver.panicRecords number answer) where
  concluded := by rintro _ ⟨⟨⟩, _⟩
  of_concluded := by
    intro among
    cases Driver.level_of_panicRecords among
  skipped := fun _ _ running => absurd rfl (running payload)
  of_skipped := by
    intro failure among
    cases Driver.level_of_panicRecords among
  erred := fun _ _ _ => ⟨payload, rfl⟩
  known := fun _ among => .inr (.inr (Driver.level_of_panicRecords among))

/-- An attempt notes no warnings. -/
theorem AttemptNoted.level_ne_warn
    (noted : AttemptNoted driver number body? commit? rollback? notes) :
    ∀ record ∈ notes, record.level ≠ .warn := by
  intro record among warns
  rcases noted.known record among with rfl | ⟨failure, rfl⟩ | erred
  · cases warns
  · cases warns
  · cases erred.symm.trans warns

variable {ctx : Context} {calls : List (CallEvent ν)} {records : List LogRecord} {ending : Ending α}

/-- **Every attempt notes how its calls went.** -/
theorem AttemptTold.noted (told : AttemptTold driver ctx number calls records ending) :
    AttemptNoted driver number (calls.findSome? CallEvent.bodyEnding?)
      (calls.findSome? CallEvent.commitAnswer?) (calls.findSome? CallEvent.rollbackAnswer?)
      records := by
  cases told with
  | unopened | openingPanicked | preparationPanicked | committed | commitPanicked =>
      exact attemptNoted_of_unrolled (by rintro _ ⟨⟨⟩, _⟩)
  | bodyFailed _ answer =>
      exact attemptNoted_of_rolledBack (by rintro _ ⟨⟩) (by rintro _ ⟨⟨⟩, _⟩) answer
  | bodyPanicked payload answer => exact attemptNoted_of_panicked payload answer
  | concludedByBody _ done => exact attemptNoted_of_concluded done
  | commitFailed rejected answer =>
      refine attemptNoted_of_rolledBack (by rintro _ ⟨⟩) ?_ answer
      rintro error ⟨⟨⟩, done⟩
      cases rejected.symm.trans done

end Noted

/-! ### Reports on decisions -/

/-- What is expected of the **report on the decision** after the attempt with a number, in a call
that makes `n` attempts and ends in `result`. -/
structure AttemptDecided (driver : Driver σ ν η) (n number : Nat) (ending result : Ending α)
    (decision : List LogRecord) : Prop where
  /-- An attempt that is followed by another one failed with a code, and that is reported. -/
  retrying : number < n → ∃ error code, ending = .failed error ∧ error.sqlstate = some code ∧
    decision = [Wording.retrying code number]
  of_retrying : ∀ code, Wording.retrying code number ∈ decision → number < n
  /-- A last attempt that failed with a listed code is the last one allowed; the call gives up. -/
  givingUp : number = n → ∀ error, ending = .failed error → driver.Lists error →
    n = driver.attemptLimit ∧ result = .failed (.retriesExceeded n error) ∧
      ∃ code, error.sqlstate = some code ∧ decision = [Wording.givingUp code n]
  of_givingUp : ∀ code, Wording.givingUp code number ∈ decision →
    number = n ∧ ∃ error, ending = .failed error ∧ driver.Lists error
  /-- Any other decision is not reported. -/
  settled : number = n → (∀ error, ending = .failed error → ¬ driver.Lists error) → decision = []

section Decided

variable {driver : Driver σ ν η} {number : Nat} {error final : Error} {code : String}
variable {ending : Ending α} {record : LogRecord} {answer : Ending Unit}

theorem Wording.givingUp_ne_retrying (code other : String) (attempts number : Nat) :
    Wording.givingUp code attempts ≠ Wording.retrying other number := by
  intro same
  have first := congrArg (fun record : LogRecord => record.message.toList.head?) same
  simp [Wording.givingUp, Wording.retrying, String.toList_append] at first

namespace Driver

theorem decisionRecords_of_allowed (found : driver.retryableCode error = some code)
    (allowed : number < driver.attemptLimit) :
    driver.decisionRecords number (.failed error : Ending α) = [Wording.retrying code number] := by
  simp [decisionRecords, found, allowed]

theorem decisionRecords_of_exhausted (found : driver.retryableCode error = some code)
    (exhausted : driver.attemptLimit ≤ number) :
    driver.decisionRecords number (.failed error : Ending α) = [Wording.givingUp code number] := by
  simp [decisionRecords, found, Nat.not_lt.mpr exhausted]

theorem decisionRecords_of_unlisted
    (unlisted : ∀ error, ending = .failed error → ¬ driver.Lists error) :
    driver.decisionRecords number ending = [] := by
  cases ending with
  | failed error => simp [decisionRecords, retryableCode_eq_none_iff.mpr (unlisted error rfl)]
  | _ => rfl

/-- A decision is reported for a listed code only. -/
theorem mem_decisionRecords (among : record ∈ driver.decisionRecords number ending) :
    ∃ error code, ending = .failed error ∧ driver.Lists error ∧
      (number < driver.attemptLimit ∧ record = Wording.retrying code number ∨
        driver.attemptLimit ≤ number ∧ record = Wording.givingUp code number) := by
  cases ending with
  | returned => cases among
  | panicked => cases among
  | failed error =>
      cases found : driver.retryableCode error with
      | none =>
          rw [decisionRecords, found] at among
          cases among
      | some code =>
          refine ⟨error, code, rfl, exists_retryableCode_iff.mp ⟨code, found⟩, ?_⟩
          rcases Nat.lt_or_ge number driver.attemptLimit with allowed | exhausted
          · rw [decisionRecords_of_allowed found allowed] at among
            exact .inl ⟨allowed, List.mem_singleton.mp among⟩
          · rw [decisionRecords_of_exhausted found exhausted] at among
            exact .inr ⟨exhausted, List.mem_singleton.mp among⟩

/-- Decisions are reported as warnings. -/
theorem level_of_decisionRecords (among : record ∈ driver.decisionRecords number ending) :
    record.level = .warn := by
  obtain ⟨_, _, -, -, ⟨-, rfl⟩ | ⟨-, rfl⟩⟩ := mem_decisionRecords among <;> rfl

theorem exists_code_of_lists (listed : driver.Lists error) :
    ∃ code, driver.retryableCode error = some code ∧ error.sqlstate = some code := by
  obtain ⟨code, found⟩ := exists_retryableCode_iff.mpr listed
  exact ⟨code, found, Error.sqlstate_eq_some_iff.mpr (retryableCode_eq_some_iff.mp found).1⟩

/-- An exhausted call is never listed, whatever is behind it. -/
theorem not_lists_retriesExceeded (driver : Driver σ ν η) (attempts : Nat) (source : Error) :
    ¬ driver.Lists (.retriesExceeded attempts source) := by
  rintro ⟨code, -, carries⟩
  cases carries

/-- An error that is not listed stays so, whatever the rollback after it answers. -/
theorem not_lists_afterRollback (unlisted : ¬ driver.Lists error)
    (failed : driver.afterRollback error answer = (.failed final : Ending α)) :
    ¬ driver.Lists final := by
  cases answer with
  | returned =>
      cases failed
      exact unlisted
  | panicked => cases failed
  | failed failure =>
      rw [afterRollback] at failed
      split at failed <;> cases failed
      · exact unlisted
      · exact mt lists_rollback_iff.mp unlisted

/-- Without a listed code an attempt decides the call. -/
theorem verdict_eq_self (unlisted : ∀ error, ending = .failed error → ¬ driver.Lists error) :
    driver.verdict number ending = some ending := by
  cases ending with
  | failed error => exact verdict_of_unlisted (unlisted error rfl)
  | _ => rfl

end Driver

end Decided

namespace CallHistory

variable {driver : Driver σ ν η} {caller : Context} {work : Work σ ν η α} {s : σ} {last k : Nat}

/-- **The decision after each attempt is reported.** -/
theorem decidedAt (history : CallHistory driver caller work s last) (made : k ≤ last) :
    AttemptDecided driver (last + 1) (k + 1) (attemptRun driver caller work s k).result
      (transact driver caller work s).result
      (driver.decisionRecords (k + 1) (attemptRun driver caller work s k).result) where
  retrying := by
    intro before
    obtain ⟨allowed, error, failed, listed⟩ :=
      Driver.verdict_eq_none_iff.mp (history.undecided k (Nat.lt_of_succ_lt_succ before))
    obtain ⟨code, found, sqlstate⟩ := Driver.exists_code_of_lists listed
    refine ⟨error, code, failed, sqlstate, ?_⟩
    rw [failed, Driver.decisionRecords_of_allowed found allowed]
  of_retrying := by
    intro code among
    obtain ⟨error, other, failed, listed, ⟨allowed, -⟩ | ⟨-, same⟩⟩ :=
      Driver.mem_decisionRecords among
    · exact (history.failurePath made failed).again listed allowed
    · exact absurd same.symm (Wording.givingUp_ne_retrying _ _ _ _)
  givingUp := by
    intro place error failed listed
    obtain ⟨code, found, sqlstate⟩ := Driver.exists_code_of_lists listed
    have path := history.failurePath made failed
    -- Were an attempt left, the call would have made it.
    have exhausted : driver.attemptLimit ≤ k + 1 := by
      by_contra left
      have another := path.again listed (Nat.not_le.mp left)
      omega
    have allowed := history.last_lt
    refine ⟨by omega, ?_, code, sqlstate, ?_⟩
    · rw [← place, (path.exhausted listed exhausted).2]
    · rw [failed, Driver.decisionRecords_of_exhausted found exhausted, place]
  of_givingUp := by
    intro code among
    obtain ⟨error, other, failed, listed, ⟨-, same⟩ | ⟨exhausted, -⟩⟩ :=
      Driver.mem_decisionRecords among
    · exact absurd same (Wording.givingUp_ne_retrying _ _ _ _)
    · have path := history.failurePath made failed
      exact ⟨(path.exhausted listed exhausted).1, error, failed, listed⟩
  settled := fun _ unlisted => Driver.decisionRecords_of_unlisted unlisted

/-- The **numbers in the reports on decisions** run from one on, and only the last attempt can be
the one after which the call gives up. -/
theorem numbered (history : CallHistory driver caller work s last) :
    ∃ (codes : Nat → String) (final : List LogRecord),
      ((List.range (last + 1)).flatMap fun k =>
          driver.decisionRecords (k + 1) (attemptRun driver caller work s k).result) =
        (List.range last).map (fun k => Wording.retrying (codes k) (k + 1)) ++ final ∧
      (final = [] ∨ ∃ code, final = [Wording.givingUp code (last + 1)]) := by
  have retried : ∀ k < last, ∃ code, driver.decisionRecords (k + 1)
      (attemptRun driver caller work s k).result = [Wording.retrying code (k + 1)] := by
    intro k before
    obtain ⟨_, code, -, -, decision⟩ :=
      (history.decidedAt (Nat.le_of_lt before)).retrying (Nat.succ_lt_succ before)
    exact ⟨code, decision⟩
  choose! codes retried using retried
  have final := history.decidedAt (Nat.le_refl last)
  refine ⟨codes, driver.decisionRecords (last + 1) (attemptRun driver caller work s last).result,
    ?_, ?_⟩
  · rw [List.range_succ, List.flatMap_append, List.flatMap_singleton, List.map_eq_flatMap]
    congr 1
    exact List.flatMap_congr fun k among => retried k (List.mem_range.mp among)
  · by_cases listed : ∃ error, (attemptRun driver caller work s last).result = .failed error ∧
        driver.Lists error
    · obtain ⟨error, failed, listed⟩ := listed
      obtain ⟨-, -, code, -, decision⟩ := final.givingUp rfl error failed listed
      exact .inr ⟨code, decision⟩
    · exact .inl (final.settled rfl fun error failed isListed => listed ⟨error, failed, isListed⟩)

/-- **An exhausted call in the body** is passed on: it ends the call, after a rollback and without a
decision to report. -/
theorem passedOn (history : CallHistory driver caller work s last) (made : k ≤ last)
    {body : Run (σ × η) ν (Ending α)} {attempts : Nat} {source : Error}
    (reached : bodyRun? driver (caller.forAttempt (k + 1)) work
      (worldBefore driver caller work s k) = some body)
    (exhausted : body.result = .failed (.retriesExceeded attempts source)) :
    k = last ∧
      (transact driver caller work s).result = driver.afterRollback
        (.retriesExceeded attempts source)
        (driver.rollback (caller.forAttempt (k + 1)) body.state).result ∧
      driver.decisionRecords (k + 1) (attemptRun driver caller work s k).result = [] := by
  obtain ⟨events, entered⟩ := exists_entered reached
  have result : (attemptRun driver caller work s k).result = driver.afterRollback
      (.retriesExceeded attempts source)
      (driver.rollback (caller.forAttempt (k + 1)) body.state).result := by
    rw [attemptRun, attempt_of_bodyFailed entered exhausted rfl]
    rfl
  have unlisted : ∀ error, (attemptRun driver caller work s k).result = .failed error →
      ¬ driver.Lists error := by
    intro error failed
    rw [result] at failed
    exact Driver.not_lists_afterRollback (driver.not_lists_retriesExceeded attempts source) failed
  obtain ⟨place, ends⟩ := history.last_of_verdict made (Driver.verdict_eq_self unlisted)
  exact ⟨place, ends.trans result, Driver.decisionRecords_of_unlisted unlisted⟩

end CallHistory

/-! ### The reports of a call -/

/-- The **reports at place `k`**: the notes of the attempt, and then the report on the decision. -/
def reportsAt (driver : Driver σ ν η) (caller : Context) (work : Work σ ν η α) (s : σ) (k : Nat) :
    List LogRecord :=
  reportsIn (attemptRun driver caller work s k).trace ++
    driver.decisionRecords (k + 1) (attemptRun driver caller work s k).result

/-- What is expected of **the reports of a call** of `n` attempts. -/
structure CallReported (driver : Driver σ ν η) (caller : Context) (work : Work σ ν η α) (s : σ)
    (n : Nat) : Prop where
  /-- The reports can be told from the calls of the driver and the runs of the work alone. -/
  told : reportsIn (transact driver caller work s).trace =
    driver.narrate 0 none ((transact driver caller work s).trace.filter CallEvent.isCall)
  /-- They come attempt by attempt. -/
  ordered : reportsIn (transact driver caller work s).trace =
    (List.range n).flatMap (reportsAt driver caller work s)
  /-- An attempt first notes how its calls went. -/
  noted : ∀ k < n, AttemptNoted driver (k + 1)
    ((callsAt driver caller work s k).findSome? CallEvent.bodyEnding?)
    ((callsAt driver caller work s k).findSome? CallEvent.commitAnswer?)
    ((callsAt driver caller work s k).findSome? CallEvent.rollbackAnswer?)
    (reportsIn (attemptRun driver caller work s k).trace)
  /-- Then follows what the call decides about it. -/
  decided : ∀ k < n, AttemptDecided driver n (k + 1) (attemptRun driver caller work s k).result
    (transact driver caller work s).result
    (driver.decisionRecords (k + 1) (attemptRun driver caller work s k).result)
  /-- All warnings of the call: those of retries, with the numbers from one on and without a gap,
  and at most one at the end that the call gives up. -/
  numbered : ∃ (codes : Nat → String) (final : List LogRecord),
    (reportsIn (transact driver caller work s).trace).filter (·.level == .warn) =
        (List.range (n - 1)).map (fun k => Wording.retrying (codes k) (k + 1)) ++ final ∧
      (final = [] ∨ ∃ code, final = [Wording.givingUp code n])
  /-- An exhausted call in the body is passed on, and no reason to give up. -/
  passedOn : ∀ k < n, ∀ body attempts source,
    bodyRun? driver (caller.forAttempt (k + 1)) work (worldBefore driver caller work s k) =
      some body → body.result = .failed (.retriesExceeded attempts source) →
    k + 1 = n ∧
      (transact driver caller work s).result = driver.afterRollback
        (.retriesExceeded attempts source)
        (driver.rollback (caller.forAttempt (k + 1)) body.state).result ∧
      ∀ code number, Wording.givingUp code number ∉ reportsIn (transact driver caller work s).trace

section Call

variable (driver : Driver σ ν η) (caller : Context) (work : Work σ ν η α) (s : σ)

theorem reportsIn_transact :
    reportsIn (transact driver caller work s).trace =
      (List.range (attemptCount driver caller work s)).flatMap
        (reportsAt driver caller work s) := by
  rw [transact_trace_eq, reportsIn, List.filterMap_flatMap]
  congr 1
  funext k
  show reportsIn (eventsAt driver caller work s k) = _
  rw [eventsAt, reportsIn_append, reportsIn_logged]
  rfl

theorem filter_isCall_transact :
    (transact driver caller work s).trace.filter CallEvent.isCall =
      (List.range (attemptCount driver caller work s)).flatMap (callsAt driver caller work s) := by
  rw [transact_trace_eq, List.filter_flatMap]
  congr 1
  funext k
  rw [eventsAt, List.filter_append, CallEvent.filter_isCall_logged, List.append_nil]
  rfl

/-- The reports of **attempts in a row** are told from their calls.  The induction is on their
number; the error in which the attempt before them ended is forgotten as the first of them
begins. -/
theorem narrate_flatMap_callsAt (m first : Nat) (earlier? : Option Error) :
    driver.narrate first earlier?
        ((List.range' first m).flatMap (callsAt driver caller work s)) =
      (List.range' first m).flatMap (reportsAt driver caller work s) := by
  induction m generalizing first earlier? with
  | zero => rfl
  | succ m ih =>
      obtain ⟨failure?, narrated⟩ :=
        (attempted_attemptRun driver caller work s first).told.narrate earlier?
      rw [List.range'_succ, List.flatMap_cons, List.flatMap_cons, ← ih (first + 1) failure?]
      exact narrated _

/-- The warnings of a call are its reports on decisions. -/
theorem warnings_eq :
    (reportsIn (transact driver caller work s).trace).filter (·.level == .warn) =
      (List.range (attemptCount driver caller work s)).flatMap fun k =>
        driver.decisionRecords (k + 1) (attemptRun driver caller work s k).result := by
  rw [reportsIn_transact, List.filter_flatMap]
  congr 1
  funext k
  have notes := (attempted_attemptRun driver caller work s k).told.noted.level_ne_warn
  have decision : ∀ record ∈ driver.decisionRecords (k + 1)
      (attemptRun driver caller work s k).result, record.level = .warn :=
    fun _ => Driver.level_of_decisionRecords
  rw [reportsAt, List.filter_append, List.filter_eq_nil_iff.mpr, List.filter_eq_self.mpr,
    List.nil_append]
  · simpa using decision
  · simpa using notes

/-- **The reports of a call tell its run**, for every driver, every body and every context. -/
theorem callReported :
    CallReported driver caller work s (attemptCount driver caller work s) where
  told := by
    rw [filter_isCall_transact, reportsIn_transact, List.range_eq_range', narrate_flatMap_callsAt]
  ordered := reportsIn_transact driver caller work s
  noted := fun k _ => (attempted_attemptRun driver caller work s k).told.noted
  decided := by
    intro k made
    obtain ⟨last, history, count⟩ := exists_history_of_made driver work s made
    rw [count] at made ⊢
    exact history.decidedAt (Nat.le_of_lt_succ made)
  numbered := by
    rw [warnings_eq]
    cases inside : caller.inTransaction with
    | true =>
        rw [attemptCount_of_inside driver work s inside]
        exact ⟨fun _ => "", [], rfl, .inl rfl⟩
    | false =>
        obtain ⟨last, history⟩ := exists_callHistory driver work s inside
        rw [history.count_eq]
        exact history.numbered
  passedOn := by
    intro k made body attempts source reached exhausted
    obtain ⟨last, history, count⟩ := exists_history_of_made driver work s made
    rw [count] at made ⊢
    obtain ⟨rfl, result, unreported⟩ :=
      history.passedOn (Nat.le_of_lt_succ made) reached exhausted
    refine ⟨rfl, result, fun code number among => ?_⟩
    have warned : Wording.givingUp code number ∈
        (reportsIn (transact driver caller work s).trace).filter (·.level == .warn) :=
      List.mem_filter.mpr ⟨among, rfl⟩
    rw [warnings_eq, count, List.mem_flatMap] at warned
    obtain ⟨j, early, decision⟩ := warned
    -- Only the last attempt could be reported so, and it is the one without a report.
    rcases Nat.lt_succ_iff_lt_or_eq.mp (List.mem_range.mp early) with before | rfl
    · obtain ⟨_, _, -, -, retried⟩ :=
        (history.decidedAt (Nat.le_of_lt before)).retrying (Nat.succ_lt_succ before)
      rw [retried, List.mem_singleton] at decision
      exact Wording.givingUp_ne_retrying _ _ _ _ decision
    · rw [unreported] at decision
      cases decision

end Call

end TxRetry
