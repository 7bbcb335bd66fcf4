import TxRetry.Proofs.Call.Attempt
import TxRetry.Proofs.Law

/-!
# Laws of attempts

A law that the driver and the work obey is obeyed by every attempt, from the opening of its handle
to the release.  So what is known of each call of the driver need not be proved again for each of
the ways in which an attempt goes.

## Main definitions

* `Law.ofCalls` — a law carried over to the events of calls
* `DriverObeys`, `WorkObeys` — what has to be known of the driver and of the work

## Main statements

* `attemptOpen_obeys` — what happens in an attempt while its handle is open obeys the law
* `exists_attempt_of_opened` — and so does the release that follows
-/

namespace TxRetry

variable {σ ν η α β : Type}

/-- A law of what happens in the world, **carried over to the events of calls.** -/
def Law.ofCalls (law : Law σ ν) (ofRecord : LogRecord → ν) : Law σ (CallEvent ν) where
  Holds s events t := law.Holds s (events.flatMap (CallEvent.flatten ofRecord)) t
  idle := law.idle
  append first second := by
    rw [List.flatMap_append]
    exact law.append first second

/-- A computation that obeys a law obeys it **when it is observed**, if its event shows what happened
inside. -/
theorem Step.obeys_observed {law : Law σ ν} {ofRecord : LogRecord → ν} {x : Step σ ν β}
    {event : β → List ν → CallEvent ν}
    (shown : ∀ b inside, (event b inside).flatten ofRecord = inside) (obeys : x.Obeys law) :
    (Step.observed event x).Obeys (law.ofCalls ofRecord) := by
  intro s
  show law.Holds s ([event (x s).result (x s).trace].flatMap _) (x s).state
  rw [List.flatMap_singleton, shown]
  exact obeys s

/-- What has to be known of **a driver**: its calls on an open handle obey the law, and so do the
reports of a call. -/
structure DriverObeys (driver : Driver σ ν η) (law : Law (σ × η) ν) (ofRecord : LogRecord → ν) :
    Prop where
  commit : ∀ ctx, Step.Obeys (driver.commit ctx) law
  rollback : ∀ ctx, Step.Obeys (driver.rollback ctx) law
  release : driver.release.Obeys law
  reported : ∀ record, IsReport record → ∀ p, law.Holds p [ofRecord record] p

/-- What has to be known of **the work**: its preparation obeys the law, and so does every action that
it prepares. -/
structure WorkObeys (work : Work σ ν η α) (law : Law (σ × η) ν) : Prop where
  preparation : ∀ ctx, (work ctx).Obeys law
  action : ∀ ctx p action, (work ctx p).result = .ok action → Step.Obeys action law

section Attempts

variable {law : Law (σ × η) ν} {ofRecord : LogRecord → ν} {driver : Driver σ ν η}
variable {work : Work σ ν η α}

theorem report_obeys (drivers : DriverObeys driver law ofRecord) {record : LogRecord}
    (isReport : IsReport record) :
    (report record : Step (σ × η) (CallEvent ν) Unit).Obeys (law.ofCalls ofRecord) :=
  drivers.reported record isReport

theorem rollbackStep_obeys (drivers : DriverObeys driver law ofRecord) (ctx : Context) :
    Step.Obeys (rollbackStep driver ctx) (law.ofCalls ofRecord) :=
  Step.obeys_observed (fun _ _ => rfl) (drivers.rollback ctx)

theorem rollBackAfter_obeys (drivers : DriverObeys driver law ofRecord) (ctx : Context)
    (number : Nat) (error : Error) :
    Step.Obeys (rollBackAfter driver ctx number error : Step (σ × η) (CallEvent ν) (Ending α))
      (law.ofCalls ofRecord) := by
  unfold rollBackAfter
  refine Step.obeys_bind (rollbackStep_obeys drivers ctx) fun answer => ?_
  cases answer with
  | returned => exact Step.obeys_pure _
  | panicked payload => exact Step.obeys_pure _
  | failed failure =>
      dsimp only
      split
      · exact Step.obeys_bind (report_obeys drivers (.rollbackSkipped number failure)) fun _ => Step.obeys_pure _
      · exact Step.obeys_pure _

theorem rollBackPanicked_obeys (drivers : DriverObeys driver law ofRecord) (ctx : Context)
    (number : Nat) (payload : Payload) :
    Step.Obeys (rollBackPanicked driver ctx number payload : Step (σ × η) (CallEvent ν) (Ending α))
      (law.ofCalls ofRecord) := by
  unfold rollBackPanicked
  refine Step.obeys_bind (rollbackStep_obeys drivers ctx) fun answer => ?_
  cases answer with
  | returned => exact Step.obeys_bind (report_obeys drivers (.panicked number)) fun _ => Step.obeys_pure _
  | panicked second => exact Step.obeys_pure _
  | failed failure =>
      dsimp only
      split
      · exact Step.obeys_bind (report_obeys drivers (.panicked number)) fun _ => Step.obeys_pure _
      · refine Step.obeys_bind (report_obeys drivers (.rollbackFailed number failure)) fun _ => ?_
        exact Step.obeys_bind (report_obeys drivers (.panicked number)) fun _ => Step.obeys_pure _

theorem commitAfter_obeys (drivers : DriverObeys driver law ofRecord) (ctx : Context)
    (number : Nat) (value : α) :
    Step.Obeys (commitAfter driver ctx number value) (law.ofCalls ofRecord) := by
  unfold commitAfter
  refine Step.obeys_bind (Step.obeys_observed (fun _ _ => rfl) (drivers.commit ctx)) fun answer => ?_
  cases answer with
  | returned => exact Step.obeys_pure _
  | panicked payload => exact Step.obeys_pure _
  | failed error =>
      dsimp only
      split
      · exact Step.obeys_bind (report_obeys drivers (.concludedByBody number)) fun _ => Step.obeys_pure _
      · exact rollBackAfter_obeys drivers ctx number error

/-- What the ending of a body calls for obeys the law. -/
theorem afterBody_obeys (drivers : DriverObeys driver law ofRecord) (ctx : Context) (number : Nat)
    (ending : Ending α) : (afterBody driver ctx number ending).Obeys (law.ofCalls ofRecord) := by
  cases ending with
  | returned value => exact commitAfter_obeys drivers ctx number value
  | failed error => exact rollBackAfter_obeys drivers ctx number error
  | panicked payload => exact rollBackPanicked_obeys drivers ctx number payload

/-- **What happens in an attempt while its handle is open** obeys the law. -/
theorem attemptOpen_obeys (drivers : DriverObeys driver law ofRecord) (works : WorkObeys work law)
    (ctx : Context) (number : Nat) :
    Step.Obeys (attemptOpen driver ctx number work) (law.ofCalls ofRecord) := by
  have shown : ∀ (prepared : Except Payload (Action (σ × η) ν α)) inside,
      (CallEvent.ofPreparation ctx prepared inside).flatten ofRecord = inside := by
    intro prepared inside
    cases prepared <;> rfl
  unfold attemptOpen
  refine Step.obeys_bind_of_results (Step.obeys_observed shown (works.preparation ctx)) fun p => ?_
  rw [Step.observed_apply]
  cases prepared : (work ctx p).result with
  | error payload => exact Step.obeys_pure _
  | ok action =>
      have acting := works.action ctx p action prepared
      refine Step.obeys_bind (Step.obeys_observed (fun _ _ => rfl) acting) fun ending => ?_
      exact afterBody_obeys drivers ctx number ending

/-- An attempt that **opens a transaction** obeys the law from then on, and ends by releasing the
handle. -/
theorem exists_attempt_of_opened (drivers : DriverObeys driver law ofRecord)
    (works : WorkObeys work law) {caller : Context} {number : Nat} {s opened : σ} {handle : η}
    {inside : List ν}
    (opening : driver.begin (caller.forAttempt number) s = ⟨.returned handle, opened, inside⟩) :
    ∃ events p, (attempt driver caller number work s).trace =
        .begun (caller.forAttempt number) (.returned ()) inside :: events ∧
      (law.ofCalls ofRecord).Holds (opened, handle) events (driver.release p).state := by
  have during := attemptOpen_obeys drivers works (caller.forAttempt number) number (opened, handle)
  have released : (Step.observed (fun _ => CallEvent.released (caller.forAttempt number))
      driver.release).Obeys (law.ofCalls ofRecord) :=
    Step.obeys_observed (fun _ _ => rfl) drivers.release
  rw [attempt_of_opened opening rfl]
  exact ⟨_, _, rfl, (law.ofCalls ofRecord).append during (released _)⟩

/-- An attempt that **opens no transaction** does nothing else. -/
theorem attempt_trace_of_unopened {caller : Context} {number : Nat} {s : σ}
    (unopened : ∀ handle, (driver.begin (caller.forAttempt number) s).result ≠ .returned handle) :
    (attempt driver caller number work s).trace =
      [.begun (caller.forAttempt number) (driver.begin (caller.forAttempt number) s).result.void
        (driver.begin (caller.forAttempt number) s).trace] := by
  rw [attempt, Step.bind_apply, Action.observed_apply]
  cases ending : (driver.begin (caller.forAttempt number) s).result with
  | returned handle => exact absurd ending (unopened handle)
  | failed error => rfl
  | panicked payload => rfl

end Attempts

end TxRetry
