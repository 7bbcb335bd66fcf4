import TxRetry.Proofs.Call.History

/-!
# Calls from inside a transaction

A transactional call is turned away if its context comes from inside a transaction.  No operation on
contexts leads out of a transaction or into one, so the guard cannot be evaded, and a call that was
turned away might as well not have been made.

## Main definitions

* `Context.Derived` — what can be derived from a context
* `Routine` — code that runs in a transaction, with its own transactional calls as data
* `Routine.run`, `Routine.toWork` — the action and the work that routines describe
* `Routine.Pruned` — calls deleted from a routine, if their contexts come from inside a transaction
* `NestingGuarded` — the guard, for the contexts that come from one call

## Main statements

* `Context.Derived.attempt_eq` — derived contexts belong to the same attempt
* `Routine.exists_toWork_eq` — every work is described by routines
* `Routine.pruned_of_ignored` — a call whose answer is ignored can be deleted
* `Routine.Pruned.run_eq` — deleting such calls changes nothing
* `nestingGuarded` — the guard holds

## Design notes

**Calls are data, all other code is not.**  To delete a call one must be able to point at it; a
routine shows its calls and keeps everything between them as steps.  What is called from a routine
may make calls in its turn, so the body of a call is a routine again.

**A deleted call leaves its answer behind.**  The routine goes on as it does after being turned
away.  If it ignores the answer, that is how it goes on in any case.
-/

namespace TxRetry

variable {σ ν η α β γ : Type}

/-! ### Derived contexts -/

namespace Context

/-- The contexts that can be **derived** from a context: itself, or a copy of it, after any sequence
of operations at any instants. -/
inductive Derived (ctx : Context) : Context → Prop
  | copy : Derived ctx ctx
  | changed {derived : Context} (now : Instant) (change : Change) (earlier : Derived ctx derived) :
      Derived ctx (derived.apply now change)

variable {ctx derived : Context}

/-- **Derived contexts belong to the same attempt**, if to any. -/
theorem Derived.attempt_eq (path : ctx.Derived derived) : derived.attempt = ctx.attempt := by
  induction path with
  | copy => rfl
  | changed now change _ ih => rw [apply_attempt, ih]

theorem Derived.inTransaction_eq (path : ctx.Derived derived) :
    derived.inTransaction = ctx.inTransaction := by
  rw [inTransaction, inTransaction, path.attempt_eq]

end Context

/-! ### What a call asks of its work -/

section Congruence

variable {driver : Driver σ ν η} {caller : Context} {work other : Work σ ν η α}

theorem attemptsFrom_congr
    (same : ∀ number, work (caller.forAttempt number) = other (caller.forAttempt number))
    (number more : Nat) :
    attemptsFrom driver caller work number more = attemptsFrom driver caller other number more := by
  have attempts : ∀ number,
      attempt driver caller number work = attempt driver caller number other := by
    intro number
    simp only [attempt, attemptOpen, same number]
  induction more generalizing number with
  | zero => rw [attemptsFrom_zero, attemptsFrom_zero, attempts]
  | succ more ih => simp only [attemptsFrom_succ, attempts, ih]

/-- A call asks for its work **under the contexts of its attempts only.** -/
theorem transact_congr
    (same : ∀ number, work (caller.forAttempt number) = other (caller.forAttempt number)) :
    transact driver caller work = transact driver caller other := by
  simp only [transact, attemptsFrom_congr same]

end Congruence

/-! ### Routines -/

/-- Work in **two stages**: something is prepared, and the action is the one for it. -/
def Work.ofStages (prepare : Context → Step (σ × η) ν (Except Payload γ))
    (action : Context → γ → Action (σ × η) ν α) : Work σ ν η α :=
  fun ctx => Except.map (action ctx) <$> prepare ctx

/-- Code with the handle of an open transaction: steps, and **transactional calls** on whatever
drivers, each chosen by the outcome of what was before. -/
inductive Routine (σ ν : Type) : Type → Type → Type 1 where
  | finish {η α : Type} (ending : Ending α) : Routine σ ν η α
  | act {η α β : Type} (x : Step (σ × η) ν β) (next : β → Routine σ ν η α) : Routine σ ν η α
  /-- A call under some context, whose work is prepared and then goes on as a routine. -/
  | call {η α θ β γ : Type} (driver : Driver σ ν θ) (ctx : Context)
      (prepare : Context → Step (σ × θ) ν (Except Payload γ))
      (body : Context → γ → Routine σ ν θ β) (next : Ending β → Routine σ ν η α) : Routine σ ν η α

namespace Routine

variable (ofRecord : LogRecord → ν)

/-- The **action that a routine describes.** -/
def run {η α : Type} : Routine σ ν η α → Action (σ × η) ν α
  | .finish ending => Action.ended ending
  | .act x next => Step.andThen x fun b => (next b).run
  | .call driver ctx prepare body next =>
    Step.andThen
      (Step.onWorld (transactWithin ofRecord driver ctx
        (Work.ofStages prepare fun own prepared => (body own prepared).run)))
      fun ending => (next ending).run

/-- The **work that routines describe**, one for each context and each preparation. -/
def toWork (prepare : Context → Step (σ × η) ν (Except Payload γ))
    (body : Context → γ → Routine σ ν η α) : Work σ ν η α :=
  Work.ofStages prepare fun own prepared => (body own prepared).run ofRecord

/-- The equation of a call in a routine. -/
theorem run_call {θ : Type} (driver : Driver σ ν θ) (ctx : Context)
    (prepare : Context → Step (σ × θ) ν (Except Payload γ))
    (body : Context → γ → Routine σ ν θ β) (next : Ending β → Routine σ ν η α) :
    (call driver ctx prepare body next).run ofRecord =
      Step.andThen
        (Step.onWorld (transactWithin ofRecord driver ctx (toWork ofRecord prepare body)))
        fun ending => (next ending).run ofRecord := rfl

/-- **Every work is described by routines**, if only by such that are a single step. -/
theorem exists_toWork_eq (work : Work σ ν η α) :
    ∃ (γ : Type) (prepare : Context → Step (σ × η) ν (Except Payload γ))
      (body : Context → γ → Routine σ ν η α), toWork ofRecord prepare body = work := by
  refine ⟨Action (σ × η) ν α, work, fun _ action => .act action .finish, ?_⟩
  funext ctx
  have unchanged : ∀ action : Action (σ × η) ν α,
      (act action finish : Routine σ ν η α).run ofRecord = action := fun action =>
    bind_pure (m := Step (σ × η) ν) action
  simp only [toWork, Work.ofStages, unchanged]
  show Except.map id <$> work ctx = work ctx
  rw [Except.map_id, id_map]

/-! ### Calls deleted -/

/-- One routine is another one with **calls deleted that come from inside a transaction**: their
contexts are derived from those that bodies around them received.  Calls from elsewhere stay, with
calls deleted from their own bodies. -/
inductive Pruned : List Context → {η α : Type} → Routine σ ν η α → Routine σ ν η α → Prop
  | finish {received : List Context} {η α : Type} (ending : Ending α) :
      Pruned received (finish ending : Routine σ ν η α) (finish ending)
  | act {received : List Context} {η α β : Type} (x : Step (σ × η) ν β)
      {next kept : β → Routine σ ν η α} (rest : ∀ b, Pruned received (next b) (kept b)) :
      Pruned received (act x next) (act x kept)
  | call {received : List Context} {η α θ β γ : Type} (driver : Driver σ ν θ) (ctx : Context)
      (prepare : Context → Step (σ × θ) ν (Except Payload γ))
      {body keptBody : Context → γ → Routine σ ν θ β} {next kept : Ending β → Routine σ ν η α}
      (inner : ∀ number prepared, Pruned (ctx.forAttempt number :: received)
        (body (ctx.forAttempt number) prepared) (keptBody (ctx.forAttempt number) prepared))
      (rest : ∀ ending, Pruned received (next ending) (kept ending)) :
      Pruned received (call driver ctx prepare body next) (call driver ctx prepare keptBody kept)
  | deleted {received : List Context} {η α θ β γ : Type} (driver : Driver σ ν θ)
      {ctx own : Context} (prepare : Context → Step (σ × θ) ν (Except Payload γ))
      (body : Context → γ → Routine σ ν θ β) {next : Ending β → Routine σ ν η α}
      {kept : Routine σ ν η α} (among : own ∈ received) (path : own.Derived ctx)
      (rest : Pruned received (next (.failed .nestedTransaction)) kept) :
      Pruned received (call driver ctx prepare body next) kept

variable {ofRecord}

/-- Nothing needs to be deleted. -/
theorem pruned_self (received : List Context) (routine : Routine σ ν η α) :
    Pruned received routine routine := by
  induction routine generalizing received with
  | finish ending => exact .finish ending
  | act x next ih => exact .act x fun b => ih b received
  | call driver ctx prepare body next ihBody ihNext =>
      exact .call driver ctx prepare (fun number prepared => ihBody _ prepared _)
        fun ending => ihNext ending received

/-- A call whose answer is **ignored** can be deleted without a trace. -/
theorem pruned_of_ignored {received : List Context} {θ : Type} (driver : Driver σ ν θ)
    {ctx own : Context} (prepare : Context → Step (σ × θ) ν (Except Payload γ))
    (body : Context → γ → Routine σ ν θ β) (among : own ∈ received) (path : own.Derived ctx)
    (rest : Routine σ ν η α) : Pruned received (.call driver ctx prepare body fun _ => rest) rest :=
  .deleted driver prepare body among path (pruned_self received rest)

/-- A call from inside a transaction is turned away, and does nothing to the world around it. -/
theorem run_call_of_inside {θ : Type} {driver : Driver σ ν θ} {ctx : Context}
    {prepare : Context → Step (σ × θ) ν (Except Payload γ)}
    {body : Context → γ → Routine σ ν θ β} {next : Ending β → Routine σ ν η α}
    (inside : ctx.inTransaction = true) :
    (call driver ctx prepare body next).run ofRecord =
      (next (.failed .nestedTransaction)).run ofRecord := by
  refine Step.ext fun (s, h) => ?_
  simp only [run_call, Step.andThen, Step.onWorld_apply, transactWithin, Step.mapTrace_apply,
    transact_of_inside inside, List.flatMap_nil, List.nil_append]

/-- Calls are the same if their bodies run alike under the contexts of the attempts. -/
theorem transact_toWork_congr {driver : Driver σ ν η} {caller : Context}
    {prepare : Context → Step (σ × η) ν (Except Payload γ)}
    {body kept : Context → γ → Routine σ ν η α}
    (same : ∀ number prepared, (kept (caller.forAttempt number) prepared).run ofRecord =
      (body (caller.forAttempt number) prepared).run ofRecord) :
    transact driver caller (toWork ofRecord prepare kept) =
      transact driver caller (toWork ofRecord prepare body) := by
  refine transact_congr fun number => ?_
  simp only [toWork, Work.ofStages, same]

/-- **Deleting calls from inside a transaction changes nothing.**  The induction goes into the
bodies of the calls that stay; their own contexts are inside a transaction too. -/
theorem Pruned.run_eq {received : List Context} {routine kept : Routine σ ν η α}
    (pruned : Pruned received routine kept) (inside : ∀ own ∈ received, own.inTransaction = true) :
    kept.run ofRecord = routine.run ofRecord := by
  induction pruned with
  | finish ending => rfl
  | act x rest ih =>
      simp only [run]
      exact congrArg (Step.andThen x) (funext fun b => ih b inside)
  | call driver ctx prepare inner rest ihBody ihNext =>
      have bodies := fun number prepared =>
        ihBody number prepared (List.forall_mem_cons.mpr ⟨rfl, inside⟩)
      rw [run_call, run_call, transactWithin, transactWithin, transact_toWork_congr bodies]
      exact congrArg (Step.andThen _) (funext fun ending => ihNext ending inside)
  | deleted driver prepare body among path rest ih =>
      rw [run_call_of_inside (path.inTransaction_eq.trans (inside _ among)), ih inside]

end Routine

/-! ### The guard -/

/-- A context **starts transactions**: the first thing that a call under it does, on any driver and
with any work, is to open one for its first attempt. -/
def StartsTransactions (σ ν : Type) (ctx : Context) : Prop :=
  ∀ {η α : Type} (driver : Driver σ ν η) (work : Work σ ν η α) (s : σ),
    let opening := driver.begin (ctx.forAttempt 1) s
    ∃ rest, (transact driver ctx work s).trace =
      .begun (ctx.forAttempt 1) opening.result.void opening.trace :: rest

/-- What is derived from a context outside any transaction starts transactions. -/
theorem startsTransactions_of_derived {ctx derived : Context} (outside : ctx.inTransaction = false)
    (path : ctx.Derived derived) : StartsTransactions σ ν derived := by
  intro η α driver work s
  rw [transact_of_outside driver work (path.inTransaction_eq.trans outside)]
  unfold attemptsFrom attempt
  exact ⟨_, rfl⟩

/-- The **guard against calls from inside a transaction**, for the contexts that come from calls
under `caller`. -/
structure NestingGuarded (ofRecord : LogRecord → ν) (caller : Context) : Prop where
  /-- Whatever a body derives from its context has the number of its attempt. -/
  numbered : ∀ number derived, (caller.forAttempt number).Derived derived →
    derived.attempt = some number
  /-- A call under such a context is turned away by every driver, without any effect or event. -/
  rejected : ∀ number derived, (caller.forAttempt number).Derived derived →
    ∀ {η α : Type} (driver : Driver σ ν η) (work : Work σ ν η α) (s : σ),
      transact driver derived work s = ⟨.failed .nestedTransaction, s, []⟩
  /-- Without such calls in its body, at any depth and place, a call has the same result, leaves the
  same state and does the same, down to what happens inside each call of the driver. -/
  erased : ∀ {η α γ : Type} (driver : Driver σ ν η)
    (prepare : Context → Step (σ × η) ν (Except Payload γ))
    (body kept : Context → γ → Routine σ ν η α),
    (∀ number prepared, Routine.Pruned [caller.forAttempt number]
      (body (caller.forAttempt number) prepared) (kept (caller.forAttempt number) prepared)) →
    ∀ s, transact driver caller (Routine.toWork ofRecord prepare kept) s =
      transact driver caller (Routine.toWork ofRecord prepare body) s
  /-- Whatever is derived from the context with nothing set starts transactions. -/
  fresh : ∀ derived, Context.fresh.Derived derived → StartsTransactions σ ν derived
  /-- So does whatever a caller outside any transaction derives from its context. -/
  outside : caller.inTransaction = false → ∀ derived, caller.Derived derived →
    StartsTransactions σ ν derived

/-- **The guard cannot be evaded, and being turned away has no effect.** -/
theorem nestingGuarded (ofRecord : LogRecord → ν) (caller : Context) :
    NestingGuarded (σ := σ) ofRecord caller := by
  have inside : ∀ number derived, (caller.forAttempt number).Derived derived →
      derived.inTransaction = true := fun number derived path => path.inTransaction_eq
  refine ⟨fun number derived path => path.attempt_eq, ?_, ?_, ?_, ?_⟩
  · intro number derived path η α driver work s
    exact transact_of_inside (inside number derived path) s
  · intro η α γ driver prepare body kept pruned s
    refine congrFun (Routine.transact_toWork_congr fun number prepared => ?_) s
    exact (pruned number prepared).run_eq (List.forall_mem_singleton.mpr rfl)
  · intro derived path
    exact startsTransactions_of_derived rfl path
  · intro outside derived path
    exact startsTransactions_of_derived outside path

end TxRetry
