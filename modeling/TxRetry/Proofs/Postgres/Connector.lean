import TxRetry.Postgres.Connector
import TxRetry.Proofs.Call.History
import TxRetry.Proofs.Call.Law
import TxRetry.Proofs.Postgres.Handle

/-!
# Attempts through a connector

What the calls of a connector's driver do to the handle, and what an attempt through a connector
sends to the database.

## Main definitions

* `Connector.Committing` — the ways in which a commit through a connector goes
* `Connector.hookRun?` — the run of the hook before the commit in an attempt, if it gets that far
* `worldEvents` — the events of the world behind those of a call
* `Connector.attemptEvents` — what happens in the attempt at a place

## Main statements

* `Connector.begin_only`, `Connector.begin_isOpen` — opening a transaction sends no commit, and what
  it returns is open
* `Connector.committing_commit` — every commit goes in one of the ways
* `Connector.entered_cases` — an attempt that reaches its body runs it on the handle just opened
* `Connector.transact_trace` — what happens in a call happens in its attempts
* `Connector.attempt_events_cases` — what happens in an attempt happens in its opening, or obeys the
  laws of the driver and of all programs
-/

namespace TxRetry.Postgres

namespace Connector

variable {δ μ α : Type} {connector : Connector μ} {db : Database δ} {ctx : Context}

/-! ### Opening a transaction -/

/-- A law that holds of statements and of batches holds of **setting a transaction up.** -/
theorem setUp_obeys {law : Law (World δ μ × Tx) Event}
    (statements : ∀ sql, Step.Obeys (Tx.execute db ctx.withoutCostCheck sql []).run law)
    (batches : ∀ sql, Step.Obeys (Tx.executeBatch db ctx.withoutCostCheck sql).run law)
    (isolation : IsolationLevel) : Step.Obeys (connector.setUp db ctx isolation) law := by
  unfold setUp
  refine Action.obeys_bind (Action.obeys_ofFallible (statements _)) fun _ => ?_
  refine Action.obeys_bind (Action.obeys_ofStep (Step.obeys_gets _)) fun (world, _) => ?_
  refine Action.obeys_bind (Action.obeys_ended _) fun batch? => ?_
  cases batch? with
  | none => exact Action.obeys_ended _
  | some batch => exact Action.obeys_ofFallible (batches _)

/-- If it holds of a release too, it holds where a transaction is **released unless it is set up.** -/
theorem setUpOrRelease_obeys {law : Law (World δ μ × Tx) Event} {isolation : IsolationLevel}
    (setUp : Step.Obeys (connector.setUp db ctx isolation) law)
    (release : (Tx.release db).Obeys law) :
    (connector.setUpOrRelease db ctx isolation).Obeys law := by
  unfold setUpOrRelease
  refine Step.obeys_bind setUp fun ending => ?_
  cases ending with
  | returned => exact Step.obeys_bind (Step.obeys_gets _) fun _ => Step.obeys_pure _
  | failed => exact Step.obeys_bind release fun _ => Step.obeys_pure _
  | panicked => exact Step.obeys_bind release fun _ => Step.obeys_pure _

/-- Setting a transaction up leaves its handle alone. -/
theorem setUp_untouched (isolation : IsolationLevel) :
    Step.Obeys (connector.setUp (μ := μ) db ctx isolation) untouched :=
  setUp_obeys (fun _ => Tx.statement_untouched _ _ _ _) (fun _ => Tx.executeBatch_untouched _ _) _

/-- Setting a transaction up, and releasing it if that does not succeed, sends no commit. -/
theorem setUpOrRelease_only (isolation : IsolationLevel) :
    (connector.setUpOrRelease (μ := μ) db ctx isolation).Obeys
      (.only fun event => event.isCommit = false) :=
  setUpOrRelease_obeys (fun p => isCommit_of_untouched (setUp_untouched isolation p)) Tx.release_only

/-- **Opening a transaction sends no commit.** -/
theorem begin_only :
    Step.Obeys (connector.begin (μ := μ) db ctx) (.only fun event => event.isCommit = false) := by
  unfold begin
  refine Action.obeys_bind (Action.obeys_ofStep (Step.obeys_gets _)) fun world => ?_
  split
  · exact Action.obeys_ended _
  · refine Action.obeys_bind (Action.obeys_ended _) fun isolation => ?_
    refine Action.obeys_bind (Action.obeys_ofStep ?_) fun reply => ?_
    · intro w event among
      obtain rfl := List.mem_singleton.mp among
      rfl
    · split
      · exact Action.obeys_ended _
      · exact Step.obeys_withHandle _ (setUpOrRelease_only isolation)

/-- A handle that is set up successfully is **as open as it was.** -/
theorem isOpen_of_setUpOrRelease {isolation : IsolationLevel} {p : World δ μ × Tx} {handle : Tx}
    (result : (connector.setUpOrRelease db ctx isolation p).result = .returned handle) :
    handle.isOpen = p.2.isOpen := by
  unfold setUpOrRelease at result
  rw [Action.step_bind_apply] at result
  cases ending : (connector.setUp db ctx isolation p).result with
  | returned =>
      rw [ending] at result
      cases result
      exact (setUp_untouched isolation p).1
  | failed error =>
      rw [ending] at result
      cases result
  | panicked payload =>
      rw [ending] at result
      cases result

/-- **What is returned by opening a transaction is open.** -/
theorem isOpen_of_begin {w : World δ μ} {handle : Tx}
    (result : (connector.begin db ctx w).result = .returned handle) : handle.isOpen = true := by
  unfold begin at result
  obtain ⟨world, -, result⟩ := Action.exists_of_bind_returned result
  dsimp only at result
  split at result
  · cases result
  · obtain ⟨isolation, -, result⟩ := Action.exists_of_bind_returned result
    obtain ⟨reply, -, result⟩ := Action.exists_of_bind_returned result
    cases answer : reply.answer with
    | error error =>
        rw [answer] at result
        cases result
    | ok rows =>
        rw [answer] at result
        exact isOpen_of_setUpOrRelease result

/-! ### Committing -/

/-- The hook before a commit; nothing, if there is none. -/
def beforeCommit (connector : Connector μ) (db : Database δ) (ctx : Context) :
    Action (World δ μ × Tx) Event Unit :=
  match connector.preCommitHook with
  | none => pure ()
  | some hook => (hook ctx).run db

theorem beforeCommit_of_present {hook : Context → Program μ Unit}
    (present : connector.preCommitHook = some hook) :
    connector.beforeCommit db ctx = (hook ctx).run db := by
  rw [beforeCommit, present]

theorem commit_of_closed {p : World δ μ × Tx} (closed : p.2.isOpen = false) :
    connector.commit db ctx p = ⟨.failed .txDone, p, []⟩ := by
  have done : p.2.isDone = true := by rw [Tx.isDone, closed]; rfl
  unfold commit
  rw [Action.bind_of_returned (a := p) rfl]
  dsimp only
  rw [if_pos done]
  rfl

/-- An open handle is committed after the hook. -/
theorem commit_of_open {p : World δ μ × Tx} (opened : p.2.isOpen = true) :
    connector.commit db ctx p =
      (connector.beforeCommit db ctx >>= fun _ => Action.ofFallible (Tx.commit db).run) p := by
  have live : ¬ p.2.isDone = true := by rw [Tx.isDone, opened]; simp
  unfold commit beforeCommit
  rw [Action.bind_of_returned (a := p) rfl]
  dsimp only
  rw [if_neg live]
  cases connector.preCommitHook <;> rfl

/-- The **ways in which a commit goes**, with its result, its final state and its events. -/
inductive Committing (connector : Connector μ) (db : Database δ) (ctx : Context)
    (p : World δ μ × Tx) : Run (World δ μ × Tx) Event (Ending Unit) → Prop
  /-- The transaction was concluded before, and is left alone. -/
  | concluded (closed : p.2.isOpen = false) :
      Committing connector db ctx p ⟨.failed .txDone, p, []⟩
  /-- The hook failed, and no commit was sent after it. -/
  | hookFailed {hook ran error} (opened : p.2.isOpen = true)
      (present : connector.preCommitHook = some hook) (run : (hook ctx).run db p = ran)
      (ending : ran.result = .failed error) :
      Committing connector db ctx p ⟨.failed error, ran.state, ran.trace⟩
  /-- The hook panicked, and no commit was sent after it. -/
  | hookPanicked {hook ran payload} (opened : p.2.isOpen = true)
      (present : connector.preCommitHook = some hook) (run : (hook ctx).run db p = ran)
      (ending : ran.result = .panicked payload) :
      Committing connector db ctx p ⟨.panicked payload, ran.state, ran.trace⟩
  /-- The hook returned, if there is one, and the commit succeeded. -/
  | committed {ran q inside} (opened : p.2.isOpen = true)
      (run : connector.beforeCommit db ctx p = ran) (ending : ran.result = .returned ())
      (answer : (Tx.commit db).run ran.state = ⟨.ok (), q, inside⟩) :
      Committing connector db ctx p ⟨.returned (), q, ran.trace ++ inside⟩
  /-- The hook returned, if there is one, and the commit failed. -/
  | commitFailed {ran error q inside} (opened : p.2.isOpen = true)
      (run : connector.beforeCommit db ctx p = ran) (ending : ran.result = .returned ())
      (answer : (Tx.commit db).run ran.state = ⟨.error error, q, inside⟩) :
      Committing connector db ctx p ⟨.failed error, q, ran.trace ++ inside⟩

/-- **Every commit goes in one of the ways.** -/
theorem committing_commit (p : World δ μ × Tx) :
    Committing connector db ctx p (connector.commit db ctx p) := by
  cases opened : p.2.isOpen with
  | false =>
      rw [commit_of_closed opened]
      exact .concluded opened
  | true =>
      obtain ⟨ran, run⟩ : ∃ ran, connector.beforeCommit db ctx p = ran := ⟨_, rfl⟩
      -- Without a hook there is nothing that could fail before the commit.
      have hooked : ran.result ≠ .returned () →
          ∃ hook, connector.preCommitHook = some hook ∧ (hook ctx).run db p = ran := by
        intro unreturned
        unfold beforeCommit at run
        cases present : connector.preCommitHook with
        | none =>
            rw [present] at run
            exact absurd (run ▸ rfl) unreturned
        | some hook =>
            rw [present] at run
            exact ⟨hook, rfl, run⟩
      rw [commit_of_open opened]
      cases ending : ran.result with
      | returned =>
          rw [Action.bind_of_returned (by rw [run, ending]), Action.ofFallible_apply, run]
          obtain ⟨⟨answer, q, inside⟩, answered⟩ :
            ∃ answered, (Tx.commit db).run ran.state = answered := ⟨_, rfl⟩
          rw [answered]
          cases answer with
          | ok => exact .committed opened run ending answered
          | error error => exact .commitFailed opened run ending answered
      | failed error =>
          obtain ⟨hook, present, hookRun⟩ := hooked (by simp [ending])
          rw [Action.bind_of_failed (by rw [run, ending]), run]
          exact .hookFailed opened present hookRun ending
      | panicked payload =>
          obtain ⟨hook, present, hookRun⟩ := hooked (by simp [ending])
          rw [Action.bind_of_panicked (by rw [run, ending]), run]
          exact .hookPanicked opened present hookRun ending

/-- A commit of the driver goes in one of the ways. -/
theorem committing_of_commit {p : World δ μ × Tx} {run : Run (World δ μ × Tx) Event (Ending Unit)}
    (commit : (connector.driver db).commit ctx p = run) : Committing connector db ctx p run := by
  subst commit
  exact committing_commit p

/-! ### The other calls of the driver -/

/-- A law that holds of every program holds of whatever comes before a commit. -/
theorem beforeCommit_obeys_of_programs {law : Law (World δ μ × Tx) Event}
    (programs : ∀ program : Program μ Unit, Step.Obeys (program.run db) law) :
    Step.Obeys (connector.beforeCommit db ctx) law := by
  unfold beforeCommit
  cases connector.preCommitHook with
  | none => exact Action.obeys_ended _
  | some hook => exact programs (hook ctx)

theorem beforeCommit_oneCommit :
    Step.Obeys (connector.beforeCommit (μ := μ) db ctx) oneCommit :=
  beforeCommit_obeys_of_programs fun program => program.run_oneCommit db

/-- A law that holds of every program and of the commit itself holds of **a commit with whatever
hook.** -/
theorem commit_obeys_of_programs {law : Law (World δ μ × Tx) Event}
    (programs : ∀ program : Program μ Unit, Step.Obeys (program.run db) law)
    (commit : Step.Obeys (Tx.commit db).run law) : Step.Obeys (connector.commit db ctx) law := by
  intro p
  cases opened : p.2.isOpen with
  | false =>
      rw [commit_of_closed opened]
      exact law.idle p
  | true =>
      rw [commit_of_open opened]
      exact Action.obeys_bind (beforeCommit_obeys_of_programs programs)
        (fun _ => Action.obeys_ofFallible commit) p

/-- A law that holds of every program holds of **the work that runs one.** -/
theorem workObeys_of_programs {law : Law (World δ μ × Tx) Event}
    (programs : ∀ program : Program μ α, Step.Obeys (program.run db) law)
    (body : Context → Program μ α) : WorkObeys (Program.toWork db body) law where
  preparation _ := Step.obeys_pure _
  action ctx p action prepared := by
    obtain rfl := Except.ok.inj prepared
    exact programs (body ctx)

theorem commit_oneCommit : Step.Obeys (connector.commit (μ := μ) db ctx) oneCommit :=
  commit_obeys_of_programs (fun program => program.run_oneCommit db) (Tx.conclude_oneCommit _)

theorem commit_accounted : Step.Obeys (connector.commit (μ := μ) db ctx) accounted :=
  commit_obeys_of_programs (fun program => program.run_accounted db)
    (Tx.conclude_accounted (.inl rfl))

/-- A rollback sends no commit. -/
theorem rollback_only :
    Step.Obeys ((connector.driver (μ := μ) db).rollback ctx)
      (.only fun event => event.isCommit = false) :=
  Action.obeys_ofFallible (Tx.conclude_only (fun _ => rfl) fun _ => rfl)

/-- A rollback leaves no handle open. -/
theorem rollback_closed (p : World δ μ × Tx) :
    ((connector.driver db).rollback ctx p).state.2.isOpen = false := by
  obtain ⟨w, tx⟩ := p
  show (Action.ofFallible (Tx.rollback db).run (w, tx)).state.2.isOpen = false
  rw [Action.ofFallible_apply]
  unfold Tx.rollback
  cases opened : tx.isOpen with
  | false =>
      rw [Tx.conclude_of_closed .rollback opened]
      exact opened
  | true => exact (Tx.conclude_cases .rollback opened).closed

/-- Rolling back while the handle is open always sends a rollback. -/
theorem rollback_sent (connector : Connector μ) (db : Database δ) (ctx : Context)
    {p : World δ μ × Tx} (opened : p.2.isOpen = true) :
    ∃ event ∈ ((connector.driver db).rollback ctx p).trace, event.isRollback = true := by
  obtain ⟨w, tx⟩ := p
  show ∃ event ∈ (Action.ofFallible (Tx.rollback db).run (w, tx)).trace, event.isRollback = true
  rw [Action.ofFallible_apply]
  exact (Tx.conclude_cases .rollback opened).rollback_sent

/-- **After a rollback, the handle is accounted for**, whatever was done with it before. -/
theorem accounted_of_rollback {start p : World δ μ × Tx} {events : List Event}
    {rolled : Run (World δ μ × Tx) Event (Ending Unit)} (opened : start.2.isOpen = true)
    (before : accounted.Holds start events p)
    (rollback : (connector.driver db).rollback ctx p = rolled) :
    ∃ event ∈ events ++ rolled.trace, event.isCommitted = true ∨ event.isRollback = true := by
  subst rollback
  have after : Step.Obeys ((connector.driver db).rollback ctx) accounted :=
    Action.obeys_ofFallible (Tx.conclude_accounted (.inr rfl))
  exact accounted.append before (after p) opened (rollback_closed p)

end Connector

/-! ### Attempts -/

/-- The **events of the world** behind those of a call. -/
def worldEvents (events : List (CallEvent Event)) : List Event :=
  events.flatMap (CallEvent.flatten Event.logged)

theorem worldEvents_append (first second : List (CallEvent Event)) :
    worldEvents (first ++ second) = worldEvents first ++ worldEvents second :=
  List.flatMap_append

theorem worldEvents_begun (ctx : Context) (ending : Ending Unit) (inside : List Event) :
    worldEvents [.begun ctx ending inside] = inside :=
  List.append_nil inside

/-- An opening that hands out a handle, and the program that runs on it. -/
theorem worldEvents_entered (ctx : Context) (ending : Ending Unit) (inOpening inside : List Event) :
    worldEvents [.begun ctx (.returned ()) inOpening, .prepared ctx none [],
      .worked ctx ending inside] = inOpening ++ inside := by
  show inOpening ++ ([] ++ (inside ++ [])) = _
  rw [List.nil_append, List.append_nil]

theorem worldEvents_committed (ctx : Context) (ending : Ending Unit) (inside : List Event)
    (rest : List (CallEvent Event)) :
    worldEvents (.committed ctx ending inside :: rest) = inside ++ worldEvents rest := rfl

theorem worldEvents_rolledBack (ctx : Context) (ending : Ending Unit) (inside : List Event)
    (rest : List (CallEvent Event)) :
    worldEvents (.rolledBack ctx ending inside :: rest) = inside ++ worldEvents rest := rfl

theorem worldEvents_logged (records : List LogRecord) :
    worldEvents (records.map .logged) = records.map .logged := by
  rw [worldEvents, List.flatMap_map, List.map_eq_flatMap]
  rfl

/-- Reports send nothing. -/
theorem isCommit_logged (records : List LogRecord) :
    ∀ event ∈ worldEvents (records.map .logged), event.isCommit = false := by
  rw [worldEvents_logged]
  intro event among
  obtain ⟨record, -, rfl⟩ := List.mem_map.mp among
  rfl

namespace Connector

variable {δ μ α : Type} {connector : Connector μ} {db : Database δ} {ctx : Context}
variable {body : Context → Program μ α} {w : World δ μ}

/-- The **run of the hook before the commit** in an attempt from the world `w`, if there is a hook
and the attempt gets that far. -/
def hookRun? (connector : Connector μ) (db : Database δ) (ctx : Context)
    (body : Context → Program μ α) (w : World δ μ) :
    Option (Run (World δ μ × Tx) Event (Ending Unit)) :=
  match bodyRun? (connector.driver db) ctx (Program.toWork db body) w, connector.preCommitHook with
  | some ⟨.returned _, p, _⟩, some hook => if p.2.isOpen then some ((hook ctx).run db p) else none
  | _, _ => none

/-- An attempt runs the hook if its body returned, the handle is still open, and there is one. -/
theorem hookRun?_eq_some_iff {run : Run (World δ μ × Tx) Event (Ending Unit)} :
    connector.hookRun? db ctx body w = some run ↔
      ∃ ran value hook,
        bodyRun? (connector.driver db) ctx (Program.toWork db body) w = some ran ∧
        ran.result = .returned value ∧ ran.state.2.isOpen = true ∧
        connector.preCommitHook = some hook ∧ (hook ctx).run db ran.state = run := by
  unfold hookRun?
  constructor
  · intro reached
    split at reached
    · rename_i value p inside hook entered present
      split at reached
      · rename_i opened
        exact ⟨_, value, hook, entered, rfl, opened, present, Option.some.inj reached⟩
      · cases reached
    · cases reached
  · rintro ⟨⟨_, p, inside⟩, value, hook, entered, rfl, opened, present, rfl⟩
    rw [entered, present]
    exact if_pos opened

/-- What **happens in the attempt at place `k`**, with the report of the decision after it. -/
def attemptEvents (connector : Connector μ) (db : Database δ) (ctx : Context)
    (body : Context → Program μ α) (w : World δ μ) (k : Nat) : List Event :=
  worldEvents (eventsAt (connector.driver db) ctx (Program.toWork db body) w k)

/-- The number of attempts that a call through a connector makes. -/
def attempts (connector : Connector μ) (db : Database δ) (ctx : Context)
    (body : Context → Program μ α) (w : World δ μ) : Nat :=
  attemptCount (connector.driver db) ctx (Program.toWork db body) w

/-- **What happens in a call happens in its attempts**, in order. -/
theorem transact_trace :
    (connector.transact db ctx body w).trace =
      (List.range (connector.attempts db ctx body w)).flatMap
        (connector.attemptEvents db ctx body w) := by
  show (TxRetry.transact (connector.driver db) ctx (Program.toWork db body) w).trace.flatMap _ = _
  rw [transact_trace_eq, List.flatMap_assoc]
  rfl

/-- At its end an attempt releases its handle. -/
theorem worldEvents_leave (p : World δ μ × Tx) (events : List (CallEvent Event))
    (ending : Ending α) :
    worldEvents ((connector.driver db).leave ctx p events ending).trace =
      worldEvents events ++ (Tx.release db p).trace := by
  show worldEvents (events ++ [.released ctx (Tx.release db p).trace]) = _
  rw [worldEvents_append]
  exact congrArg _ (List.append_nil _)

/-- **What happens in an attempt** happens in its opening and, if that hands out a handle, while the
handle is open and when it is released.  All of the latter obeys every law that the driver and all
programs obey. -/
theorem attempt_events_cases {law : Law (World δ μ × Tx) Event}
    (drivers : DriverObeys (connector.driver db) law Event.logged)
    (programs : ∀ program : Program μ α, Step.Obeys (program.run db) law) (ctx : Context)
    (number : Nat) (body : Context → Program μ α) (w : World δ μ) :
    let opening := connector.begin db (ctx.forAttempt number) w
    let happened := worldEvents
      (attempt (connector.driver db) ctx number (Program.toWork db body) w).trace
    (happened = opening.trace ∧ ∀ handle, opening.result ≠ .returned handle) ∨
      ∃ handle later p, opening.result = .returned handle ∧ happened = opening.trace ++ later ∧
        law.Holds (opening.state, handle) later (Tx.release db p).state := by
  dsimp only
  by_cases returned : ∃ handle, (connector.begin db (ctx.forAttempt number) w).result =
      .returned handle
  · obtain ⟨handle, returned⟩ := returned
    have began : (connector.driver db).begin (ctx.forAttempt number) w =
        ⟨.returned handle, (connector.begin db (ctx.forAttempt number) w).state,
          (connector.begin db (ctx.forAttempt number) w).trace⟩ := by
      rw [← returned]
      rfl
    obtain ⟨later, p, trace, rest⟩ :=
      exists_attempt_of_opened drivers (workObeys_of_programs programs body) began
    refine .inr ⟨handle, worldEvents later, p, returned, ?_, rest⟩
    rw [trace]
    rfl
  · have unopened : ∀ handle, ((connector.driver db).begin (ctx.forAttempt number) w).result ≠
        .returned handle := fun handle opened => returned ⟨handle, opened⟩
    refine .inl ⟨?_, unopened⟩
    rw [attempt_trace_of_unopened unopened, worldEvents_begun]
    rfl

/-- An attempt that **reaches its body** runs it on the open handle that was just returned, and
nothing but that body sent a commit until then. -/
theorem entered_cases {ran : Run (World δ μ × Tx) Event (Ending α)}
    {events : List (CallEvent Event)}
    (entered : Entered (connector.driver db) ctx (Program.toWork db body) w ran events) :
    ∃ start inOpening, start.2.isOpen = true ∧ (body ctx).run db start = ran ∧
      (∀ event ∈ inOpening, event.isCommit = false) ∧
        worldEvents events = inOpening ++ ran.trace := by
  cases entered with
  | @intro handle opened inOpening action prepared inPreparation opening preparation =>
      have begun : connector.begin db ctx w = ⟨.returned handle, opened, inOpening⟩ := opening
      have quiet : ∀ event ∈ inOpening, event.isCommit = false := begin_only.holds begun
      cases preparation
      exact ⟨(opened, handle), inOpening, isOpen_of_begin (congrArg Run.result begun), rfl, quiet,
        worldEvents_entered ctx _ inOpening _⟩

end Connector

/-- A database that accepts every command, at once and without rows. -/
def Database.agreeable : Database Unit := ⟨fun _ _ => ((), {})⟩

end TxRetry.Postgres
