import TxRetry.Postgres.Program
import TxRetry.Proofs.Law

/-!
# What becomes of a handle

A handle is opened once and concluded once.  This module follows it through every operation: which
ones leave it alone, what concluding it sends, and how many commits it is good for.

## Main definitions

* `Event.isCommit`, `Event.isRollback`, `Event.isCommitted` — a commit or a rollback that was sent,
  and a commit that was accepted
* `commitsIn` — the number of commits that were accepted
* `untouched` — the law that a handle is not concluded, and that nothing is sent that concludes one
* `oneCommit` — the law that a handle is good for one commit, and only as long as it is open
* `accounted` — the law that a handle is closed by an accepted commit or by a rollback only
* `Tx.QueriesObey` — what a law has to say of the parts of a statement
* `Conclusion` — what comes of concluding an open handle
* `Program.concludes` — whether a program concludes its handle itself

## Main statements

* `Tx.statement_untouched`, `Tx.executeBatch_untouched` — statements leave the handle alone
* `Tx.conclude_cases` — what `conclude` does to an open handle
* `Program.run_obeys`, `Program.run_obeys_of_operations` — the laws that hold of every program
* `Program.run_untouched` — a program that does not conclude its handle leaves it alone
-/

namespace TxRetry.Postgres

/-! ### Commits and rollbacks among the events -/

namespace Event

/-- A commit was sent. -/
def isCommit : Event → Bool
  | .executed .commit _ => true
  | _ => false

/-- A rollback was sent. -/
def isRollback : Event → Bool
  | .executed .rollback _ => true
  | _ => false

/-- A commit was sent, and the database accepted it. -/
def isCommitted : Event → Bool
  | .executed .commit reply => reply.accepted
  | _ => false

/-- A command was sent that concludes a transaction. -/
def concludes (event : Event) : Bool := event.isCommit || event.isRollback

theorem isCommit_of_isCommitted {event : Event} (committed : event.isCommitted = true) :
    event.isCommit = true := by
  unfold isCommitted at committed
  split at committed
  · rfl
  · cases committed

end Event

/-- The number of **commits that the database accepted.** -/
def commitsIn (events : List Event) : Nat := events.countP Event.isCommitted

theorem commitsIn_append (first second : List Event) :
    commitsIn (first ++ second) = commitsIn first + commitsIn second :=
  List.countP_append

/-- Where no commit is sent, none is accepted. -/
theorem commitsIn_eq_zero {events : List Event}
    (unsent : ∀ event ∈ events, event.isCommit = false) : commitsIn events = 0 := by
  rw [commitsIn, List.countP_eq_zero]
  intro event among committed
  have sent := Event.isCommit_of_isCommitted committed
  rw [unsent event among] at sent
  cases sent

variable {δ μ α : Type}

/-! ### Two laws of handles -/

/-- The law that **a handle is left alone**: it stays as open as it was, and no command is sent that
concludes a transaction. -/
def untouched : Law (World δ μ × Tx) Event where
  Holds p events q := q.2.isOpen = p.2.isOpen ∧ ∀ event ∈ events, event.concludes = false
  idle _ := ⟨rfl, by simp⟩
  append := by
    rintro p q r first second ⟨openFirst, first⟩ ⟨openSecond, second⟩
    refine ⟨openSecond.trans openFirst, ?_⟩
    intro event among
    rcases List.mem_append.mp among with early | late
    · exact first event early
    · exact second event late

/-- The law that **a handle is good for one commit**, which closes it. -/
def oneCommit : Law (World δ μ × Tx) Event where
  Holds p events q := commitsIn events + q.2.isOpen.toNat ≤ p.2.isOpen.toNat
  idle _ := by simp [commitsIn]
  append := by
    intro p q r first second paidFirst paidSecond
    rw [commitsIn_append]
    omega

/-- The law that **a handle is accounted for**: what closes it is a commit that the database
accepted, or a rollback. -/
def accounted : Law (World δ μ × Tx) Event where
  Holds p events q := p.2.isOpen = true → q.2.isOpen = false →
    ∃ event ∈ events, event.isCommitted = true ∨ event.isRollback = true
  idle p := by
    intro opened closed
    rw [opened] at closed
    cases closed
  append := by
    intro p q r first second before after opened closed
    -- What closed the handle is in the second run if the first one left it open.
    cases between : q.2.isOpen with
    | true =>
        obtain ⟨event, among, account⟩ := after between closed
        exact ⟨event, List.mem_append_right first among, account⟩
    | false =>
        obtain ⟨event, among, account⟩ := before opened between
        exact ⟨event, List.mem_append_left second among, account⟩

section Untouched

variable {p q : World δ μ × Tx} {events : List Event}

/-- Where a handle is left alone, no commit is sent. -/
theorem isCommit_of_untouched (alone : untouched.Holds p events q) :
    ∀ event ∈ events, event.isCommit = false := by
  intro event among
  exact (Bool.or_eq_false_iff.mp (alone.2 event among)).1

/-- Where a handle is left alone, it is still good for what it was good for. -/
theorem oneCommit_of_untouched (alone : untouched.Holds p events q) :
    oneCommit.Holds p events q := by
  have unsent : commitsIn events = 0 := commitsIn_eq_zero (isCommit_of_untouched alone)
  show commitsIn events + q.2.isOpen.toNat ≤ p.2.isOpen.toNat
  rw [unsent, alone.1]
  omega

theorem accounted_of_untouched (alone : untouched.Holds p events q) :
    accounted.Holds p events q := by
  intro opened closed
  rw [alone.1, opened] at closed
  cases closed

end Untouched

/-! ### Statements leave the handle alone -/

/-- A command under a deadline is sent once at most, and nothing else is. -/
theorem sendBefore_only (event : Command → Reply → Event) (db : Database δ)
    (deadline : Option Instant) (command : Command) :
    (sendBefore event db deadline command : Step (World δ μ) Event Timely).Obeys
      (.only fun e => ∃ reply, e = event command reply) := by
  unfold sendBefore
  refine Step.obeys_bind (Step.obeys_gets _) fun start => ?_
  split
  · exact Step.obeys_pure _
  · refine Step.obeys_bind ?_ fun reply => Step.obeys_bind (Step.obeys_gets _) fun finish => ?_
    · intro w e among
      exact ⟨_, List.mem_singleton.mp among⟩
    · split <;> exact Step.obeys_pure _

namespace Tx

variable {db : Database δ}

theorem current_untouched : Step.Obeys (current : TxStep δ μ Tx).run untouched :=
  Fallible.obeys_lift (Step.obeys_gets _)

theorem log_untouched (record : LogRecord) :
    Step.Obeys (log record : TxStep δ μ Unit).run untouched := by
  refine Fallible.obeys_lift fun p => ⟨rfl, ?_⟩
  intro event among
  obtain rfl := List.mem_singleton.mp among
  rfl

theorem setLate_untouched (late : Option LateFailure) :
    (setLate late : Step (World δ μ × Tx) Event Unit).Obeys untouched :=
  fun _ => ⟨rfl, by simp [setLate]⟩

/-- A command that does not conclude a transaction leaves the handle alone. -/
theorem query_untouched {event : Command → Reply → Event} {command : Command}
    (quiet : ∀ reply, (event command reply).concludes = false) (ctx : Context) :
    Step.Obeys (query event db ctx command : TxStep δ μ Answer).run untouched := by
  unfold query
  refine Fallible.obeys_bind current_untouched fun tx => ?_
  split
  · split
    · unfold exchange
      refine Step.obeys_bind ?_ fun timely => ?_
      · refine fun p => ⟨rfl, ?_⟩
        intro e among
        obtain ⟨reply, rfl⟩ := sendBefore_only event db ctx.deadline command p.1 e among
        exact quiet reply
      · cases timely with
        | unsent => exact Step.obeys_pure _
        | answered reply => exact Step.obeys_pure _
        | late reply => exact Step.obeys_bind (setLate_untouched _) fun _ => Step.obeys_pure _
    · unfold readLate
      refine Step.obeys_bind (Step.obeys_gets _) fun (w, _) => ?_
      dsimp only
      split
      · exact Step.obeys_bind (setLate_untouched _) fun _ => Step.obeys_pure _
      · exact Step.obeys_pure _
  · exact Fallible.obeys_throw _

/-- What a law has to say of **the parts of a statement**: its record and its queries. -/
structure QueriesObey (db : Database δ) (law : Law (World δ μ × Tx) Event) : Prop where
  logged : ∀ record, Step.Obeys (log record : TxStep δ μ Unit).run law
  executed : ∀ ctx sql args,
    Step.Obeys (query .executed db ctx (.statement sql args) : TxStep δ μ Answer).run law
  probed : ∀ ctx sql args,
    Step.Obeys (query .probed db ctx (.statement sql args) : TxStep δ μ Answer).run law

section Statements

variable {law : Law (World δ μ × Tx) Event}

/-- The check of a plan's cost explains the statement, and that is all it sends. -/
theorem checkPlanCost_obeys (queries : QueriesObey db law) (ctx : Context) (sql : String)
    (args : List Arg) : Step.Obeys (checkPlanCost db ctx sql args : TxStep δ μ Unit).run law := by
  unfold checkPlanCost
  refine Fallible.obeys_bind (Fallible.obeys_lift (Step.obeys_gets _)) fun tx => ?_
  split
  · exact Fallible.obeys_pure _
  · refine Fallible.obeys_bind (queries.probed ctx _ args) fun answer => ?_
    refine Fallible.obeys_bind (Step.obeys_pure _) fun row => ?_
    refine Fallible.obeys_bind (Step.obeys_pure _) fun document => ?_
    exact Fallible.obeys_bind (Step.obeys_pure _) fun cost => queries.logged _

/-- A law that holds of the parts of statements **holds of statements.** -/
theorem statement_obeys (queries : QueriesObey db law) (read : Answer → Except Error α)
    (ctx : Context) (sql : String) (args : List Arg) :
    Step.Obeys (statement db read ctx sql args : TxStep δ μ α).run law := by
  unfold statement
  refine Fallible.obeys_bind (Fallible.obeys_lift (Step.obeys_gets _)) fun tx => ?_
  refine Fallible.obeys_bind (queries.logged _) fun _ => ?_
  refine Fallible.obeys_bind (checkPlanCost_obeys queries ctx sql args) fun _ => ?_
  exact Fallible.obeys_bind (queries.executed ctx sql args) fun answer => Step.obeys_pure _

end Statements

theorem queriesObey_untouched (db : Database δ) :
    QueriesObey db (untouched : Law (World δ μ × Tx) Event) where
  logged := log_untouched
  executed ctx _ _ := query_untouched (fun _ => rfl) ctx
  probed ctx _ _ := query_untouched (fun _ => rfl) ctx

/-- **A statement leaves the handle alone**, whatever its text. -/
theorem statement_untouched (read : Answer → Except Error α) (ctx : Context) (sql : String)
    (args : List Arg) : Step.Obeys (statement db read ctx sql args : TxStep δ μ α).run untouched :=
  statement_obeys (queriesObey_untouched db) read ctx sql args

/-- A batch leaves the handle alone. -/
theorem executeBatch_untouched (ctx : Context) (sql : String) :
    Step.Obeys (executeBatch db ctx sql : TxStep δ μ Unit).run untouched := by
  unfold executeBatch
  refine Fallible.obeys_bind current_untouched fun tx => ?_
  refine Fallible.obeys_bind (log_untouched _) fun _ => ?_
  split
  · exact Fallible.obeys_throw _
  · exact Fallible.obeys_bind (query_untouched (fun _ => rfl) ctx) fun _ => Fallible.obeys_pure _

/-! ### Concluding a transaction -/

/-- What comes of **concluding an open handle** by a command: the handle is closed in each case. -/
inductive Conclusion (tx : Tx) (command : Command) :
    Run (World δ μ × Tx) Event (Except Error Unit) → Prop
  /-- The database accepted the command. -/
  | accepted {w reply} (accepted : reply.accepted = true) :
      Conclusion tx command
        ⟨.ok (), (w, { tx with isOpen := false, late := none }), [.executed command reply]⟩
  /-- The database refused the command, and the connection rolled back. -/
  | refused {w reply error undone} (refused : reply.accepted = false)
      (kind : error.isTxDone = false) :
      Conclusion tx command
        ⟨.error error, (w, { tx with isOpen := false, late := none }),
          [.executed command reply, .executed .rollback undone]⟩
  /-- A late failure was read instead of an answer, and the connection rolled back. -/
  | overtaken {w error undone} (kind : error.isTxDone = false) :
      Conclusion tx command
        ⟨.error error, (w, { tx with isOpen := false, late := none }), [.executed .rollback undone]⟩

/-- **An open handle is concluded** in one of three ways. -/
theorem conclude_cases (command : Command) {w : World δ μ} {tx : Tx} (opened : tx.isOpen = true) :
    Conclusion tx command ((conclude db command).run (w, tx)) := by
  rw [conclude_of_open command opened]
  -- A late failure is read instead of the answer; without one, the answer of the database decides.
  cases tx.late with
  | some late => exact .overtaken rfl
  | none =>
      obtain ⟨⟨outcome, delay⟩, after, sent⟩ :
          ∃ reply after, send db command w = ⟨reply, after, [.executed command reply]⟩ :=
        ⟨_, _, rfl⟩
      simp only [conclusion, Step.bind_apply, Step.pure_apply, sent]
      cases outcome with
      | ok answer => exact .accepted rfl
      | error refusal => exact .refused rfl rfl
      | lost cause => exact .refused rfl rfl

section Conclusion

variable {tx : Tx} {command : Command} {run : Run (World δ μ × Tx) Event (Except Error Unit)}

theorem Conclusion.closed (concluded : Conclusion tx command run) :
    run.state.2.isOpen = false := by
  cases concluded <;> rfl

/-- Concluding a transaction commits once at most. -/
theorem Conclusion.commitsIn_le_one (concluded : Conclusion tx command run) :
    commitsIn run.trace ≤ 1 := by
  have single : ∀ event, commitsIn [event] ≤ 1 := fun event => List.countP_le_length
  cases concluded with
  | accepted => exact single _
  | @refused _ reply _ undone =>
      have split := commitsIn_append [.executed command reply] [.executed .rollback undone]
      have rollback : commitsIn [.executed .rollback undone] = 0 := rfl
      have first := single (.executed command reply)
      rw [rollback] at split
      exact split ▸ first
  | overtaken => exact single _

/-- Concluding a transaction sends **its command, or a rollback, or both.** -/
theorem Conclusion.forall_mem {P : Event → Prop} (concluded : Conclusion tx command run)
    (sent : ∀ reply, P (.executed command reply)) (undone : ∀ reply, P (.executed .rollback reply)) :
    ∀ event ∈ run.trace, P event := by
  cases concluded with
  | accepted => exact List.forall_mem_singleton.mpr (sent _)
  | refused =>
      exact List.forall_mem_cons.mpr ⟨sent _, List.forall_mem_singleton.mpr (undone _)⟩
  | overtaken => exact List.forall_mem_singleton.mpr (undone _)

/-- A commit that **succeeds** was accepted by the database. -/
theorem Conclusion.commit_of_ok (concluded : Conclusion tx .commit run) (ok : run.result = .ok ()) :
    commitsIn run.trace = 1 := by
  cases concluded with
  | accepted accepted => simp [commitsIn, Event.isCommitted, accepted]
  | refused => cases ok
  | overtaken => cases ok

/-- A commit that **fails** was not accepted, and the failure is not that of a concluded handle. -/
theorem Conclusion.commit_of_error (concluded : Conclusion tx .commit run) {error : Error}
    (failed : run.result = .error error) :
    commitsIn run.trace = 0 ∧ error.isTxDone = false := by
  cases concluded with
  | accepted => cases failed
  | refused refused kind =>
      cases failed
      exact ⟨by simp [commitsIn, Event.isCommitted, refused], kind⟩
  | overtaken kind =>
      cases failed
      exact ⟨by simp [commitsIn, Event.isCommitted], kind⟩

/-- Rolling an open handle back always sends a rollback. -/
theorem Conclusion.rollback_sent (concluded : Conclusion tx .rollback run) :
    ∃ event ∈ run.trace, event.isRollback = true := by
  cases concluded with
  | accepted => exact ⟨_, .head _, rfl⟩
  | refused => exact ⟨_, .head _, rfl⟩
  | overtaken => exact ⟨_, .head _, rfl⟩

/-- A transaction that is concluded was committed or rolled back. -/
theorem Conclusion.accounted (concluded : Conclusion tx command run)
    (concluding : command = .commit ∨ command = .rollback) :
    ∃ event ∈ run.trace, event.isCommitted = true ∨ event.isRollback = true := by
  cases concluded with
  | accepted accepted =>
      rcases concluding with rfl | rfl
      · exact ⟨_, .head _, .inl accepted⟩
      · exact ⟨_, .head _, .inr rfl⟩
  | refused => exact ⟨_, .tail _ (.head _), .inr rfl⟩
  | overtaken => exact ⟨_, .head _, .inr rfl⟩

end Conclusion

/-- A commit that **succeeds** found its handle open, and the database accepted it. -/
theorem commit_succeeded {p q : World δ μ × Tx} {inside : List Event}
    (answer : (commit db).run p = ⟨.ok (), q, inside⟩) :
    p.2.isOpen = true ∧ commitsIn inside = 1 := by
  obtain ⟨w, tx⟩ := p
  cases opened : tx.isOpen with
  | false =>
      unfold commit at answer
      rw [conclude_of_closed .commit opened] at answer
      cases answer
  | true =>
      have concluded : Conclusion tx .commit ((commit db).run (w, tx)) :=
        conclude_cases .commit opened
      rw [answer] at concluded
      exact ⟨rfl, concluded.commit_of_ok rfl⟩

/-- A commit that **fails** was not accepted, and its failure is that of a concluded handle if and
only if the handle was concluded before. -/
theorem commit_failed {p q : World δ μ × Tx} {inside : List Event} {error : Error}
    (answer : (commit db).run p = ⟨.error error, q, inside⟩) :
    error.isTxDone = !p.2.isOpen ∧ commitsIn inside = 0 := by
  obtain ⟨w, tx⟩ := p
  cases opened : tx.isOpen with
  | false =>
      unfold commit at answer
      rw [conclude_of_closed .commit opened] at answer
      cases answer
      exact ⟨rfl, rfl⟩
  | true =>
      have concluded : Conclusion tx .commit ((commit db).run (w, tx)) :=
        conclude_cases .commit opened
      rw [answer] at concluded
      obtain ⟨unspent, kind⟩ := concluded.commit_of_error rfl
      exact ⟨kind, unspent⟩

/-- A handle that is concluded **pays for the commit** by being closed. -/
theorem conclude_oneCommit (command : Command) :
    Step.Obeys (conclude db command : TxStep δ μ Unit).run oneCommit := by
  rintro ⟨w, tx⟩
  cases opened : tx.isOpen with
  | false =>
      rw [conclude_of_closed command opened]
      exact oneCommit.idle _
  | true =>
      have concluded : Conclusion tx command ((conclude db command).run (w, tx)) :=
        conclude_cases command opened
      have once := concluded.commitsIn_le_one
      show commitsIn _ + _ ≤ tx.isOpen.toNat
      rw [concluded.closed, opened]
      exact once

/-- Concluding a transaction **accounts for its handle.** -/
theorem conclude_accounted {command : Command} (concluding : command = .commit ∨ command = .rollback) :
    Step.Obeys (conclude db command : TxStep δ μ Unit).run accounted := by
  rintro ⟨w, tx⟩ opened _
  exact (conclude_cases command opened).accounted concluding

/-- What concludes a handle leaves events of one kind, if its command and a rollback are of that
kind. -/
theorem conclude_only {P : Event → Prop} {command : Command}
    (sent : ∀ reply, P (.executed command reply)) (undone : ∀ reply, P (.executed .rollback reply)) :
    Step.Obeys (conclude db command : TxStep δ μ Unit).run (.only P) := by
  rintro ⟨w, tx⟩
  cases opened : tx.isOpen with
  | false =>
      rw [conclude_of_closed command opened]
      exact (Law.only _).idle _
  | true => exact (conclude_cases command opened).forall_mem sent undone

/-- A handle that goes out of scope sends **a rollback at most.** -/
theorem release_only_rollback {P : Event → Prop} (undone : ∀ reply, P (.executed .rollback reply)) :
    (release db : Step (World δ μ × Tx) Event Unit).Obeys (.only P) := by
  rintro ⟨w, tx⟩
  cases opened : tx.isOpen with
  | false =>
      rw [release_of_closed opened]
      exact (Law.only _).idle _
  | true =>
      rw [release_of_open opened]
      exact List.forall_mem_singleton.mpr (undone _)

/-- So it sends no commit. -/
theorem release_only :
    (release db : Step (World δ μ × Tx) Event Unit).Obeys
      (.only fun event => event.isCommit = false) :=
  release_only_rollback fun _ => rfl

/-- A handle that **goes out of scope while open** is rolled back. -/
theorem release_sends_rollback (db : Database δ) {p : World δ μ × Tx} (opened : p.2.isOpen = true) :
    ∃ event ∈ (release db p).trace, event.isRollback = true := by
  obtain ⟨w, tx⟩ := p
  rw [release_of_open opened]
  exact ⟨_, .head _, rfl⟩

end Tx

/-! ### Programs -/

/-- The **statement behind an operation**, with its context and its arguments, if there is one. -/
def Operation.statement? : Operation μ → Option (Context × String × List Arg)
  | .execute ctx sql args => some (ctx, sql, args)
  | .fetchAll ctx sql args => some (ctx, sql, args)
  | .fetchOne ctx sql args => some (ctx, sql, args)
  | .fetchOptional ctx sql args => some (ctx, sql, args)
  | .fetchAllAs _ ctx sql args => some (ctx, sql, args)
  | .fetchOneAs _ ctx sql args => some (ctx, sql, args)
  | .fetchOptionalAs _ ctx sql args => some (ctx, sql, args)
  | _ => none

/-- What holds of a statement **whatever is read off its answer** holds of every operation with that
statement. -/
theorem Operation.perform_of_statement {db : Database δ} {operation : Operation μ} {ctx : Context}
    {sql : String} {args : List Arg} (behind : operation.statement? = some (ctx, sql, args))
    {P : {ρ : Type} → Step (World δ μ × Tx) Event ρ → Prop}
    (statement : ∀ {ρ : Type} (read : Answer → Except Error ρ),
      P (Tx.statement db read ctx sql args).run) :
    P (operation.perform db) := by
  cases operation with
  | execute | fetchAll | fetchOne | fetchOptional =>
      cases behind
      exact statement _
  | fetchAllAs decode =>
      cases behind
      show P (Tx.fetchAllAs db decode ctx sql args).run
      rw [Tx.fetchAllAs_eq]
      exact statement _
  | fetchOneAs decode =>
      cases behind
      show P (Tx.fetchOneAs db decode ctx sql args).run
      rw [Tx.fetchOneAs_eq]
      exact statement _
  | fetchOptionalAs decode =>
      cases behind
      show P (Tx.fetchOptionalAs db decode ctx sql args).run
      rw [Tx.fetchOptionalAs_eq]
      exact statement _
  | _ => cases behind

/-- An operation that concludes the transaction. -/
def Operation.concludes : Operation μ → Bool
  | .commit => true
  | .rollback => true
  | _ => false

theorem Operation.perform_untouched {operation : Operation μ} (keeps : operation.concludes = false)
    (db : Database δ) : (operation.perform db).Obeys untouched := by
  cases operation with
  | commit | rollback => cases keeps
  | isDone | config | now | memory => exact untouched.idle
  | wait d => exact fun _ => ⟨rfl, by simp [perform]⟩
  | remember memory => exact fun _ => ⟨rfl, by simp [perform]⟩
  | _ =>
      refine perform_of_statement (P := fun x => x.Obeys untouched) rfl fun read => ?_
      exact Tx.statement_untouched read _ _ _

section Laws

variable {db : Database δ} {law : Law (World δ μ × Tx) Event}

/-- A law that holds wherever the handle is left alone, and of concluding it, holds of every
operation. -/
theorem Operation.perform_obeys
    (quiet : ∀ {p events q}, untouched.Holds p events q → law.Holds p events q)
    (commit : Step.Obeys (Tx.commit db).run law) (rollback : Step.Obeys (Tx.rollback db).run law)
    (operation : Operation μ) : (operation.perform db).Obeys law := by
  cases concludes : operation.concludes with
  | false => exact fun p => quiet (perform_untouched concludes db p)
  | true =>
      cases operation with
      | commit => exact commit
      | rollback => exact rollback
      | _ => cases concludes

/-- A law that holds of the parts of statements, of concluding the handle, and wherever nothing
happens and the handle stays as open as it was, holds of every operation. -/
theorem Operation.perform_obeys_of_queries (queries : Tx.QueriesObey db law)
    (commit : Step.Obeys (Tx.commit db).run law) (rollback : Step.Obeys (Tx.rollback db).run law)
    (still : ∀ p q, q.2.isOpen = p.2.isOpen → law.Holds p [] q) (operation : Operation μ) :
    (operation.perform db).Obeys law := by
  cases operation with
  | commit => exact commit
  | rollback => exact rollback
  | isDone | config | now | wait | memory | remember => exact fun p => still p _ rfl
  | _ =>
      refine perform_of_statement (P := fun x => x.Obeys law) rfl fun read => ?_
      exact Tx.statement_obeys queries read _ _ _

/-- A law that holds of every operation **holds of every program.** -/
theorem Program.run_obeys_of_operations
    (operations : ∀ operation : Operation μ, (operation.perform db).Obeys law)
    (program : Program μ α) : Step.Obeys (program.run db) law := by
  induction program with
  | finish ending => exact Action.obeys_ended ending
  | step operation next ih => exact Step.obeys_bind (operations operation) ih

/-- So does a law that holds wherever the handle is left alone, and of concluding it. -/
theorem Program.run_obeys
    (quiet : ∀ {p events q}, untouched.Holds p events q → law.Holds p events q)
    (commit : Step.Obeys (Tx.commit db).run law) (rollback : Step.Obeys (Tx.rollback db).run law)
    (program : Program μ α) : Step.Obeys (program.run db) law :=
  program.run_obeys_of_operations fun operation => operation.perform_obeys quiet commit rollback

end Laws

namespace Program

/-- **Whatever a program does, its handle is good for one commit.** -/
theorem run_oneCommit (db : Database δ) (program : Program μ α) :
    Step.Obeys (program.run db) oneCommit :=
  program.run_obeys oneCommit_of_untouched (Tx.conclude_oneCommit _) (Tx.conclude_oneCommit _)

theorem run_accounted (db : Database δ) (program : Program μ α) :
    Step.Obeys (program.run db) accounted :=
  program.run_obeys accounted_of_untouched (Tx.conclude_accounted (.inl rfl))
    (Tx.conclude_accounted (.inr rfl))

/-- Whether a program, run from `p`, **commits or rolls back its handle itself.** -/
def concludes (db : Database δ) : Program μ α → World δ μ × Tx → Bool
  | .finish _, _ => false
  | .step operation next, p =>
    operation.concludes ||
      (next (operation.perform db p).result).concludes db (operation.perform db p).state

/-- A program that does not conclude its handle **leaves it alone.** -/
theorem run_untouched {db : Database δ} {program : Program μ α} {p : World δ μ × Tx}
    (keeps : program.concludes db p = false) :
    untouched.Holds p (program.run db p).trace (program.run db p).state := by
  -- The induction follows the run: the reply to each operation selects the program that is left.
  induction program generalizing p with
  | finish ending => exact untouched.idle p
  | step operation next ih =>
      rw [concludes, Bool.or_eq_false_iff] at keeps
      have first := Operation.perform_untouched keeps.1 db p
      exact untouched.append first (ih _ keeps.2)

end Program

end TxRetry.Postgres
