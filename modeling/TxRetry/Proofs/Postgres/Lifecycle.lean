import TxRetry.Proofs.Postgres.PlanGate

/-!
# The life of a handle

A handle is good for one attempt to conclude its transaction.  That attempt ends its life, whether it
succeeds or fails, and nothing else does; from then on the handle turns everything away and sends
nothing.

## Main definitions

* `Operation.needsOpen` — the operations that need an open transaction
* `Operation.explicit` — what an operation sends explicitly to conclude the transaction
* `TurnedAway` — what comes of an operation on a handle that is done
* `OneLife` — what is expected of the operations on a handle from its beginning on

## Main statements

* `Operation.isDone_perform` — concluding the transaction makes the handle done, and nothing else does
* `Program.isDone_of_performed` — so a handle is done from the first conclusion on
* `Program.explicit_length_le` — nothing more than one command is ever sent explicitly to conclude a
  transaction
* `oneLife` — every program on a new handle is as expected

## Design notes

**Not every rollback is explicit.**  A conclusion that fails leaves the transaction to the connection,
which rolls it back by itself.  That rollback follows the explicit command, or takes its place where a
late failure was read instead of sending it.
-/

namespace TxRetry.Postgres

variable {δ μ α : Type} {db : Database δ}

/-! ### One operation -/

namespace Operation

/-- Whether an operation **needs an open transaction**: a statement does, and so does a conclusion. -/
def needsOpen (operation : Operation μ) : Bool :=
  operation.statement?.isSome || operation.concludes

/-- The command by which an operation concludes the transaction, if it does. -/
def conclusion? : Operation μ → Option Command
  | .commit => some .commit
  | .rollback => some .rollback
  | _ => none

/-- What an operation sends **explicitly to conclude the transaction**: its command, unless a late
failure is read instead. -/
def explicit (db : Database δ) (operation : Operation μ) (p : World δ μ × Tx) : List Event :=
  match operation.conclusion? with
  | some command => if p.2.isOpen then (Tx.conclusion db command p.2.late p.1).trace else []
  | none => []

theorem exists_conclusion_of_concludes (db : Database δ) {operation : Operation μ}
    (concludes : operation.concludes = true) :
    ∃ command, operation.conclusion? = some command ∧
      ∀ p : World δ μ × Tx, operation.outcome db p = Tx.outcome ((Tx.conclude db command).run p) := by
  cases operation with
  | commit => exact ⟨.commit, rfl, fun _ => rfl⟩
  | rollback => exact ⟨.rollback, rfl, fun _ => rfl⟩
  | _ => cases concludes

theorem conclusion?_of_not_concludes {operation : Operation μ}
    (keeps : operation.concludes = false) : operation.conclusion? = none := by
  cases operation with
  | commit | rollback => cases keeps
  | _ => rfl

theorem explicit_of_closed (operation : Operation μ) {p : World δ μ × Tx}
    (closed : p.2.isOpen = false) : operation.explicit db p = [] := by
  unfold explicit
  split
  · simp [closed]
  · rfl

end Operation

/-- At most one command is sent explicitly, and it is the one that was asked for. -/
theorem Tx.conclusion_trace (db : Database δ) (command : Command) (late? : Option LateFailure)
    (w : World δ μ) :
    (conclusion db command late? w).trace = [] ∨
      ∃ reply, (conclusion db command late? w).trace = [.executed command reply] := by
  cases late? with
  | some late => exact .inl rfl
  | none => exact .inr ⟨w.replyTo db command, rfl⟩

/-- **A conclusion of an open handle** sends what is explicit, and after a failure the rollback of the
connection follows. -/
theorem Tx.conclude_trace_of_open (db : Database δ) (command : Command) (w : World δ μ) {tx : Tx}
    (opened : tx.isOpen = true) :
    ∃ own, ((conclude db command).run (w, tx)).trace =
        (conclusion db command tx.late w).trace ++ own ∧
      (((conclude db command).run (w, tx)).result = .ok () → own = []) ∧
      ∀ error, ((conclude db command).run (w, tx)).result = .error error →
        ∃ reply, own = [.executed .rollback reply] := by
  rw [conclude_of_open command opened]
  dsimp only
  cases (conclusion db command tx.late w).result with
  | ok answer => exact ⟨[], (List.append_nil _).symm, fun _ => rfl, nofun⟩
  | error error => exact ⟨_, rfl, nofun, fun _ _ => ⟨_, rfl⟩⟩

/-- Where nothing is sent, nothing is sent that concludes a transaction. -/
theorem concludes_eq_false_of_silent {events : List Event} (silent : commandsIn events = []) :
    ∀ event ∈ events, event.concludes = false := by
  intro event among
  have unsent : event.command? = none := List.filterMap_eq_nil_iff.mp silent event among
  cases event with
  | executed | probed => cases unsent
  | logged record => rfl

/-- What comes of an operation on a handle **that is done**: it fails as such, changes nothing and
sends nothing, for the check of plan costs neither. -/
structure TurnedAway (db : Database δ) (operation : Operation μ) (p : World δ μ × Tx) : Prop where
  failed : (operation.outcome db p).result = some .txDone
  unchanged : (operation.outcome db p).state = p
  silent : commandsIn (operation.outcome db p).trace = []

/-- The commands of **one conclusion**: the explicit one, and the connection's own rollback after a
failure. -/
structure ConcludedOnce (db : Database δ) (operation : Operation μ) (p : World δ μ × Tx)
    (own : List Event) : Prop where
  trace_eq : (operation.outcome db p).trace = operation.explicit db p ++ own
  explicit_cases : operation.explicit db p = [] ∨
    ∃ command reply, operation.conclusion? = some command ∧
      operation.explicit db p = [.executed command reply]
  succeeded : (operation.outcome db p).result = none → own = []
  failed : ∀ error, (operation.outcome db p).result = some error →
    ∃ reply, own = [.executed .rollback reply]

namespace Operation

theorem turnedAway_of_outcome {operation : Operation μ} {p : World δ μ × Tx} {events : List Event}
    (outcome : operation.outcome db p = ⟨some .txDone, p, events⟩) (silent : commandsIn events = []) :
    TurnedAway db operation p := by
  refine ⟨?_, ?_, ?_⟩
  all_goals rw [outcome]
  exact silent

/-- A statement on a handle that is done is turned away, whether or not a budget applies. -/
theorem turnedAway_of_statement {operation : Operation μ} {p : World δ μ × Tx}
    (done : p.2.isDone = true) {ctx : Context} {sql : String} {args : List Arg}
    (behind : operation.statement? = some (ctx, sql, args)) : TurnedAway db operation p := by
  obtain ⟨w, tx⟩ := p
  have closed : tx.isOpen = false := by simpa [Tx.isDone] using done
  obtain ⟨_, read, same⟩ := outcome_of_statement behind (w, tx)
  rw [Tx.statement_of_unsent read fun event command => Tx.query_of_closed event ctx command closed]
    at same
  exact turnedAway_of_outcome same rfl

/-- Whatever **needs an open transaction** is turned away by a handle that is done. -/
theorem turnedAway_of_done {operation : Operation μ} (needs : operation.needsOpen = true)
    {p : World δ μ × Tx} (done : p.2.isDone = true) : TurnedAway db operation p := by
  rcases Bool.or_eq_true_iff.mp needs with statement | concludes
  · obtain ⟨⟨ctx, sql, args⟩, behind⟩ := Option.isSome_iff_exists.mp statement
    exact turnedAway_of_statement done behind
  · obtain ⟨w, tx⟩ := p
    have closed : tx.isOpen = false := by simpa [Tx.isDone] using done
    obtain ⟨command, -, same⟩ := exists_conclusion_of_concludes db concludes
    have concluded := same (w, tx)
    rw [Tx.conclude_of_closed command closed] at concluded
    exact turnedAway_of_outcome concluded rfl

/-- **A conclusion makes a handle done**, whether it succeeds or fails, and nothing else does. -/
theorem isDone_perform (db : Database δ) (operation : Operation μ) (p : World δ μ × Tx) :
    (operation.perform db p).state.2.isDone = (p.2.isDone || operation.concludes) := by
  cases concludes : operation.concludes with
  | false =>
      have untouched : (operation.perform db p).state.2.isOpen = p.2.isOpen :=
        (perform_untouched concludes db p).1
      rw [Tx.isDone, untouched, Bool.or_false]
      rfl
  | true =>
      obtain ⟨w, tx⟩ := p
      obtain ⟨command, -, same⟩ := exists_conclusion_of_concludes db concludes
      have after : (operation.perform db (w, tx)).state =
          ((Tx.conclude db command).run (w, tx)).state := congrArg Run.state (same (w, tx))
      have closed : ((Tx.conclude db command).run (w, tx)).state.2.isOpen = false := by
        cases opened : tx.isOpen with
        | false => rw [Tx.conclude_of_closed command opened, opened]
        | true => exact (Tx.conclude_cases command opened).closed
      rw [Tx.isDone, after, closed, Bool.or_true]
      rfl

/-- A conclusion of an open handle is one explicit command at most, with a rollback after a failure. -/
theorem exists_concludedOnce (db : Database δ) {operation : Operation μ}
    (concludes : operation.concludes = true) {p : World δ μ × Tx} (opened : p.2.isOpen = true) :
    ∃ own, ConcludedOnce db operation p own := by
  obtain ⟨w, tx⟩ := p
  obtain ⟨command, asked, same⟩ := exists_conclusion_of_concludes db concludes
  obtain ⟨own, trace, succeeded, failed⟩ :=
    Tx.conclude_trace_of_open db command w opened
  have explicit : operation.explicit db (w, tx) = (Tx.conclusion db command tx.late w).trace := by
    rw [Operation.explicit, asked]
    exact if_pos opened
  refine ⟨own, ?_, ?_, ?_, ?_⟩
  · rw [explicit, same, ← trace]
    rfl
  · rw [explicit]
    rcases Tx.conclusion_trace db command tx.late w with overtaken | ⟨reply, sent⟩
    · exact .inl overtaken
    · exact .inr ⟨command, reply, asked, sent⟩
  · intro ok
    rw [same] at ok
    refine succeeded ?_
    cases answered : ((Tx.conclude db command).run (w, tx)).result with
    | ok => rfl
    | error error => simp [Tx.outcome, failureOf, answered] at ok
  · intro error wrong
    rw [same] at wrong
    exact failed error (failureOf_eq_some_iff.mp wrong)

/-- An operation sends nothing that concludes a transaction, **unless it concludes an open one.** -/
theorem quiet_or_concludedOnce (operation : Operation μ) (p : World δ μ × Tx) :
    (∀ event ∈ (operation.outcome db p).trace, event.concludes = false) ∨
      operation.concludes = true ∧ p.2.isOpen = true ∧ ∃ own, ConcludedOnce db operation p own := by
  cases concludes : operation.concludes with
  | false => exact .inl (perform_untouched concludes db p).2
  | true =>
      cases opened : p.2.isOpen with
      | true => exact .inr ⟨rfl, rfl, exists_concludedOnce db concludes opened⟩
      | false =>
          have done : p.2.isDone = true := by simp [Tx.isDone, opened]
          have needs : operation.needsOpen = true := Bool.or_eq_true_iff.mpr (.inr concludes)
          exact .inl (concludes_eq_false_of_silent (turnedAway_of_done needs done).silent)

/-- What is sent explicitly **is paid for by closing the handle.** -/
theorem explicit_length_le (db : Database δ) (operation : Operation μ) (p : World δ μ × Tx) :
    (operation.explicit db p).length + (operation.perform db p).state.2.isOpen.toNat ≤
      p.2.isOpen.toNat := by
  have after := operation.isDone_perform db p
  simp only [Tx.isDone] at after
  cases opened : p.2.isOpen with
  | false =>
      rw [opened] at after
      have closed : (operation.perform db p).state.2.isOpen = false := by simpa using after
      simp [operation.explicit_of_closed opened, closed]
  | true =>
      cases concludes : operation.concludes with
      | false =>
          rw [explicit, conclusion?_of_not_concludes concludes]
          cases (operation.perform db p).state.2.isOpen <;> simp
      | true =>
          rw [concludes, Bool.or_true] at after
          have closed : (operation.perform db p).state.2.isOpen = false := by simpa using after
          obtain ⟨own, once⟩ := exists_concludedOnce db concludes opened
          rw [closed]
          rcases once.explicit_cases with overtaken | ⟨command, reply, -, sent⟩
          · simp [overtaken]
          · simp [sent]

end Operation

/-! ### All operations of a program -/

/-- Whether an operation that was performed concludes the transaction. -/
def Deed.concludes (deed : Deed δ μ) : Bool := deed.operation.concludes

/-- What an operation that was performed **sent explicitly to conclude the transaction.** -/
def Deed.explicit (db : Database δ) (deed : Deed δ μ) : List Event :=
  deed.operation.explicit db deed.state

namespace Program

/-- Before each of its operations, a handle is done **if and only if an earlier one concluded it.**
The induction follows the program; what is done before the place is split off at its head. -/
theorem isDone_of_performed (program : Program μ α) {p : World δ μ × Tx}
    {before after : List (Deed δ μ)} {deed : Deed δ μ}
    (split : program.performed db p = before ++ deed :: after) :
    deed.state.2.isDone = (p.2.isDone || before.any Deed.concludes) := by
  induction program generalizing p before with
  | finish ending => simp [performed] at split
  | step operation next ih =>
      cases before with
      | nil =>
          obtain ⟨rfl, -⟩ := List.cons.inj split
          simp
      | cons first before =>
          obtain ⟨rfl, later⟩ := List.cons.inj split
          rw [ih _ later, operation.isDone_perform db p, List.any_cons, Bool.or_assoc]
          rfl

/-- So it is **at the end of the program.** -/
theorem isDone_run (program : Program μ α) (p : World δ μ × Tx) :
    (program.run db p).state.2.isDone =
      (p.2.isDone || (program.performed db p).any Deed.concludes) := by
  induction program generalizing p with
  | finish ending => exact (Bool.or_false _).symm
  | step operation next ih =>
      show ((next (operation.perform db p).result).run db
        (operation.perform db p).state).state.2.isDone = _
      rw [ih, operation.isDone_perform db p, performed, List.any_cons, Bool.or_assoc]
      rfl

/-- **No more is sent explicitly to conclude a transaction** than its handle is good for. -/
theorem explicit_length_le (program : Program μ α) (p : World δ μ × Tx) :
    ((program.performed db p).flatMap (Deed.explicit db)).length ≤ p.2.isOpen.toNat := by
  induction program generalizing p with
  | finish ending => exact Nat.zero_le _
  | step operation next ih =>
      have first := operation.explicit_length_le db p
      have rest := ih (operation.perform db p).result (operation.perform db p).state
      rw [performed, List.flatMap_cons, List.length_append]
      exact Nat.le_trans (Nat.add_le_add_left rest _) first

end Program

/-- What is expected of **the operations on a handle**, from its beginning on. -/
structure OneLife (db : Database δ) (program : Program μ α) (p : World δ μ × Tx) : Prop where
  /-- The program does nothing but perform its operations. -/
  performs : (program.run db p).trace =
    (program.performed db p).flatMap fun deed => (deed.operation.outcome db deed.state).trace
  /-- A conclusion makes the handle done, whether it succeeds or fails, and nothing else changes
  whether it is done. -/
  changed : ∀ deed ∈ program.performed db p, (deed.operation.perform db deed.state).state.2.isDone =
    (deed.state.2.isDone || deed.operation.concludes)
  /-- So the handle is done exactly from the first conclusion on, -/
  done_iff : ∀ before deed after, program.performed db p = before ++ deed :: after →
    (deed.state.2.isDone = true ↔ ∃ earlier ∈ before, earlier.operation.concludes = true)
  /-- up to the end of the program. -/
  done_at_end_iff : (program.run db p).state.2.isDone = true ↔
    ∃ deed ∈ program.performed db p, deed.operation.concludes = true
  /-- After the first conclusion every statement and every other conclusion is turned away. -/
  spent : ∀ before deed after, program.performed db p = before ++ deed :: after →
    (∃ earlier ∈ before, earlier.operation.concludes = true) → deed.operation.needsOpen = true →
      TurnedAway db deed.operation deed.state
  /-- So they are by every handle that is done, by whatever program it was concluded. -/
  away : ∀ (operation : Operation μ) (q : World δ μ × Tx), operation.needsOpen = true →
    q.2.isDone = true → TurnedAway db operation q
  /-- The fetches whose rows are decoded are among the statements: apart from the decoding, each is the
  fetch of the rows. -/
  typed : ∀ ctx sql args (q : World δ μ × Tx), DecodesRows db ctx sql args q
  /-- Whatever concludes a transaction is sent by the first conclusion: its explicit command, and the
  rollback by which the connection follows a failure. -/
  concluded : ∀ deed ∈ program.performed db p,
    (∀ event ∈ (deed.operation.outcome db deed.state).trace, event.concludes = false) ∨
      deed.operation.concludes = true ∧ deed.state.2.isOpen = true ∧
        ∃ own, ConcludedOnce db deed.operation deed.state own
  /-- In all, one command at most is sent explicitly. -/
  once : ((program.performed db p).flatMap (Deed.explicit db)).length ≤ 1
  /-- A commit by a driver leaves a handle that is done alone, whatever the hook before the commit. -/
  commit : ∀ (connector : Connector μ) ctx (q : World δ μ × Tx), q.2.isDone = true →
    connector.commit db ctx q = ⟨.failed .txDone, q, []⟩

/-- **A handle has one life**, whatever is done with it, under whatever contexts and budget, and
whatever the database answers. -/
theorem oneLife (db : Database δ) (config : StatementConfig) (late : Option LateFailure)
    (w : World δ μ) (program : Program μ α) :
    OneLife db program (w, ({ config, late } : Tx)) := by
  have fresh : ({ config, late } : Tx).isDone = false := rfl
  have done_iff : ∀ before deed after,
      program.performed db (w, ({ config, late } : Tx)) = before ++ deed :: after →
        (deed.state.2.isDone = true ↔ ∃ earlier ∈ before, earlier.operation.concludes = true) := by
    intro before deed after split
    rw [program.isDone_of_performed split, fresh, Bool.false_or, List.any_eq_true]
    rfl
  refine ⟨program.run_trace_eq _, ?_, done_iff, ?_, ?_, ?_, ?_, ?_, ?_, ?_⟩
  · intro deed _
    exact deed.operation.isDone_perform db deed.state
  · rw [program.isDone_run, fresh, Bool.false_or, List.any_eq_true]
    rfl
  · intro before deed after split earlier needs
    exact Operation.turnedAway_of_done needs ((done_iff before deed after split).mpr earlier)
  · intro operation q needs done
    exact Operation.turnedAway_of_done needs done
  · intro ctx sql args q
    exact decodesRows db ctx sql args q
  · intro deed _
    exact deed.operation.quiet_or_concludedOnce deed.state
  · exact program.explicit_length_le _
  · intro connector ctx q done
    exact connector.commit_of_closed (by simpa [Tx.isDone] using done)

end TxRetry.Postgres
