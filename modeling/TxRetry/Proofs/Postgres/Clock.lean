import TxRetry.Proofs.Call.Law
import TxRetry.Proofs.Postgres.Connector
import TxRetry.Proofs.Postgres.Statement

/-!
# The clock goes forward

Time passes while a command is answered and while a program waits, and at no other time.  So the
clock never goes back, whatever happens to a handle, and a deadline that has come stays behind.

## Main definitions

* `forward` — the law that the clock does not go back

## Main statements

* `isDue_of_le` — a deadline that has come is still past later on
* `Program.run_forward`, `Connector.driverObeys_forward` — the clock goes forward through every
  program and through every call of the driver on an open handle
-/

namespace TxRetry

namespace Instant

theorem le_refl (t : Instant) : t ≤ t := Nat.le_refl _

theorem le_trans {a b c : Instant} (first : a ≤ b) (second : b ≤ c) : a ≤ c :=
  Nat.le_trans first second

theorem le_after (t : Instant) (d : Duration) : t ≤ t.after d := Nat.le_add_right _ _

end Instant

namespace Postgres

variable {δ μ α : Type} {db : Database δ} {deadline : Option Instant}

/-- **A deadline that has come is still past later on.** -/
theorem isDue_of_le {early late : Instant} (due : isDue deadline early = true)
    (later : early ≤ late) : isDue deadline late = true := by
  cases deadline with
  | none => cases due
  | some t =>
      have reached : t ≤ early := of_decide_eq_true due
      exact decide_eq_true (Instant.le_trans reached later)

theorem World.clock_le_afterSending (w : World δ μ) (db : Database δ) (command : Command) :
    w.clock ≤ (w.afterSending db command).clock :=
  w.clock.le_after _

/-- The law that **the clock does not go back.** -/
def forward : Law (World δ μ × Tx) Event where
  Holds p _ q := p.1.clock ≤ q.1.clock
  idle p := p.1.clock.le_refl
  append := Instant.le_trans

namespace Tx

theorem onWorld_send_forward (command : Command) :
    (Step.onWorld (send db command) : Step (World δ μ × Tx) Event Reply).Obeys forward :=
  fun (w, _) => w.clock_le_afterSending db command

theorem query_forward (event : Command → Reply → Event) (ctx : Context) (command : Command) :
    Step.Obeys (query event db ctx command : TxStep δ μ Answer).run forward := by
  rintro ⟨w, tx⟩
  have queried := queried_query event db ctx command w tx
  generalize (query event db ctx command).run (w, tx) = run at queried ⊢
  cases queried with
  | concluded | overdue | overtaken => exact w.clock.le_refl
  | answered | late => exact w.clock_le_afterSending db command

theorem log_forward (record : LogRecord) :
    Step.Obeys (log record : TxStep δ μ Unit).run forward := by
  intro p
  rw [log_run]
  exact p.1.clock.le_refl

theorem queriesObey_forward (db : Database δ) :
    QueriesObey db (forward : Law (World δ μ × Tx) Event) where
  logged := log_forward
  executed ctx _ _ := query_forward _ ctx _
  probed ctx _ _ := query_forward _ ctx _

theorem executeBatch_forward (ctx : Context) (sql : String) :
    Step.Obeys (executeBatch db ctx sql : TxStep δ μ Unit).run forward := by
  unfold executeBatch
  refine Fallible.obeys_bind (Fallible.obeys_lift (Step.obeys_gets _)) fun tx => ?_
  refine Fallible.obeys_bind (log_forward _) fun _ => ?_
  split
  · exact Fallible.obeys_throw _
  · exact Fallible.obeys_bind (query_forward _ ctx _) fun _ => Fallible.obeys_pure _

theorem conclude_forward (command : Command) :
    Step.Obeys (conclude db command : TxStep δ μ Unit).run forward := by
  unfold conclude
  refine Fallible.obeys_bind (Fallible.obeys_lift (Step.obeys_gets _)) fun tx => ?_
  split
  · refine Fallible.obeys_bind (Fallible.obeys_lift fun p => p.1.clock.le_refl) fun _ => ?_
    refine Fallible.obeys_bind (Fallible.obeys_lift ?_) fun answer => ?_
    · cases tx.late with
      | some late => exact fun p => p.1.clock.le_refl
      | none => exact fun (w, _) => w.clock_le_afterSending db command
    · cases answer with
      | ok => exact Fallible.obeys_pure _
      | error =>
          refine Fallible.obeys_bind (Fallible.obeys_lift (onWorld_send_forward _)) fun _ => ?_
          exact Fallible.obeys_throw _
  · exact Fallible.obeys_throw _

theorem release_forward : (release db : Step (World δ μ × Tx) Event Unit).Obeys forward := by
  rintro ⟨w, tx⟩
  cases opened : tx.isOpen with
  | false =>
      rw [release_of_closed opened]
      exact w.clock.le_refl
  | true =>
      rw [release_of_open opened]
      exact w.clock_le_afterSending db .rollback

end Tx

theorem Operation.perform_forward (operation : Operation μ) :
    (operation.perform db).Obeys forward := by
  cases operation with
  | commit => exact Tx.conclude_forward .commit
  | rollback => exact Tx.conclude_forward .rollback
  | wait d => exact fun p => p.1.clock.le_after d
  | isDone | config | now | memory | remember => exact fun p => p.1.clock.le_refl
  | _ =>
      refine perform_of_statement (P := fun x => x.Obeys forward) rfl fun read => ?_
      exact Tx.statement_obeys (Tx.queriesObey_forward db) read _ _ _

/-- **The clock goes forward through every program.** -/
theorem Program.run_forward (program : Program μ α) : Step.Obeys (program.run db) forward :=
  program.run_obeys_of_operations Operation.perform_forward

/-- **The clock goes forward through every call of the driver** on an open handle. -/
theorem Connector.driverObeys_forward (connector : Connector μ) (db : Database δ) :
    DriverObeys (connector.driver db) forward Event.logged where
  commit _ := Connector.commit_obeys_of_programs Program.run_forward (Tx.conclude_forward .commit)
  rollback _ := Action.obeys_ofFallible (Tx.conclude_forward .rollback)
  release := Tx.release_forward
  reported _ _ p := p.1.clock.le_refl

end Postgres

end TxRetry
