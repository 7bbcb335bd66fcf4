import TxRetry.Proofs.Call.Law
import TxRetry.Proofs.Postgres.Opening

/-!
# No call leaves a transaction open

All transactions go through the one connection of the pool, so a transaction that is left open
would swallow the next one.  Whatever bodies, hooks and the database do, a transaction that was begun
is concluded before the next one is begun: by a commit that the database accepts, or by a rollback.
Nothing is sent outside of transactions, and every call finds and leaves the connection idle.

## Main definitions

* `Concludes` — the commands that conclude a transaction
* `Brackets` — transactions one after the other, each begun, used and concluded
* `isOpenAfter` — whether a transaction is open on the connection
* `Usage` — what is sent on a handle between two of its states
* `Connector.Calls` — any number of calls, one after the other
* `NeverLeftOpen` — what is expected of the commands of such calls

## Main statements

* `usage_conclude`, `Program.run_usage`, `Connector.commit_usage` — how handles are used
* `Connector.brackets_attempt` — an attempt is one bracket at most
* `Connector.neverLeftOpen` — no sequence of calls leaves a transaction open

## Design notes

**A refused conclusion is not the last word.**  A commit or a rollback that the database refuses is
followed by a rollback, so that a transaction may see two concluding commands; the second one is its
conclusion.  What the database answers to that is not looked at.
-/

namespace TxRetry

namespace Postgres

/-! ### Transactions as brackets -/

/-- Whether a command is part of **the work of a transaction**, and neither begins nor concludes
one. -/
def Command.isWork : Command → Bool
  | .batch _ => true
  | .statement _ _ => true
  | _ => false

/-- The commands that **conclude a transaction**: a commit that the database accepts, or a rollback.
A commit or a rollback that the database refuses is followed by a rollback. -/
inductive Concludes : List (Command × Reply) → Prop
  | committed {reply} (accepted : reply.accepted = true) : Concludes [(.commit, reply)]
  | rolledBack (reply) : Concludes [(.rollback, reply)]
  | refused {command reply} (undone) (concluding : command = .commit ∨ command = .rollback)
      (refused : reply.accepted = false) : Concludes [(command, reply), (.rollback, undone)]

/-- **Transactions one after the other**: each is begun, used and concluded before the next one is
begun, and nothing is sent outside of them.  What the database refuses to begin is no transaction. -/
inductive Brackets : List (Command × Reply) → Prop
  | nil : Brackets []
  | unbegun {reply later} (refused : reply.accepted = false) (rest : Brackets later) :
      Brackets ((.begin, reply) :: later)
  | transaction {reply work conclusion later} (begun : reply.accepted = true)
      (working : ∀ sent ∈ work, sent.1.isWork = true) (concluded : Concludes conclusion)
      (rest : Brackets later) : Brackets ((.begin, reply) :: (work ++ conclusion ++ later))

namespace Brackets

variable {first second commands before after : List (Command × Reply)} {reply : Reply}

theorem append (early : Brackets first) (late : Brackets second) : Brackets (first ++ second) := by
  induction early with
  | nil => exact late
  | unbegun refused _ ih => exact .unbegun refused ih
  | transaction begun working concluded _ ih =>
      rw [List.cons_append, List.append_assoc]
      exact .transaction begun working concluded ih

/-- No transaction is begun by what is done with one. -/
theorem unbegun_of_mem {work conclusion : List (Command × Reply)}
    (working : ∀ sent ∈ work, sent.1.isWork = true) (concluded : Concludes conclusion)
    {sent : Command × Reply} (among : sent ∈ work ++ conclusion) : sent.1 ≠ .begin := by
  intro begins
  rcases List.mem_append.mp among with early | late
  · have isWork := working sent early
    rw [begins] at isWork
    cases isWork
  · cases concluded with
    | committed =>
        obtain rfl := List.mem_singleton.mp late
        cases begins
    | rolledBack =>
        obtain rfl := List.mem_singleton.mp late
        cases begins
    | refused undone concluding =>
        rcases List.mem_cons.mp late with rfl | last
        · rcases concluding with rfl | rfl <;> cases begins
        · obtain rfl := List.mem_singleton.mp last
          cases begins

/-- Wherever a transaction is begun, **a bracket starts**, and those before it are complete. -/
theorem split_at_begin (brackets : Brackets commands)
    (split : commands = before ++ (.begin, reply) :: after) :
    Brackets before ∧ Brackets ((.begin, reply) :: after) := by
  induction brackets generalizing before with
  | nil => simp at split
  | @unbegun reply' later refused rest ih =>
      cases before with
      | nil =>
          cases split
          exact ⟨.nil, .unbegun refused rest⟩
      | cons sent before =>
          obtain ⟨rfl, further⟩ := List.cons.inj split
          obtain ⟨complete, started⟩ := ih further
          exact ⟨.unbegun refused complete, started⟩
  | @transaction reply' work conclusion later begun working concluded rest ih =>
      cases before with
      | nil =>
          cases split
          exact ⟨.nil, .transaction begun working concluded rest⟩
      | cons sent before =>
          obtain ⟨rfl, further⟩ := List.cons.inj split
          -- The next beginning lies after the conclusion, because there is none before it.
          rcases List.append_eq_append_iff.mp further with ⟨between, rfl, inLater⟩ | ⟨tail, whole, inside⟩
          · obtain ⟨complete, started⟩ := ih inLater
            exact ⟨.transaction begun working concluded complete, started⟩
          · cases tail with
            | nil =>
                rw [List.nil_append] at inside
                rw [List.append_nil] at whole
                subst inside
                subst whole
                refine ⟨?_, rest⟩
                have alone := Brackets.transaction begun working concluded .nil
                rwa [List.append_nil] at alone
            | cons sent tail =>
                obtain ⟨rfl, -⟩ := List.cons.inj inside
                have among : (Command.begin, reply) ∈ work ++ conclusion := by
                  rw [whole]
                  exact List.mem_append_right _ (.head _)
                exact absurd rfl (unbegun_of_mem working concluded among)

end Brackets

/-! ### Whether a transaction is open -/

/-- Whether a transaction is open on a connection **after one more command.** -/
def leavesOpen (opened : Bool) : Command × Reply → Bool
  | (.begin, reply) => opened || reply.accepted
  | (.commit, reply) => opened && !reply.accepted
  | (.rollback, _) => false
  | (.batch _, _) => opened
  | (.statement _ _, _) => opened

/-- Whether **a transaction is open on the connection** after commands. -/
def isOpenAfter (commands : List (Command × Reply)) : Bool := commands.foldl leavesOpen false

theorem leavesOpen_of_isWork {sent : Command × Reply} (isWork : sent.1.isWork = true)
    (opened : Bool) : leavesOpen opened sent = opened := by
  obtain ⟨command, reply⟩ := sent
  cases command with
  | batch | statement => rfl
  | _ => cases isWork

theorem foldl_leavesOpen_of_isWork {work : List (Command × Reply)}
    (working : ∀ sent ∈ work, sent.1.isWork = true) (opened : Bool) :
    work.foldl leavesOpen opened = opened := by
  induction work with
  | nil => rfl
  | cons sent work ih =>
      obtain ⟨first, rest⟩ := List.forall_mem_cons.mp working
      rw [List.foldl_cons, leavesOpen_of_isWork first]
      exact ih rest

/-- What concludes a transaction leaves none open. -/
theorem Concludes.foldl_leavesOpen {conclusion : List (Command × Reply)}
    (concluded : Concludes conclusion) : conclusion.foldl leavesOpen true = false := by
  cases concluded with
  | committed accepted => simp [leavesOpen, accepted]
  | rolledBack => rfl
  | refused => rfl

/-- After complete brackets **the connection is idle.** -/
theorem Brackets.isOpenAfter_eq {commands : List (Command × Reply)} (brackets : Brackets commands) :
    isOpenAfter commands = false := by
  unfold isOpenAfter
  induction brackets with
  | nil => rfl
  | unbegun refused _ ih =>
      rw [List.foldl_cons, leavesOpen, refused]
      exact ih
  | transaction begun working concluded _ ih =>
      rw [List.foldl_cons, leavesOpen, begun, List.foldl_append, List.foldl_append,
        foldl_leavesOpen_of_isWork working]
      show List.foldl _ (List.foldl leavesOpen true _) _ = _
      rw [concluded.foldl_leavesOpen]
      exact ih

/-- What is expected of **the commands of calls.** -/
structure NeverLeftOpen (commands : List (Command × Reply)) : Prop where
  /-- Every transaction is begun, used and concluded, and nothing is sent outside of transactions. -/
  brackets : Brackets commands
  /-- No transaction is begun while one is open. -/
  unnested : ∀ before reply after, commands = before ++ (.begin, reply) :: after →
    isOpenAfter before = false
  /-- A transaction that was begun is concluded before the next one is begun. -/
  concluded : ∀ before reply after, commands = before ++ (.begin, reply) :: after →
    reply.accepted = true → ∃ work conclusion later, after = work ++ conclusion ++ later ∧
      (∀ sent ∈ work, sent.1.isWork = true) ∧ Concludes conclusion
  /-- The connection is idle when the last call has ended. -/
  idle : isOpenAfter commands = false

theorem neverLeftOpen_of_brackets {commands : List (Command × Reply)} (brackets : Brackets commands) :
    NeverLeftOpen commands where
  brackets := brackets
  unnested before reply after split := (brackets.split_at_begin split).1.isOpenAfter_eq
  concluded before reply after split begun := by
    have started := (brackets.split_at_begin split).2
    cases started with
    | unbegun refused =>
        rw [begun] at refused
        cases refused
    | transaction _ working concluded => exact ⟨_, _, _, rfl, working, concluded⟩
  idle := brackets.isOpenAfter_eq

/-! ### How a handle is used -/

/-- What is sent **on a handle between two of its states**: work while it is open, one conclusion that
closes it, and nothing afterwards. -/
inductive Usage : Bool → List (Command × Reply) → Bool → Prop
  | working {work} (working : ∀ sent ∈ work, sent.1.isWork = true) : Usage true work true
  | concluded {work conclusion} (working : ∀ sent ∈ work, sent.1.isWork = true)
      (concluded : Concludes conclusion) : Usage true (work ++ conclusion) false
  | closed : Usage false [] false

namespace Usage

variable {first second : List (Command × Reply)} {a b c : Bool}

theorem idle (opened : Bool) : Usage opened [] opened := by
  cases opened with
  | false => exact .closed
  | true => exact .working (by simp)

theorem append (early : Usage a first b) (late : Usage b second c) : Usage a (first ++ second) c := by
  cases early with
  | working working =>
      cases late with
      | working working' =>
          exact .working (List.forall_mem_append.mpr ⟨working, working'⟩)
      | concluded working' concluded =>
          rw [← List.append_assoc]
          exact .concluded (List.forall_mem_append.mpr ⟨working, working'⟩) concluded
  | concluded working concluded =>
      cases late
      rw [List.append_nil]
      exact .concluded working concluded
  | closed => exact late

/-- A conclusion, and nothing before it. -/
theorem of_concludes {conclusion : List (Command × Reply)} (concluded : Concludes conclusion) :
    Usage true conclusion false := by
  have nothing : ∀ sent ∈ ([] : List (Command × Reply)), sent.1.isWork = true := by simp
  exact .concluded nothing concluded

/-- A transaction that is begun, and whose handle is then used until it is closed, **is a bracket.** -/
theorem brackets {commands : List (Command × Reply)} {reply : Reply} (begun : reply.accepted = true)
    (used : Usage true commands false) : Brackets ((.begin, reply) :: commands) := by
  cases used with
  | concluded working concluded =>
      have bracket := Brackets.transaction begun working concluded .nil
      rwa [List.append_nil] at bracket

end Usage

variable {δ μ α : Type}

/-- The law of **how a handle is used.** -/
def usage : Law (World δ μ × Tx) Event where
  Holds p events q := Usage p.2.isOpen (commandsIn events) q.2.isOpen
  idle p := Usage.idle p.2.isOpen
  append early late := by
    rw [commandsIn_append]
    exact early.append late

/-- Where nothing is sent and the handle stays as open as it was, it is used as it should be. -/
theorem usage_of_silent {p q : World δ μ × Tx} {events : List Event}
    (same : q.2.isOpen = p.2.isOpen) (silent : commandsIn events = []) :
    usage.Holds p events q := by
  show Usage p.2.isOpen (commandsIn events) q.2.isOpen
  rw [same, silent]
  exact Usage.idle _

section Handles

variable {db : Database δ} {ctx : Context}

/-- A query is sent **on an open handle only**, and leaves it open. -/
theorem usage_query {event : Command → Reply → Event} {command : Command}
    (shown : ∀ reply, commandsIn [event command reply] = [(command, reply)])
    (isWork : command.isWork = true) :
    Step.Obeys (Tx.query event db ctx command : TxStep δ μ Answer).run usage := by
  rintro ⟨w, tx⟩
  have queried := Tx.queried_query event db ctx command w tx
  rcases queried.trace_cases with silent | sent
  · rw [silent]
    exact usage_of_silent queried.isOpen_eq rfl
  · have opened : tx.isOpen = true := (queried.sent_iff.mp sent).1
    show Usage tx.isOpen (commandsIn _) _
    rw [sent, queried.isOpen_eq, opened, shown]
    exact .working (by simpa using isWork)

theorem queriesObey_usage (db : Database δ) :
    Tx.QueriesObey db (usage : Law (World δ μ × Tx) Event) where
  logged _ := Fallible.obeys_lift fun _ => usage_of_silent rfl rfl
  executed _ _ _ := usage_query (fun _ => rfl) rfl
  probed _ _ _ := usage_query (fun _ => rfl) rfl

/-- What concluding an open handle sends **is a conclusion.** -/
theorem Tx.Conclusion.concludes {tx : Tx} {command : Command}
    {run : Run (World δ μ × Tx) Event (Except Error Unit)} (concluded : Conclusion tx command run)
    (concluding : command = .commit ∨ command = .rollback) : Concludes (commandsIn run.trace) := by
  cases concluded with
  | accepted accepted =>
      rcases concluding with rfl | rfl
      · exact .committed accepted
      · exact .rolledBack _
  | refused refused => exact .refused _ concluding refused
  | overtaken => exact .rolledBack _

/-- **Concluding a handle** sends a conclusion if the handle is open, and nothing otherwise. -/
theorem usage_conclude {command : Command} (concluding : command = .commit ∨ command = .rollback) :
    Step.Obeys (Tx.conclude db command : TxStep δ μ Unit).run usage := by
  rintro ⟨w, tx⟩
  cases opened : tx.isOpen with
  | false =>
      rw [Tx.conclude_of_closed command opened]
      exact usage.idle _
  | true =>
      have concluded : Tx.Conclusion tx command ((Tx.conclude db command).run (w, tx)) :=
        Tx.conclude_cases command opened
      show Usage tx.isOpen (commandsIn _) _
      rw [opened, concluded.closed]
      exact Usage.of_concludes (concluded.concludes concluding)

/-- A handle that goes out of scope is rolled back if it is open. -/
theorem usage_release : (Tx.release db : Step (World δ μ × Tx) Event Unit).Obeys usage := by
  rintro ⟨w, tx⟩
  cases opened : tx.isOpen with
  | false =>
      rw [Tx.release_of_closed opened]
      exact usage.idle _
  | true =>
      rw [Tx.release_of_open opened]
      show Usage tx.isOpen _ false
      rw [opened]
      exact Usage.of_concludes (.rolledBack _)

theorem release_closed (db : Database δ) (p : World δ μ × Tx) :
    (Tx.release db p).state.2.isOpen = false := by
  obtain ⟨w, tx⟩ := p
  cases opened : tx.isOpen with
  | false =>
      rw [Tx.release_of_closed opened]
      exact opened
  | true => rw [Tx.release_of_open opened]

/-- **Whatever a program does**, it uses its handle as it should. -/
theorem Program.run_usage (db : Database δ) (program : Program μ α) :
    Step.Obeys (program.run db) usage :=
  program.run_obeys_of_operations fun operation =>
    operation.perform_obeys_of_queries (queriesObey_usage db) (usage_conclude (.inl rfl))
      (usage_conclude (.inr rfl)) fun _ _ same => usage_of_silent same rfl

end Handles

/-! ### Openings and attempts -/

namespace Connector

variable {connector : Connector μ} {db : Database δ} {ctx : Context}
variable {body : Context → Program μ α} {w : World δ μ}

theorem commit_usage : Step.Obeys (connector.commit (μ := μ) db ctx) usage :=
  commit_obeys_of_programs (fun program => program.run_usage db) (usage_conclude (.inl rfl))

theorem driver_usage (connector : Connector μ) (db : Database δ) :
    DriverObeys (connector.driver db) usage Event.logged where
  commit _ := commit_usage
  rollback _ := Action.obeys_ofFallible (usage_conclude (.inr rfl))
  release := usage_release
  reported _ _ _ := usage_of_silent rfl rfl

/-- The modes are set by work. -/
theorem isWork_of_modeEvents :
    ∀ sent ∈ commandsIn (connector.modeEvents db ctx w), sent.1.isWork = true := by
  intro sent among
  obtain rfl := List.mem_singleton.mp among
  rfl

/-- The setup batch is work. -/
theorem isWork_of_batchEvents (batch? : Option String) :
    ∀ sent ∈ commandsIn (connector.batchEvents db ctx w batch?), sent.1.isWork = true := by
  intro sent among
  cases batch? with
  | none => cases among
  | some batch =>
      obtain rfl := List.mem_singleton.mp among
      rfl

/-- A command that fails on a fresh handle is still work. -/
theorem isWork_of_failing {deadline : Option Instant} {command : Command} {error : Error}
    {events : List Event} (isWork : command.isWork = true)
    (failing : Tx.Failing db deadline command w error events) :
    ∀ sent ∈ commandsIn events, sent.1.isWork = true := by
  cases failing <;> simp [isWork]

/-- A transaction that is handed out was begun, and has seen nothing but work. -/
theorem SetUpFully.exists_commands {events : List Event}
    (setUp : SetUpFully connector db ctx w events) :
    ∃ reply work, commandsIn events = (.begin, reply) :: work ∧ reply.accepted = true ∧
      ∀ sent ∈ work, sent.1.isWork = true := by
  cases setUp with
  | @intro batch? modesSet =>
      refine ⟨w.replyTo db .begin, commandsIn (connector.modeEvents db ctx w) ++
        commandsIn (connector.batchEvents db ctx w batch?), ?_, modesSet.begun, ?_⟩
      · rw [commandsIn_append, commandsIn_append]
        rfl
      · exact List.forall_mem_append.mpr ⟨isWork_of_modeEvents, isWork_of_batchEvents batch?⟩

/-- A transaction that is begun, sees nothing but work and is rolled back **is a bracket.** -/
theorem brackets_of_rolledBack (begun : (w.replyTo db .begin).accepted = true) {events : List Event}
    (working : ∀ sent ∈ commandsIn events, sent.1.isWork = true) (undone : Reply) :
    Brackets (commandsIn (beginEvents db w ++ events ++ [.executed .rollback undone])) := by
  rw [commandsIn_append, commandsIn_append]
  exact Usage.brackets begun (.concluded working (.rolledBack undone))

/-- An opening that is stopped **leaves no transaction open.** -/
theorem Stopped.brackets {events : List Event} {stop : Ending Empty}
    (stopped : Stopped connector db ctx w events stop) : Brackets (commandsIn events) := by
  cases stopped with
  | poolClosed => exact .nil
  | forbidden => exact .nil
  | unbegun _ _ refused => exact .unbegun (Reply.refused_of_answer refused) .nil
  | modesUnset _ _ begun failing =>
      exact brackets_of_rolledBack begun (isWork_of_failing rfl failing) _
  | hookStopped modesSet => exact brackets_of_rolledBack modesSet.begun isWork_of_modeEvents _
  | @batchFailed batch error sent undone modesSet _ failing =>
      have working : ∀ sent' ∈ commandsIn (connector.modeEvents db ctx w ++
          connector.setupRecord batch :: sent), sent'.1.isWork = true := by
        have failed := isWork_of_failing rfl failing
        rw [commandsIn_append]
        exact List.forall_mem_append.mpr ⟨isWork_of_modeEvents, failed⟩
      have bracket := brackets_of_rolledBack modesSet.begun working undone
      rwa [← List.append_assoc] at bracket

/-- **An attempt is one bracket at most.**  What opens its transaction begins the bracket, and the
release of its handle ends it if nothing else has. -/
theorem brackets_attempt (connector : Connector μ) (db : Database δ) (ctx : Context) (number : Nat)
    (body : Context → Program μ α) (w : World δ μ) :
    Brackets (commandsIn (worldEvents
      (attempt (connector.driver db) ctx number (Program.toWork db body) w).trace)) := by
  have opening := opening_begin connector db (ctx.forAttempt number) w
  rcases attempt_events_cases (driver_usage connector db) (fun program => program.run_usage db) ctx
    number body w with ⟨happened, unreturned⟩ | ⟨handle, later, p, returned, happened, used⟩
  · rw [happened]
    generalize connector.begin db (ctx.forAttempt number) w = run at opening unreturned ⊢
    cases opening with
    | stopped stopped => exact stopped.brackets
    | opened => exact absurd rfl (unreturned _)
  · have opened : handle.isOpen = true := isOpen_of_begin returned
    have released : (Tx.release db p).state.2.isOpen = false := release_closed db p
    have rest : Usage handle.isOpen (commandsIn later) (Tx.release db p).state.2.isOpen := used
    rw [opened, released] at rest
    rw [happened, commandsIn_append]
    generalize connector.begin db (ctx.forAttempt number) w = run at opening returned ⊢
    cases opening with
    | @stopped _ _ stop => exact absurd returned (stop.stopped_ne_returned handle)
    | opened setUp =>
        obtain ⟨reply, work, commands, begun, working⟩ := setUp.exists_commands
        rw [commands]
        exact Usage.brackets begun ((Usage.working working).append rest)

/-! ### Calls one after the other -/

/-- What is bracketed piece by piece is bracketed as a whole. -/
theorem brackets_flatMap {events : Nat → List Event}
    (pieces : ∀ k, Brackets (commandsIn (events k))) (places : List Nat) :
    Brackets (commandsIn (places.flatMap events)) := by
  induction places with
  | nil => exact .nil
  | cons k places ih =>
      rw [List.flatMap_cons, commandsIn_append]
      exact (pieces k).append ih

/-- A call through a connector **leaves the connection as idle as it found it**, however many attempts
it makes. -/
theorem brackets_transact (connector : Connector μ) (db : Database δ) (ctx : Context)
    (body : Context → Program μ α) (w : World δ μ) :
    Brackets (commandsIn (connector.transact db ctx body w).trace) := by
  have unsent : ∀ records : List LogRecord,
      commandsIn (worldEvents (records.map .logged)) = [] := by
    intro records
    rw [worldEvents_logged, commandsIn, List.filterMap_map, List.filterMap_eq_nil_iff]
    exact fun _ _ => rfl
  have attempted : ∀ k, Brackets (commandsIn (connector.attemptEvents db ctx body w k)) := by
    intro k
    rw [attemptEvents, eventsAt, worldEvents_append, commandsIn_append, unsent, List.append_nil]
    exact brackets_attempt connector db ctx (k + 1) body _
  rw [transact_trace]
  exact brackets_flatMap attempted _

/-- **Any number of calls through a connector**, one after the other, from a world on, with all that
happens in them.  Each call has a context, a body and a result of its own, and between the calls the
world may change: time passes, the pool is closed, the caller's code goes on, and so may others who
use the database. -/
inductive Calls (connector : Connector μ) (db : Database δ) : World δ μ → List Event → Prop
  | done (w : World δ μ) : Calls connector db w []
  | call {α : Type} (ctx : Context) (body : Context → Program μ α) {w : World δ μ} {events}
      (rest : Calls connector db (connector.transact db ctx body w).state events) :
      Calls connector db w ((connector.transact db ctx body w).trace ++ events)
  | meanwhile {w : World δ μ} {events} (v : World δ μ) (rest : Calls connector db v events) :
      Calls connector db w events

/-- **No sequence of calls leaves a transaction open**, whatever the bodies, the hooks and the
database do, and however the calls end.  Every transaction that the database began is concluded
before the next one, nothing is sent outside of transactions, and each call starts on an idle
connection. -/
theorem neverLeftOpen {events : List Event} (calls : Calls connector db w events) :
    NeverLeftOpen (commandsIn events) := by
  have brackets : Brackets (commandsIn events) := by
    induction calls with
    | done => exact .nil
    | call ctx body rest ih =>
        rw [commandsIn_append]
        exact (brackets_transact _ _ _ _ _).append ih
    | meanwhile v rest ih => exact ih
  exact neverLeftOpen_of_brackets brackets

/-- A call whose body panics, and another one after it: two transactions, one rolled back and one
committed. -/
theorem neverLeftOpen_of_panic :
    ∃ events, Calls ({} : Connector Unit) Database.agreeable { database := (), memory := () } events ∧
      NeverLeftOpen (commandsIn events) ∧ (commandsIn events).length = 6 ∧
      (events.any Event.isRollback && events.any Event.isCommitted) = true := by
  have calls : Calls ({} : Connector Unit) Database.agreeable { database := (), memory := () } _ :=
    .call .fresh (fun _ => (Program.panic (.number 1) : Program Unit Unit))
      (.call .fresh (fun _ => (Program.finish (.returned ()) : Program Unit Unit)) (.done _))
  exact ⟨_, calls, neverLeftOpen calls, by decide +kernel, by decide +kernel⟩

end Connector

end Postgres

end TxRetry
