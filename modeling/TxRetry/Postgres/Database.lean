import TxRetry.Log
import TxRetry.Postgres.Arg
import TxRetry.Postgres.Row
import TxRetry.Run
import TxRetry.Time.Clock

/-!
# The database behind a connection

The database is a machine that answers one command at a time.  Nothing about its answers is
assumed, so whatever is said of the library is said for every database.

## Main definitions

* `Command` — what can be sent: the three transaction commands, a batch, a statement
* `Outcome`, `Reply` — what comes of a command, and the time that it took
* `Database` — how a database answers, with a state of its own
* `World` — the database, the clock, the pool of connections, and the memory of the caller's code
* `Event` — what happens on a connection
* `send`, `sendBefore` — a command executed, and one under a deadline
* `Timely` — what came of a command under a deadline
* `LateFailure` — a failure that came too late and still waits to be read

## Design notes

**A deadline has two sides.**  A command whose deadline has passed is not sent at all.  One whose
answer comes too late was executed, but nobody waits for its answer any more.

**Not every failure has a code.**  A database may refuse a command without one, and the connection to
it may fail by itself.  Whatever the client can report is an outcome.

**The check of plan costs leaves events of its own.**  A caller may send the very text by which the
check explains a statement, so the text cannot tell who asked; the kind of the event does.

**The caller's memory is part of the world.**  What the caller's code remembers between its runs,
for instance from one attempt to the next, is kept there.
-/

namespace TxRetry.Postgres

/-- A **command to the database.** -/
inductive Command where
  | begin
  | commit
  | rollback
  /-- Several statements in one text, without arguments. -/
  | batch (sql : String)
  | statement (sql : String) (args : List Arg)
  deriving Repr

/-- What a database returns for a command that succeeds. -/
structure Answer where
  rows : List Row := []
  rowsAffected : Nat := 0
  deriving Repr

/-- A failure reported by the database, with its code if it has one. -/
structure Refusal where
  code : Option String
  message : String
  deriving DecidableEq, Repr

/-- What **comes of a command.** -/
inductive Outcome where
  | ok (answer : Answer)
  /-- The database refused it. -/
  | error (refusal : Refusal)
  /-- The client failed by itself, for instance because the connection broke. -/
  | lost (cause : ClientError)

/-- What the client reports of an outcome. -/
def Outcome.reported : Outcome → Except ClientError Answer
  | .ok answer => .ok answer
  | .error refusal => .error (.database refusal.code refusal.message)
  | .lost cause => .error cause

/-- The outcome of a command, and the time until it comes. -/
structure Reply where
  outcome : Outcome := .ok {}
  delay : Duration := ⟨0⟩

/-- Whether a command succeeded. -/
def Reply.accepted (r : Reply) : Bool := r.outcome.reported.isOk

/-- The answer of a reply, or its failure as an error. -/
def Reply.answer (r : Reply) : Except Error Answer := r.outcome.reported.mapError Error.client

/-- A **database**: how it answers a command in each of its states. -/
structure Database (δ : Type) where
  respond : δ → Command → δ × Reply

/-- What **happens on a connection.** -/
inductive Event where
  /-- The database executed a command that was asked for. -/
  | executed (command : Command) (reply : Reply)
  /-- The database executed a command for the check of plan costs, which nobody asked for. -/
  | probed (command : Command) (reply : Reply)
  | logged (record : LogRecord)

/-- The **world of a driver.** -/
structure World (δ μ : Type) where
  database : δ
  clock : Instant := .base
  poolClosed : Bool := false
  /-- What the caller's code remembers. -/
  memory : μ

variable {δ μ : Type}

/-- A **command executed**, and recorded as a kind of event.  The clock stands at the arrival of
the answer when it is done. -/
def sendAs (event : Command → Reply → Event) (db : Database δ) (command : Command) :
    Step (World δ μ) Event Reply := fun w =>
  let (database, reply) := db.respond w.database command
  { result := reply
    state := { w with database, clock := w.clock.after reply.delay }
    trace := [event command reply] }

/-- A command executed because it was asked for. -/
def send (db : Database δ) (command : Command) : Step (World δ μ) Event Reply :=
  sendAs .executed db command

/-- Whether a deadline has come at an instant. -/
def isDue (deadline : Option Instant) (now : Instant) : Bool :=
  match deadline with
  | none => false
  | some t => decide (t ≤ now)

/-- What came of a **command under a deadline.** -/
inductive Timely where
  /-- The deadline had come, and nothing was sent. -/
  | unsent
  /-- The command was executed and answered in time. -/
  | answered (reply : Reply)
  /-- The command was executed, and its answer came at or after the deadline. -/
  | late (reply : Reply)

/-- A command under a deadline. -/
def sendBefore (event : Command → Reply → Event) (db : Database δ) (deadline : Option Instant)
    (command : Command) : Step (World δ μ) Event Timely := do
  let start ← Step.get
  if isDue deadline start.clock then return .unsent
  else
    let reply ← sendAs event db command
    let finish ← Step.get
    if isDue deadline finish.clock then return .late reply else return .answered reply

/-- A **failure that came too late** for its own command.  It waits on the connection, where the
next command finds it. -/
structure LateFailure where
  cause : ClientError
  /-- Whether it can be read at once.  It is on its way until the caller's code next waits. -/
  arrived : Bool := false
  deriving DecidableEq, Repr

/-- What a late reply leaves on the connection.  An answer that nobody waits for is skipped by
whoever uses the connection next; a failure is not. -/
def Reply.lateFailure? (reply : Reply) : Option LateFailure :=
  match reply.outcome.reported with
  | .ok _ => none
  | .error cause => some { cause }

/-- Whether a failure that came too late is read by a command under a deadline.  It is, if it has
arrived or the command can still wait for it. -/
def LateFailure.isReadBefore (late : LateFailure) (deadline : Option Instant) (now : Instant) :
    Bool :=
  late.arrived || !isDue deadline now

end TxRetry.Postgres
