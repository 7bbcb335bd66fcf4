import TxRetry.Context
import TxRetry.Json.Printer
import TxRetry.Run
import TxRetry.Sql.Literal
import TxRetry.Sql.SettingName

/-!
# The setup of a transaction

The statements that prepare a session at the start of a transaction: those of the begin hook, then
the limit that the server puts on each statement, then the hint against sequential scans.

## Main definitions

* `BeginHook` — code that adds setup statements
* `BeginHook.claims`, `BeginHook.chain`, `BeginHook.scripted` — the hooks that come with the library
* `setupStatements` — the statements in order
* `setupBatch` — the same as one text, if there are any

## Design notes

**The server's limit is generous.**  It is the time left before the deadline *plus* a grace, so
that the deadline of the context strikes first; the server's limit is the backstop.
-/

namespace TxRetry

/-- Code that **adds setup statements** to those already there, or fails. -/
def BeginHook := Context → List String → Ending (List String)

namespace BeginHook

/-- Copies the setting `key` of the context into the setting `name` of the session, as JSON.  Does
nothing when the context has no such setting; only otherwise the name is looked at. -/
def claims (name key : String) : BeginHook := fun ctx statements =>
  match ctx.setting key with
  | none => .returned statements
  | some value =>
    if Sql.isSettingName name then
      .returned (statements ++ ["SET LOCAL " ++ name ++ " = " ++ Sql.quoteLiteral value.compact])
    else .failed (.other ("invalid setting name for claims: " ++ name))

/-- Several hooks in order, up to the first that does not return. -/
def chain : List BeginHook → BeginHook
  | [] => fun _ statements => .returned statements
  | hook :: hooks => fun ctx statements =>
    match hook ctx statements with
    | .returned statements => chain hooks ctx statements
    | ending => ending

/-- Adds given statements, then panics or fails if it is told to. -/
def scripted (added : List String) (panic? : Option Payload) (failure? : Option Error) :
    BeginHook := fun _ statements =>
  match panic?, failure? with
  | some payload, _ => .panicked payload
  | none, some error => .failed error
  | none, none => .returned (statements ++ added)

end BeginHook

/-- What a driver asks for in every transaction that it sets up. -/
structure SetupOptions where
  statementTimeoutGrace : Duration
  disableSeqscan : Bool

/-- The longest statement timeout that the server accepts, in milliseconds. -/
def longestStatementTimeout : Nat := Nat.pow 2 31 - 1

/-- The server's limit on a statement, in milliseconds: the time left plus the grace, rounded up. -/
def statementTimeout (remaining grace : Duration) : Nat :=
  min (remaining.saturatingAdd grace).ceilMillis longestStatementTimeout

/-- The statement that sets the server's limit; a context without a deadline needs none. -/
def timeoutStatements (ctx : Context) (options : SetupOptions) (now : Instant) : List String :=
  match ctx.remaining now with
  | none => []
  | some remaining =>
    ["SET LOCAL statement_timeout = "
      ++ toString (statementTimeout remaining options.statementTimeoutGrace)]

/-- The hint against sequential scans, if it is wanted. -/
def seqscanStatements (options : SetupOptions) : List String :=
  if options.disableSeqscan then ["SET LOCAL enable_seqscan = off"] else []

/-- The **setup statements of a transaction**, in order. -/
def setupStatements (ctx : Context) (hook? : Option BeginHook) (options : SetupOptions)
    (now : Instant) : Ending (List String) :=
  let fromHook : Ending (List String) := match hook? with
    | none => .returned []
    | some hook => hook ctx []
  fromHook.map fun statements =>
    statements ++ timeoutStatements ctx options now ++ seqscanStatements options

/-- Statements as one batch, if there are any. -/
def batchText : List String → Option String
  | [] => none
  | statements => some (String.intercalate ";\n" statements)

/-- The **setup of a transaction as one batch.** -/
def setupBatch (ctx : Context) (hook? : Option BeginHook) (options : SetupOptions)
    (now : Instant) : Ending (Option String) :=
  (setupStatements ctx hook? options now).map batchText

end TxRetry
