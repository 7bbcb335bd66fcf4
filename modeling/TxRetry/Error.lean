import TxRetry.Decimal.Notation
import TxRetry.Mode

/-!
# Errors

Everything that can go wrong in a transactional call, as causes.  Wording, code and chain of
sources are functions on the causes.

## Main definitions

* `ClientError` — what the database client reports, database errors among it
* `Error` — every cause, three of which wrap another one
* `Error.message` — the wording
* `Error.sqlstate` — the code on which the decision to retry rests
* `Error.sources` — the wordings of the causes behind an error, outermost first

## Design notes

**Codes shine through one wrapper only.**  A failed rollback must not hide that the attempt itself
ended in a conflict, so `sqlstate` looks through `rollback` to its source.  A failure to open a
transaction and an exhausted call are never retried, so `begin` and `retriesExceeded` have no code,
whatever they wrap.
-/

namespace TxRetry

/-- An error reported by the database client. -/
inductive ClientError where
  | rowNotFound
  | poolClosed
  | poolTimedOut
  | workerCrashed
  | protocol (detail : String)
  | columnNotFound (name : String)
  | columnIndexOutOfBounds (index length : Nat)
  | columnDecode (index : Nat)
  | database (code : Option String) (message : String)
  deriving DecidableEq, Repr

namespace ClientError

def message : ClientError → String
  | .rowNotFound => "no rows returned by a query that expected to return at least one row"
  | .poolClosed => "attempted to acquire a connection on a closed pool"
  | .poolTimedOut => "pool timed out while waiting for an open connection"
  | .workerCrashed => "attempted to communicate with a crashed background worker"
  | .protocol detail => "encountered unexpected or invalid data: " ++ detail
  | .columnNotFound name => "no column found for name: " ++ name
  | .columnIndexOutOfBounds index length =>
    "column index out of bounds: the len is " ++ toString length ++ ", but the index is "
      ++ toString index
  | .columnDecode index => "error occurred while decoding column " ++ toString index
  | .database _ message => "error returned from database: " ++ message

def sqlstate : ClientError → Option String
  | .database code _ => code
  | _ => none

/-- The wording of what is behind a client error: only a database error has something behind it. -/
def source : ClientError → Option String
  | .database _ message => some message
  | _ => none

end ClientError

/-- The **ways in which a transactional call fails.** -/
inductive Error where
  /-- The database client reported it. -/
  | client (cause : ClientError)
  /-- A coded database error that did not come through the client. -/
  | database (code message : String)
  /-- Opening the transaction, or setting it up, failed. -/
  | begin (source : Error)
  /-- The handle was committed or rolled back before. -/
  | txDone
  /-- A transactional call was made from inside another one. -/
  | nestedTransaction
  /-- Only serializable transactions are allowed. -/
  | isolationPolicy (requested : IsolationLevel)
  /-- Conflicts persisted through every allowed attempt. -/
  | retriesExceeded (attempts : Nat) (source : Error)
  /-- The attempt failed and the rollback after it failed too. -/
  | rollback (source failure : Error)
  /-- The planner's estimate for a statement is above the budget. -/
  | planCostExceeded (budget cost : Float) (statement planText : String)
  /-- A query plan could not be interpreted. -/
  | plan (detail : String)
  /-- The deadline of the context passed. -/
  | deadlineExceeded
  /-- Anything else a body wants to fail with. -/
  | other (text : String)
  /-- An error handed on as one of the kind before: its wording stays, its cause does not. -/
  | wrapped (inner : Error)
  deriving Repr

namespace Error

/-- The **wording of an error.** -/
def message : Error → String
  | .client cause => cause.message
  | .database code message => "database error " ++ code ++ ": " ++ message
  | .begin source => "begin transaction: " ++ source.message
  | .txDone => "transaction has already been committed or rolled back"
  | .nestedTransaction =>
    "already in transaction scope: pass the open transaction down instead of starting a new one"
  | .isolationPolicy requested =>
    "isolation level " ++ requested.sql ++ " not allowed: driver requires serializable"
  | .retriesExceeded attempts source =>
    "serialization failure retries exceeded after " ++ toString attempts ++ " attempts: "
      ++ source.message
  | .rollback source failure =>
    source.message ++ " (rollback also failed: " ++ failure.message ++ ")"
  | .planCostExceeded budget cost statement planText =>
    "query plan cost " ++ FloatNotation.positional.render cost ++ " exceeds budget "
      ++ FloatNotation.positional.render budget ++ " for statement: " ++ statement
      ++ "\nplan: " ++ planText
  | .plan detail => "unexpected query plan: " ++ detail
  | .deadlineExceeded => "context deadline exceeded"
  | .other text => text
  | .wrapped inner => inner.message

/-- The **code of the database error behind a failed attempt**, seen through a failed rollback and
through nothing else. -/
def sqlstate : Error → Option String
  | .client cause => cause.sqlstate
  | .database code _ => some code
  | .rollback source _ => source.sqlstate
  | _ => none

/-- The wordings of the causes behind an error, outermost first.  A client error stands for itself
and has only what the client names as its source behind it; a wrapped error has nothing. -/
def sources : Error → List String
  | .client cause => cause.source.toList
  | .begin source => source.message :: source.sources
  | .retriesExceeded _ source => source.message :: source.sources
  | .rollback source _ => source.message :: source.sources
  | _ => []

/-- Whether the wording of an error is fixed here.  That of a decoding error depends on the value
that could not be decoded, and so does the wording of everything that wraps one. -/
def hasFixedWording : Error → Bool
  | .client (.columnDecode _) => false
  | .begin source => source.hasFixedWording
  | .retriesExceeded _ source => source.hasFixedWording
  | .rollback source failure => source.hasFixedWording && failure.hasFixedWording
  | .wrapped inner => inner.hasFixedWording
  | _ => true

/-- Whether an error is the handle's own report that it was concluded before. -/
def isTxDone : Error → Bool
  | .txDone => true
  | _ => false

end Error

end TxRetry
