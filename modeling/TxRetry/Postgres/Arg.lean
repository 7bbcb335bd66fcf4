import TxRetry.Json.Printer
import TxRetry.Text.Quoted
import TxRetry.Time.Timestamp

/-!
# Bound arguments

The values bound to the parameters of a statement.  They are kept as values so that they can be
logged beside the statement.

## Main definitions

* `Arg` — an argument
* `Arg.describe`, `Arg.describeAll` — arguments in a log record
* `Arg.same`, `Arg.sameAll` — equality of arguments
-/

namespace TxRetry.Postgres

/-- A **bound argument.** -/
inductive Arg where
  | bool (b : Bool)
  | int (n : Int64)
  | float (x : Float)
  | text (s : String)
  | json (value : Json)
  | timestamp (t : Timestamp)
  | bytes (bs : List UInt8)
  | intArray (ns : List Int64)
  deriving Repr

namespace Arg

/-- An argument in a log record.  Bytes are counted and not shown. -/
def describe : Arg → String
  | .bool b => if b then "true" else "false"
  | .int n => toString n.toInt
  | .float x => FloatNotation.positional.render x
  | .text s => Text.quoted s
  | .json value => value.compact
  | .timestamp t => t.text
  | .bytes bs => "<" ++ toString bs.length ++ " bytes>"
  | .intArray ns => Text.listed (ns.map fun n => toString n.toInt)

/-- The arguments of a statement in a log record. -/
def describeAll (args : List Arg) : String := Text.listed (args.map describe)

/-- Equality **of arguments**: of one kind, and equal there.  Doubles compare as numbers. -/
def same : Arg → Arg → Bool
  | .bool a, .bool b => a == b
  | .int m, .int n => m == n
  | .float x, .float y => x == y
  | .text s, .text t => s == t
  | .json v, .json w => v.same w
  | .timestamp s, .timestamp t => s == t
  | .bytes bs, .bytes cs => bs == cs
  | .intArray ms, .intArray ns => ms == ns
  | _, _ => false

/-- Equality of lists of arguments, one by one. -/
def sameAll : List Arg → List Arg → Bool
  | [], [] => true
  | a :: as, b :: bs => same a b && sameAll as bs
  | _, _ => false

end Arg

end TxRetry.Postgres
