import TxRetry.Error
import TxRetry.Json.Parser

/-!
# Rows

What a statement returns: rows of named cells, and the readings of cells that the library offers.

## Main definitions

* `Cell` — a value in a row, null or of one of the database's types
* `Row` — the cells of a row, in order, each with the name of its column
* `Row.readInt`, `Row.readText`, `Row.readJson` — a cell read as one type
* `RowShape`, `Row.decode` — rows read as tuples
-/

namespace TxRetry.Postgres

/-- A **value in a row.**  A JSON cell holds the text of a document, which may be broken. -/
inductive Cell where
  | null
  | bool (b : Bool)
  | int8 (n : Int)
  | float8 (x : Float)
  | text (s : String)
  | json (document : String)
  deriving Repr

/-- The cells of a row, each with the name of its column. -/
abbrev Row := List (String × Cell)

namespace Row

/-- The cell at a position. -/
def cellAt (row : Row) (index : Nat) : Except Error Cell :=
  match row[index]? with
  | some (_, cell) => .ok cell
  | none => .error (.client (.columnIndexOutOfBounds index row.length))

/-- A cell that is read as what it is not. -/
def undecodable {α : Type} (index : Nat) : Except Error α :=
  .error (.client (.columnDecode index))

def readInt (row : Row) (index : Nat) : Except Error Int := do
  match ← row.cellAt index with
  | .int8 n => return n
  | _ => undecodable index

def readText (row : Row) (index : Nat) : Except Error String := do
  match ← row.cellAt index with
  | .text s => return s
  | _ => undecodable index

/-- A JSON cell read as the value that its text stands for. -/
def readJson (row : Row) (index : Nat) : Except Error Json := do
  match ← row.cellAt index with
  | .json document =>
    match Json.parse? document with
    | some value => return value
    | none => undecodable index
  | _ => undecodable index

end Row

/-- A tuple as which a row is read: one column or two, by position. -/
inductive RowShape where
  | int
  | intText
  | text
  deriving DecidableEq, Repr

/-- A tuple read from a row. -/
inductive Tuple where
  | int (n : Int)
  | intText (n : Int) (s : String)
  | text (s : String)
  deriving DecidableEq, Repr

/-- A **row read as a tuple**, the columns from left to right.  Further columns are ignored. -/
def Row.decode (shape : RowShape) (row : Row) : Except Error Tuple :=
  match shape with
  | .int => (row.readInt 0).map .int
  | .intText => do
    let n ← row.readInt 0
    let s ← row.readText 1
    return .intText n s
  | .text => (row.readText 0).map .text

end TxRetry.Postgres
