/-!
# JSON values

The dynamic values that a program meets here: settings attached to a context, bound arguments,
query plans and configuration documents.

## Main definitions

* `Json.Number` — a whole number, or a double
* `Json` — a value
* `Json.member?` — the member of an object under a key
* `Json.ofMembers` — the object with given members, each key once and in the order of its bytes
* `Json.same` — equality of values

## Design notes

**Two kinds of numbers.**  A number written without point and exponent stays the whole number that
it is, as long as 64 bits hold it; every other number is a double.  The kinds never compare equal
and print differently (`1` and `1.0`), so the kind is part of the value.

**Equality is not structural.**  Doubles compare as numbers, so `0.0` equals `-0.0`.
-/

namespace TxRetry

namespace Json

/-- A number of a JSON document. -/
inductive Number where
  | integer (n : Int)
  | float (x : Float)
  deriving Inhabited, Repr

/-- The double nearest to a number. -/
def Number.toFloat : Number → Float
  | .integer n => Float.ofInt n
  | .float x => x

/-- Numbers are equal when they are of one kind and equal there. -/
def Number.same : Number → Number → Bool
  | .integer m, .integer n => m == n
  | .float x, .float y => x == y
  | _, _ => false

end Json

/-- A JSON value. -/
inductive Json where
  | null
  | bool (b : Bool)
  | number (n : Json.Number)
  | string (s : String)
  | array (elements : List Json)
  | object (members : List (String × Json))
  deriving Inhabited, Repr

namespace Json

/-- The whole number `n` as a value. -/
def ofInt (n : Int) : Json := .number (.integer n)

/-- The member of an object under a key; other values have no members. -/
def member? : Json → String → Option Json
  | .object members, key => members.lookup key
  | _, _ => none

/-- Put a member in its place: keys in increasing order, a key that is there already being
overwritten. -/
def insertMember (key : String) (value : Json) :
    List (String × Json) → List (String × Json)
  | [] => [(key, value)]
  | (k, v) :: rest =>
    if key = k then (key, value) :: rest
    else if key < k then (key, value) :: (k, v) :: rest
    else (k, v) :: insertMember key value rest

/-- The **object with given members.**  Of several members with one key the last one counts. -/
def ofMembers (members : List (String × Json)) : Json :=
  .object (members.foldl (fun sorted (key, value) => insertMember key value sorted) [])

mutual

/-- Equality of values. -/
def same : Json → Json → Bool
  | .null, .null => true
  | .bool a, .bool b => a == b
  | .number m, .number n => m.same n
  | .string s, .string t => s == t
  | .array xs, .array ys => sameElements xs ys
  | .object xs, .object ys => sameMembers xs ys
  | _, _ => false

/-- Equality of lists of values, element by element. -/
def sameElements : List Json → List Json → Bool
  | [], [] => true
  | x :: xs, y :: ys => same x y && sameElements xs ys
  | _, _ => false

/-- Equality of lists of members, key by key and value by value. -/
def sameMembers : List (String × Json) → List (String × Json) → Bool
  | [], [] => true
  | (k, x) :: xs, (l, y) :: ys => k == l && same x y && sameMembers xs ys
  | _, _ => false

end

end Json

end TxRetry
