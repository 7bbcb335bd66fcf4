import TxRetry.Decimal.Notation
import TxRetry.Json.Basic

/-!
# Compact JSON text

The text of a value without any blanks, the form in which documents appear in messages, in bound
arguments and in setup statements.

## Main definitions

* `Json.escapeChar` — a character inside a JSON string
* `Json.compact` — the compact text of a value
-/

namespace TxRetry.Json

/-- Four hexadecimal digits. -/
def hexQuad (n : Nat) : List Char :=
  let digits := Nat.toDigits 16 n
  List.replicate (4 - digits.length) '0' ++ digits

/-- A **character inside a JSON string.**  Only the quote, the backslash and characters below the
blank are escaped. -/
def escapeChar (c : Char) : List Char :=
  match c with
  | '"' => ['\\', '"']
  | '\\' => ['\\', '\\']
  | '\x08' => ['\\', 'b']
  | '\x0c' => ['\\', 'f']
  | '\n' => ['\\', 'n']
  | '\r' => ['\\', 'r']
  | '\t' => ['\\', 't']
  | c => if c.toNat < 0x20 then '\\' :: 'u' :: hexQuad c.toNat else [c]

/-- A JSON string. -/
def stringText (s : String) : String :=
  String.ofList ('"' :: (s.toList.flatMap escapeChar ++ ['"']))

/-- The text of a number.  A double that is no number at all has no text of its own. -/
def Number.text : Number → String
  | .integer n => toString n
  | .float x => if x.isNaN || x.isInf then "null" else FloatNotation.json.render x

mutual

/-- The **compact text of a value.** -/
def compact : Json → String
  | .null => "null"
  | .bool b => if b then "true" else "false"
  | .number n => n.text
  | .string s => stringText s
  | .array elements => "[" ++ String.intercalate "," (compactElements elements) ++ "]"
  | .object members => "\x7b" ++ String.intercalate "," (compactMembers members) ++ "\x7d"

/-- The texts of the elements of an array. -/
def compactElements : List Json → List String
  | [] => []
  | x :: xs => compact x :: compactElements xs

/-- The texts of the members of an object. -/
def compactMembers : List (String × Json) → List String
  | [] => []
  | (k, x) :: xs => (stringText k ++ ":" ++ compact x) :: compactMembers xs

end

end TxRetry.Json
