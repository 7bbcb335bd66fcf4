import TxRetry.Text.Invisible
import TxRetry.Text.Marks

/-!
# Quoted text

The form in which texts appear in log records and descriptions: between double quotes, with every
character that would not show, or would change how its neighbours show, written as an escape.

## Main definitions

* `Text.escape` — the written form of one character
* `Text.quoted` — a text between double quotes
* `Text.listed` — several written forms between square brackets
-/

namespace TxRetry.Text

/-- Whether a character is written as it is.  The printable part of ASCII is decided without the
tables. -/
def isPlain (c : Char) : Bool :=
  if c.toNat < 0x7f then 0x20 ≤ c.toNat else !isInvisible c && !isExtendingMark c

/-- The **written form of one character.**  A single quote needs no escape between double ones. -/
def escape (c : Char) : List Char :=
  match c with
  | '"' => ['\\', '"']
  | '\\' => ['\\', '\\']
  | '\n' => ['\\', 'n']
  | '\r' => ['\\', 'r']
  | '\t' => ['\\', 't']
  | '\x00' => ['\\', '0']
  | c => if isPlain c then [c] else ['\\', 'u', '\x7b'] ++ Nat.toDigits 16 c.toNat ++ ['\x7d']

/-- A text between double quotes, each character in its written form. -/
def quoted (s : String) : String :=
  String.ofList ('"' :: (s.toList.flatMap escape ++ ['"']))

/-- Written forms between square brackets, separated by commas. -/
def listed (items : List String) : String :=
  "[" ++ ", ".intercalate items ++ "]"

end TxRetry.Text
