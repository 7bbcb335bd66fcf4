import TxRetry.Decimal.Scaled
import TxRetry.Json.Basic

/-!
# Reading JSON text

The strict grammar of RFC 8259: no comments, no trailing commas, no leading zeros, no lone
surrogates, and nothing but blanks around the value.

## Main definitions

* `Json.numberLiteral?` — the longest number at the start of a text
* `Json.stringBody?` — a string after its opening quote
* `Json.parse?` — the value that a text stands for

## Design notes

**Every reader returns the rest of the text**, so the grammar reads as a list of functions on
`List Char`.  A value inside a value needs at least two more characters, so twice the length of the
text bounds the recursion; `parse?` supplies that bound and shows none.

**Nesting is limited.**  At most 127 arrays and objects may be open at once.

**Doubles are scaled, not searched for.**  A number with a point, an exponent or too many digits
for 64 bits is read by `Decimal.scale?`, so its last digit can differ from that of the nearest
double.  A number too large to be finite makes the text unreadable.
-/

namespace TxRetry.Json

/-- The text after any blanks. -/
def skipBlanks (cs : List Char) : List Char :=
  cs.dropWhile fun c => c = ' ' || c = '\n' || c = '\r' || c = '\t'

/-- The digits of an exponent after its `e`, with its sign. -/
def exponentLiteral? (cs : List Char) : Option (Int × List Char) :=
  let (negative, digits) := splitSign cs
  let power := digits.takeWhile Char.isDigit
  if power.isEmpty then none
  else
    let n : Int := ofDigits power
    some (if negative then -n else n, digits.dropWhile Char.isDigit)

/-- The exponent at the start of a text, zero if there is none. -/
def optionalExponent? : List Char → Option (Int × List Char)
  | c :: rest => if c = 'e' || c = 'E' then exponentLiteral? rest else some (0, c :: rest)
  | [] => some (0, [])

/-- A double, unless it is too large to be finite. -/
def finiteNumber? (negative : Bool) (d : Decimal) : Option Number :=
  d.scale?.map fun x => .float (if negative then -x else x)

/-- A whole number keeps its kind when 64 bits hold it.  Minus zero is a double. -/
def wholeNumber? (negative : Bool) (digits : List Char) : Option Number :=
  let n := ofDigits digits
  if negative then
    if n = 0 || Nat.pow 2 63 < n then finiteNumber? true (.ofLiteral digits [] 0)
    else some (.integer (-(n : Int)))
  else
    if n < UInt64.size then some (.integer n) else finiteNumber? false (.ofLiteral digits [] 0)

/-- A number after its sign. -/
def unsignedLiteral? (negative : Bool) (cs : List Char) : Option (Number × List Char) :=
  let whole := cs.takeWhile Char.isDigit
  let afterWhole := cs.dropWhile Char.isDigit
  if whole.isEmpty || (whole.head? == some '0' && whole != ['0']) then none
  else match afterWhole with
    | '.' :: tail =>
      let fraction := tail.takeWhile Char.isDigit
      if fraction.isEmpty then none
      else match optionalExponent? (tail.dropWhile Char.isDigit) with
        | none => none
        | some (e, rest) => (finiteNumber? negative (.ofLiteral whole fraction e)).map (·, rest)
    | c :: tail =>
      if c = 'e' || c = 'E' then
        match exponentLiteral? tail with
        | none => none
        | some (e, rest) => (finiteNumber? negative (.ofLiteral whole [] e)).map (·, rest)
      else (wholeNumber? negative whole).map (·, c :: tail)
    | [] => (wholeNumber? negative whole).map (·, [])

/-- The **number at the start of a text.** -/
def numberLiteral? : List Char → Option (Number × List Char)
  | '-' :: rest => unsignedLiteral? true rest
  | cs => unsignedLiteral? false cs

/-- The value of a hexadecimal digit. -/
def hexDigit? (c : Char) : Option Nat :=
  if '0' ≤ c && c ≤ '9' then some (c.toNat - '0'.toNat)
  else if 'a' ≤ c && c ≤ 'f' then some (c.toNat - 'a'.toNat + 10)
  else if 'A' ≤ c && c ≤ 'F' then some (c.toNat - 'A'.toNat + 10)
  else none

/-- The code unit that four hexadecimal digits stand for. -/
def codeUnit? (a b c d : Char) : Option Nat := do
  let a ← hexDigit? a
  let b ← hexDigit? b
  let c ← hexDigit? c
  let d ← hexDigit? d
  return ((a * 16 + b) * 16 + c) * 16 + d

/-- The character that a backslash and one more character stand for. -/
def shortEscape? : Char → Option Char
  | '"' => some '"'
  | '\\' => some '\\'
  | '/' => some '/'
  | 'b' => some '\x08'
  | 'f' => some '\x0c'
  | 'n' => some '\n'
  | 'r' => some '\r'
  | 't' => some '\t'
  | _ => none

/-- A character in front of a string that was read. -/
def pushChar (c : Char) : Option (List Char × List Char) → Option (List Char × List Char)
  | some (body, rest) => some (c :: body, rest)
  | none => none

/-- A **string after its opening quote**, up to its closing one.  A high surrogate counts only
together with the low one that follows it. -/
def stringBody? : List Char → Option (List Char × List Char)
  | [] => none
  | '"' :: rest => some ([], rest)
  | '\\' :: 'u' :: a :: b :: c :: d :: rest =>
    match codeUnit? a b c d with
    | none => none
    | some unit =>
      if 0xd800 ≤ unit && unit ≤ 0xdbff then
        match rest with
        | '\\' :: 'u' :: e :: f :: g :: h :: rest =>
          match codeUnit? e f g h with
          | none => none
          | some low =>
            if 0xdc00 ≤ low && low ≤ 0xdfff then
              pushChar (Char.ofNat (0x10000 + (unit - 0xd800) * 0x400 + (low - 0xdc00)))
                (stringBody? rest)
            else none
        | _ => none
      else if 0xdc00 ≤ unit && unit ≤ 0xdfff then none
      else pushChar (Char.ofNat unit) (stringBody? rest)
  | '\\' :: c :: rest =>
    match shortEscape? c with
    | none => none
    | some c => pushChar c (stringBody? rest)
  | c :: rest => if c.toNat < 0x20 then none else pushChar c (stringBody? rest)

/-- The text after a word, if it starts with that word. -/
def dropWord? : List Char → List Char → Option (List Char)
  | [], rest => some rest
  | w :: ws, c :: cs => if w = c then dropWord? ws cs else none
  | _ :: _, [] => none

mutual

/-- The value at the start of a text.  `depth` more arrays and objects may be opened. -/
def value? : Nat → Nat → List Char → Option (Json × List Char)
  | 0, _, _ => none
  | fuel + 1, depth, cs =>
    match skipBlanks cs with
    | [] => none
    | '"' :: rest => (stringBody? rest).map fun (s, rest) => (.string (String.ofList s), rest)
    | '[' :: rest =>
      match depth with
      | 0 => none
      | depth + 1 =>
        match skipBlanks rest with
        | ']' :: rest => some (.array [], rest)
        | rest => (elements? fuel depth rest).map fun (xs, rest) => (.array xs, rest)
    | '\x7b' :: rest =>
      match depth with
      | 0 => none
      | depth + 1 =>
        match skipBlanks rest with
        | '\x7d' :: rest => some (.object [], rest)
        | rest => (members? fuel depth rest).map fun (xs, rest) => (ofMembers xs, rest)
    | 't' :: rest => (dropWord? "rue".toList rest).map (.bool true, ·)
    | 'f' :: rest => (dropWord? "alse".toList rest).map (.bool false, ·)
    | 'n' :: rest => (dropWord? "ull".toList rest).map (.null, ·)
    | cs => (numberLiteral? cs).map fun (n, rest) => (.number n, rest)

/-- The elements of an array, at least one, and its closing bracket. -/
def elements? : Nat → Nat → List Char → Option (List Json × List Char)
  | 0, _, _ => none
  | fuel + 1, depth, cs =>
    match value? fuel depth cs with
    | none => none
    | some (x, rest) =>
      match skipBlanks rest with
      | ',' :: rest => (elements? fuel depth rest).map fun (xs, rest) => (x :: xs, rest)
      | ']' :: rest => some ([x], rest)
      | _ => none

/-- The members of an object, at least one, and its closing brace. -/
def members? : Nat → Nat → List Char → Option (List (String × Json) × List Char)
  | 0, _, _ => none
  | fuel + 1, depth, cs =>
    match skipBlanks cs with
    | '"' :: rest =>
      match stringBody? rest with
      | none => none
      | some (key, rest) =>
        match skipBlanks rest with
        | ':' :: rest =>
          match value? fuel depth rest with
          | none => none
          | some (x, rest) =>
            match skipBlanks rest with
            | ',' :: rest =>
              (members? fuel depth rest).map fun (xs, rest) => ((String.ofList key, x) :: xs, rest)
            | '\x7d' :: rest => some ([(String.ofList key, x)], rest)
            | _ => none
        | _ => none
    | _ => none

end

/-- How many arrays and objects may be open at once. -/
def nestingLimit : Nat := 127

/-- The **value that a text stands for**, if the text is one value and nothing else. -/
def parse? (s : String) : Option Json :=
  let cs := s.toList
  match value? (2 * cs.length + 2) nestingLimit cs with
  | some (v, rest) => if (skipBlanks rest).isEmpty then some v else none
  | none => none

end TxRetry.Json
