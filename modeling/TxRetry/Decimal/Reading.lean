/-!
# Reading decimals

The double nearest to a decimal, and the spellings under which a number is accepted from outside a
JSON document.

## Main definitions

* `nearestFloat` — the double nearest to `digits · 10^exponent`
* `readFloat?` — a number as an operator writes it: `1.5`, `.5`, `5.`, `1e-3`, `inf`
* `readUnsigned?` — a whole number below a bound
-/

namespace TxRetry

/-- The **double nearest to `digits · 10^exponent`**; infinite beyond the largest double.  Decimals
far outside the range of doubles are decided by their size alone. -/
def nearestFloat (digits : Nat) (exponent : Int) : Float :=
  if digits = 0 then 0
  else
    let power := ((Nat.toDigits 10 digits).length : Int) + exponent
    if 400 < power then 1 / 0
    else if power < -400 then 0
    else if 0 ≤ exponent then Float.ofScientific digits false exponent.toNat
    else Float.ofScientific digits true (-exponent).toNat

/-- The whole number that a list of decimal digits stands for. -/
def ofDigits (digits : List Char) : Nat :=
  digits.foldl (fun n c => 10 * n + (c.toNat - '0'.toNat)) 0

/-- A sign in front of a number, if there is one, and what follows; true is minus. -/
def splitSign : List Char → Bool × List Char
  | '-' :: rest => (true, rest)
  | '+' :: rest => (false, rest)
  | rest => (false, rest)

/-- The exponent part of a number: nothing, or `e`, a sign and at least one digit. -/
def readExponent? : List Char → Option Int
  | [] => some 0
  | c :: rest =>
    if c = 'e' || c = 'E' then
      let (negative, digits) := splitSign rest
      if digits.isEmpty || !digits.all Char.isDigit then none
      else some (if negative then -(ofDigits digits : Int) else ofDigits digits)
    else none

/-- A number without its sign: digits with a point anywhere among them, at least one digit, and an
exponent part. -/
def readMagnitude? (cs : List Char) : Option Float :=
  let whole := cs.takeWhile Char.isDigit
  let afterWhole := cs.dropWhile Char.isDigit
  let (fraction, rest) := match afterWhole with
    | '.' :: tail => (tail.takeWhile Char.isDigit, tail.dropWhile Char.isDigit)
    | _ => ([], afterWhole)
  if whole.isEmpty && fraction.isEmpty then none
  else (readExponent? rest).map fun e =>
    nearestFloat (ofDigits (whole ++ fraction)) (e - fraction.length)

/-- A **number as an operator writes it**: an optional sign, then a decimal, or the words `inf`,
`infinity` and `nan` in any letter case. -/
def readFloat? (s : String) : Option Float :=
  let (negative, magnitude) := splitSign s.toList
  let word := String.ofList (magnitude.map Char.toLower)
  let value? :=
    if word = "inf" || word = "infinity" then some (1 / 0)
    else if word = "nan" then some (0 / 0)
    else readMagnitude? magnitude
  value?.map fun x => if negative then -x else x

/-- A **whole number below a bound**: an optional plus sign and at least one digit. -/
def readUnsigned? (bound : Nat) (s : String) : Option Nat :=
  let digits := match s.toList with
    | '+' :: rest => rest
    | cs => cs
  if digits.isEmpty || !digits.all Char.isDigit then none
  else if ofDigits digits < bound then some (ofDigits digits) else none

end TxRetry
