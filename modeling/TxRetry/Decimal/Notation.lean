import TxRetry.Decimal.Shortest

/-!
# Notations for doubles

The text of a double: its shortest decimal, laid out by one of the notations the library writes.
They differ in four decisions only, so a notation is a record of them.

## Main definitions

* `FloatNotation` — the decisions of a notation
* `FloatNotation.positional` — costs and budgets in messages: never an exponent, no `.0`
* `FloatNotation.json` — numbers inside JSON texts
* `FloatNotation.exact` — numbers inside a configuration's description
* `FloatNotation.render` — the text of a double
-/

namespace TxRetry

/-- The decisions of a notation. -/
structure FloatNotation where
  /-- Which of two equally near shortest decimals is written. -/
  tie : Tie
  /-- The powers of ten, first and last, written positionally; outside them an exponent is used.
  `none` means that every number is written positionally. -/
  plainPowers : Option (Int × Int)
  /-- Whether a whole number written positionally ends in `.0`. -/
  wholeMark : Bool
  /-- Whether a positive exponent has a sign. -/
  plusSign : Bool
  deriving Repr

namespace FloatNotation

/-- Never an exponent and no mark on whole numbers: `0.0000001`, `100`, `inf`. -/
def positional : FloatNotation := ⟨.up, none, false, false⟩

/-- Positional from `1e-5` up to below `1e16`, with a mark on whole numbers: `1.0`, `0.00001`,
`1e-6`, `1.5e+300`. -/
def json : FloatNotation := ⟨.even, some (-5, 15), true, true⟩

/-- Positional from `1e-4` up to below `1e16`, with a mark on whole numbers: `20.0`, `1e16`. -/
def exact : FloatNotation := ⟨.up, some (-4, 15), true, false⟩

/-- Digits with the decimal point at a position counted from their start, padded with zeros. -/
def placePoint (wholeMark : Bool) (digits : List Char) (point : Int) : List Char :=
  if point ≤ 0 then
    '0' :: '.' :: (List.replicate (-point).toNat '0' ++ digits)
  else
    let whole := digits.take point.toNat
    let padded := whole ++ List.replicate (point.toNat - whole.length) '0'
    match digits.drop point.toNat with
    | [] => if wholeMark then padded ++ ['.', '0'] else padded
    | fraction => padded ++ '.' :: fraction

/-- One digit, the others after a point, and the power of ten. -/
def withExponent (plusSign : Bool) (digits : List Char) (power : Int) : List Char :=
  let mantissa := match digits with
    | [] => ['0']
    | [d] => [d]
    | d :: rest => d :: '.' :: rest
  let sign := if 0 ≤ power && plusSign then "+" else ""
  mantissa ++ 'e' :: (sign ++ toString power).toList

/-- The text of a finite magnitude. -/
def magnitudeText (n : FloatNotation) (x : Float) : List Char :=
  let b := Binary.ofFloat x
  if b.mantissa = 0 then
    if n.wholeMark then ['0', '.', '0'] else ['0']
  else
    let (digits, point) := ((Interval.ofBinary b).shortest n.tie).pointed
    match n.plainPowers with
    | none => placePoint n.wholeMark digits point
    | some (first, last) =>
      if first ≤ point - 1 && point - 1 ≤ last then placePoint n.wholeMark digits point
      else withExponent n.plusSign digits (point - 1)

/-- The **text of a double** in a notation.  Minus zero keeps its sign. -/
def render (n : FloatNotation) (x : Float) : String :=
  if x.isNaN then "NaN"
  else
    let magnitude := if x.isInf then ['i', 'n', 'f'] else n.magnitudeText x
    String.ofList (if signBit x then '-' :: magnitude else magnitude)

end FloatNotation

end TxRetry
