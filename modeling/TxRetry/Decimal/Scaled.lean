import TxRetry.Decimal.Reading
import TxRetry.Decimal.Shortest

/-!
# Doubles by one power of ten

The double of a number inside a JSON document is computed in three rounded steps and not searched
for: as many digits as 64 bits hold make a whole number, that number becomes a double, and one
product or quotient with a power of ten puts the point in its place.

## Main definitions

* `appendDigits` — digits written behind a number, as long as 64 bits hold it
* `Decimal.ofLiteral` — the decimal that stands for the digits around a point
* `Decimal.scale?` — the double of a decimal by one product or quotient

## Design notes

**The result can miss the nearest double.**  Below `2^53` with at most 22 places both operands are
exact, so one rounding remains and the result is the nearest double.  With more digits the whole
number is rounded first, and the last digit of the result may be off: `9007199254740993.0` reads as
`9007199254740994`.  A reader that always gives the nearest double is `nearestFloat`.

**A point counts as digits.**  `0.10` and `0.1` have different whole numbers under different powers
of ten, and so do `5` and `5.0`.
-/

namespace TxRetry

/-- **Digits behind a number**, as long as it stays below `2^64`, and how many digits are left out.
The first digit that does not fit leaves out all that follow. -/
def appendDigits (n : Nat) : List Char → Nat × Nat
  | [] => (n, 0)
  | c :: rest =>
    let longer := 10 * n + (c.toNat - '0'.toNat)
    if longer < UInt64.size then appendDigits longer rest else (n, rest.length + 1)

/-- The power of ten `10^n` as a double, for `n` up to 308. -/
def powerOfTen (n : Nat) : Float := Float.ofScientific 1 false n

namespace Decimal

/-- The **decimal of a literal**: its digits before the point, those after it, and its exponent.  A
digit that is left out before the point raises the exponent by one, and a digit that is used after
the point lowers it by one. -/
def ofLiteral (whole fraction : List Char) (exponent : Int) : Decimal :=
  let (n, wholeLeft) := appendDigits 0 whole
  let (digits, fractionLeft) := appendDigits n fraction
  ⟨digits, exponent + wholeLeft - (fraction.length - fractionLeft : Nat)⟩

/-- The **double of a decimal by one product or quotient**; nothing if it is too large to be finite.
A quotient by more than `10^308` is taken in two steps, and below `10^(-616)` nothing is left of a
number that 64 bits hold. -/
def scale? (d : Decimal) : Option Float :=
  let x := Float.ofNat d.digits
  if d.digits = 0 then some 0
  else if 308 < d.exponent then none
  else if 0 ≤ d.exponent then
    let y := x * powerOfTen d.exponent.toNat
    if y.isInf then none else some y
  else if -308 ≤ d.exponent then some (x / powerOfTen (-d.exponent).toNat)
  else if -616 ≤ d.exponent then
    some (x / powerOfTen 308 / powerOfTen (-d.exponent - 308).toNat)
  else some 0

end Decimal

end TxRetry
