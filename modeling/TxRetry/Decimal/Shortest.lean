/-!
# Shortest decimals of a double

A finite double is `m · 2^q`, and the reals that round to it form an interval around it.  Of all
decimals `n · 10^k` in that interval, the ones with the fewest digits are its *shortest* decimals;
the nearest of those is what gets written.  Everything here is exact arithmetic on natural numbers.

## Main definitions

* `Binary` — a finite magnitude `m · 2^q`, read off the bits of a double
* `Interval` — the reals that round to a magnitude, over one common denominator
* `Decimal` — a decimal `digits · 10^exponent`
* `Interval.shortest` — the shortest decimal, nearest first

## Design notes

**One grid at a time.**  A decimal with `d` digits lies on the grid of multiples of `10^(p+1-d)`,
where `10^p ≤ value < 10^(p+1)`.  If any point of a grid lies in the interval, so does one of the
two neighbours of the value on that grid; so looking at the two neighbours for `d = 1, 2, …, 17`
finds the fewest digits.  Seventeen always suffice for a double.

**Ties are a parameter.**  Two neighbours can be equally near.  Output formats differ on which one
they take, so the choice is an argument (`Tie`) and not part of the search.
-/

namespace TxRetry

/-- Which of two equally near candidates is taken: the one with an even last digit, or the larger
one. -/
inductive Tie where
  | even
  | up
  deriving DecidableEq, Repr

/-- A finite magnitude `mantissa · 2^exponent`. -/
structure Binary where
  mantissa : Nat
  exponent : Int
  /-- The double one step below is only half as far away as the one above. -/
  narrowBelow : Bool
  deriving DecidableEq, Repr

/-- The magnitude of a finite double, read off its bits.  Subnormal numbers have no hidden bit; a
power of two above the smallest normal one has a narrower gap below it. -/
def Binary.ofFloat (x : Float) : Binary :=
  let bits : Nat := x.toBits.toNat
  let fraction : Nat := bits % Nat.pow 2 52
  let biased : Nat := bits / Nat.pow 2 52 % 2048
  if biased = 0 then ⟨fraction, -1074, false⟩
  else ⟨Nat.pow 2 52 + fraction, (biased : Int) - 1075, fraction == 0 && 1 < biased⟩

/-- Whether the sign bit is set; true of `-0.0` as well. -/
def signBit (x : Float) : Bool :=
  x.toBits.toNat / Nat.pow 2 63 % 2 == 1

/-- A decimal `digits · 10^exponent`. -/
structure Decimal where
  digits : Nat
  exponent : Int
  deriving DecidableEq, Repr

/-- The reals that round to `value / den`: those between `low / den` and `high / den`, the ends
included when `closed`. -/
structure Interval where
  low : Nat
  value : Nat
  high : Nat
  den : Nat
  closed : Bool
  deriving DecidableEq, Repr

namespace Interval

/-- The interval of a magnitude, in quarters of a unit in the last place: half a unit above, and
half of the gap below.  An end rounds to the value exactly when the mantissa is even. -/
def ofBinary (b : Binary) : Interval :=
  let low := 4 * b.mantissa - (if b.narrowBelow then 1 else 2)
  let value := 4 * b.mantissa
  let high := 4 * b.mantissa + 2
  let closed := b.mantissa % 2 == 0
  if 2 ≤ b.exponent then
    let scale := Nat.pow 2 (b.exponent - 2).toNat
    ⟨low * scale, value * scale, high * scale, 1, closed⟩
  else
    ⟨low, value, high, Nat.pow 2 (2 - b.exponent).toNat, closed⟩

/-- Whether `n / unit` lies in the interval, both over the interval's denominator. -/
def covers (i : Interval) (n : Nat) : Bool :=
  if i.closed then i.low ≤ n && n ≤ i.high else i.low < n && n < i.high

/-- The same interval measured in units of `10^k`. -/
def inUnitsOf (i : Interval) (k : Int) : Interval :=
  if 0 ≤ k then { i with den := i.den * Nat.pow 10 k.toNat }
  else
    let scale := Nat.pow 10 (-k).toNat
    { i with low := i.low * scale, value := i.value * scale, high := i.high * scale }

/-- The **nearest grid point inside**: of the two multiples of `10^k` next to the value, the nearer
one that lies in the interval. -/
def nearest? (i : Interval) (k : Int) (tie : Tie) : Option Nat :=
  let j := i.inUnitsOf k
  let below := j.value / j.den
  let above := below + 1
  let gapBelow := j.value - below * j.den
  let gapAbove := above * j.den - j.value
  match j.covers (below * j.den), j.covers (above * j.den) with
  | false, false => none
  | true, false => some below
  | false, true => some above
  | true, true =>
    if gapBelow < gapAbove then some below
    else if gapAbove < gapBelow then some above
    else match tie with
      | .up => some above
      | .even => if below % 2 = 0 then some below else some above

/-- The `p` with `10^p ≤ value < 10^(p+1)`, for a value above `10^(-400)`. -/
def magnitude (i : Interval) : Int :=
  ((Nat.toDigits 10 (i.value * Nat.pow 10 400 / i.den)).length : Int) - 401

/-- The **shortest decimal** in the interval, nearest to the value among those with the fewest
digits. -/
def shortest (i : Interval) (tie : Tie) : Decimal :=
  let p := i.magnitude
  let candidate? := (List.range 18).findSome? fun (d : Nat) =>
    (i.nearest? (p - (d : Int)) tie).map fun n => Decimal.mk n (p - (d : Int))
  candidate?.getD ⟨0, 0⟩

end Interval

namespace Decimal

/-- Digits without trailing zeros, the removed ones counted in the exponent. -/
def trimDigits : List Char → Int → List Char × Int
  | [], k => ([], k)
  | c :: rest, k => if c = '0' then trimDigits rest (k + 1) else (c :: rest, k)

/-- The digits of a decimal without trailing zeros, and the position of the decimal point counted
from their start: `(['1', '5'], 3)` stands for `150`. -/
def pointed (d : Decimal) : List Char × Int :=
  let (reversed, k) := trimDigits (Nat.toDigits 10 d.digits).reverse d.exponent
  (reversed.reverse, k + reversed.length)

end Decimal

end TxRetry
