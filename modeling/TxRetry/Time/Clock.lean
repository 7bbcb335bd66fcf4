import TxRetry.Decimal.Notation

/-!
# Durations and instants

Lengths of time and points of time, both counted in whole nanoseconds.  An instant is counted from
an arbitrary base, so only differences of instants mean anything.

## Main definitions

* `Duration`, with `saturatingAdd`, `ceilMillis` and `text`
* `Duration.ofSeconds?` — a number of seconds to the nearest nanosecond
* `Instant`, with `later?` — the instant a duration from now, if a clock can hold it — and
  `remainingAt`

## Design notes

**Bounds are where they bite.**  Durations and instants are unbounded numbers.  The largest
duration matters in exactly two places, reading a number of seconds and `saturatingAdd`; the
largest instant in one, `later?`.
-/

namespace TxRetry

/-- A length of time in nanoseconds. -/
structure Duration where
  nanos : Nat
  deriving DecidableEq, Repr, Inhabited

/-- A point of time, in nanoseconds since a fixed base. -/
structure Instant where
  nanos : Nat
  deriving DecidableEq, Repr, Inhabited

namespace Duration

/-- Whole seconds and a remainder in nanoseconds. -/
def ofParts (secs nanos : Nat) : Duration := ⟨secs * 1000000000 + nanos⟩

def ofSecs (secs : Nat) : Duration := ofParts secs 0

def ofMillis (millis : Nat) : Duration := ⟨millis * 1000000⟩

/-- The whole seconds of a duration. -/
def secs (d : Duration) : Nat := d.nanos / 1000000000

/-- What is left of a duration beside its whole seconds. -/
def subsecNanos (d : Duration) : Nat := d.nanos % 1000000000

/-- The longest duration that can be represented: 64 bits of whole seconds. -/
def longest : Duration := ofParts (UInt64.size - 1) 999999999

/-- Two durations one after the other, at most the longest one. -/
def saturatingAdd (a b : Duration) : Duration := ⟨min (a.nanos + b.nanos) longest.nanos⟩

/-- Milliseconds, **rounded up.** -/
def ceilMillis (d : Duration) : Nat := (d.nanos + 999999) / 1000000

/-- What is wrong with a number of seconds. -/
inductive SecondsDefect where
  | negative
  | tooLong
  deriving DecidableEq, Repr

/-- The wording of a bad number of seconds. -/
def SecondsDefect.message : SecondsDefect → String
  | .negative => "cannot convert float seconds to Duration: value is negative"
  | .tooLong => "cannot convert float seconds to Duration: value is either too big or NaN"

/-- A quotient rounded to the nearest whole number, a half going to the even neighbour. -/
def roundHalfEven (num den : Nat) : Nat :=
  let below := num / den
  let twice := 2 * (num % den)
  if twice < den then below
  else if den < twice then below + 1
  else if below % 2 = 0 then below else below + 1

/-- A **number of seconds, to the nearest nanosecond.**  A half goes to the even neighbour; what
does not fit below `2^64` seconds is refused, and so is any number below zero. -/
def ofSeconds? (x : Float) : Except SecondsDefect Duration :=
  if x < 0 then .error .negative
  else if !(x < 18446744073709551616) then .error .tooLong
  else
    let b := Binary.ofFloat x
    if 0 ≤ b.exponent then .ok ⟨b.mantissa * Nat.pow 2 b.exponent.toNat * 1000000000⟩
    else .ok ⟨roundHalfEven (b.mantissa * 1000000000) (Nat.pow 2 (-b.exponent).toNat)⟩

/-- A whole number of units and a fraction of one in `places` decimal places, without trailing
zeros. -/
def withFraction (whole fraction places : Nat) : String :=
  let digits := Nat.toDigits 10 fraction
  let padded := List.replicate (places - digits.length) '0' ++ digits
  let kept := (padded.reverse.dropWhile (· == '0')).reverse
  String.ofList (Nat.toDigits 10 whole ++ (if kept.isEmpty then [] else '.' :: kept))

/-- The text of a duration, in the largest unit of which it holds at least one. -/
def text (d : Duration) : String :=
  if 1000000000 ≤ d.nanos then withFraction d.secs d.subsecNanos 9 ++ "s"
  else if 1000000 ≤ d.nanos then withFraction (d.nanos / 1000000) (d.nanos % 1000000) 6 ++ "ms"
  else if 1000 ≤ d.nanos then withFraction (d.nanos / 1000) (d.nanos % 1000) 3 ++ "µs"
  else withFraction d.nanos 0 0 ++ "ns"

end Duration

namespace Instant

instance : LE Instant := ⟨fun a b => a.nanos ≤ b.nanos⟩

instance (a b : Instant) : Decidable (a ≤ b) := inferInstanceAs (Decidable (a.nanos ≤ b.nanos))

/-- The base from which instants are counted. -/
def base : Instant := ⟨0⟩

/-- The instant a duration later. -/
def after (t : Instant) (d : Duration) : Instant := ⟨t.nanos + d.nanos⟩

/-- The whole seconds that a clock can count, 63 bits of them. -/
def lastSecond : Nat := Nat.pow 2 63 - 1

/-- The instant a duration later, if a clock can hold it. -/
def later? (t : Instant) (d : Duration) : Option Instant :=
  if (t.nanos + d.nanos) / 1000000000 ≤ lastSecond then some (t.after d) else none

/-- The time left until `t` at the instant `now`; zero once `t` has passed. -/
def remainingAt (t now : Instant) : Duration := ⟨t.nanos - now.nanos⟩

end Instant

end TxRetry
