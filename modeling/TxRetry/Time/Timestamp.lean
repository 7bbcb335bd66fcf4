/-!
# Timestamps

Points of civil time in UTC, and the two forms in which they leave the library: the RFC 3339 text
of log records, and the number of microseconds that the database stores.

## Main definitions

* `Timestamp` — seconds since 1970-01-01T00:00:00Z and nanoseconds within the second
* `Timestamp.text` — the RFC 3339 text
* `Timestamp.storedMicros` — microseconds since 2000-01-01T00:00:00Z

## Design notes

**Leap seconds** are nanosecond counts from `10^9` up: the second before them goes on, and the text
shows it as second 60.
-/

namespace TxRetry

/-- A point of time in UTC.  `nanos` below `10^9` is a fraction of the second; from there on it is
a leap second. -/
structure Timestamp where
  secs : Int
  nanos : Nat
  deriving DecidableEq, Repr

namespace Timestamp

/-- Year, month and day of a day counted from 1970-01-01, in the Gregorian calendar extended to all
days.  Years are reckoned from March, so that the leap day is the last of its year. -/
def civil (day : Int) : Int × Nat × Nat :=
  let shifted := day + 719468
  let era := shifted.fdiv 146097
  let dayOfEra := (shifted.fmod 146097).toNat
  let yearOfEra :=
    (dayOfEra - dayOfEra / 1460 + dayOfEra / 36524 - dayOfEra / 146096) / 365
  let dayOfYear := dayOfEra - (365 * yearOfEra + yearOfEra / 4 - yearOfEra / 100)
  let marchMonth := (5 * dayOfYear + 2) / 153
  let dayOfMonth := dayOfYear - (153 * marchMonth + 2) / 5 + 1
  let month := if marchMonth < 10 then marchMonth + 3 else marchMonth - 9
  let year := (yearOfEra : Int) + era * 400 + (if month ≤ 2 then 1 else 0)
  (year, month, dayOfMonth)

/-- A number in at least `width` digits. -/
def padded (width n : Nat) : String :=
  let digits := Nat.toDigits 10 n
  String.ofList (List.replicate (width - digits.length) '0' ++ digits)

/-- Four digits for the years 0 to 9999; any other year has a sign and at least four digits. -/
def yearText (year : Int) : String :=
  if year < 0 then "-" ++ padded 4 year.natAbs
  else if year ≤ 9999 then padded 4 year.toNat
  else "+" ++ padded 4 year.toNat

/-- The fraction of a second in the fewest of 0, 3, 6 and 9 digits that are exact. -/
def fractionText (nanos : Nat) : String :=
  if nanos = 0 then ""
  else if nanos % 1000000 = 0 then "." ++ padded 3 (nanos / 1000000)
  else if nanos % 1000 = 0 then "." ++ padded 6 (nanos / 1000)
  else "." ++ padded 9 nanos

/-- The **RFC 3339 text**, with the offset of UTC. -/
def text (t : Timestamp) : String :=
  let (year, month, day) := civil (t.secs.fdiv 86400)
  let second := (t.secs.fmod 86400).toNat
  let leap := t.nanos / 1000000000
  yearText year ++ "-" ++ padded 2 month ++ "-" ++ padded 2 day ++ "T"
    ++ padded 2 (second / 3600) ++ ":" ++ padded 2 (second / 60 % 60) ++ ":"
    ++ padded 2 (second % 60 + leap) ++ fractionText (t.nanos % 1000000000) ++ "+00:00"

/-- Microseconds **since the start of the year 2000**, truncated toward zero. -/
def storedMicros (t : Timestamp) : Int :=
  ((t.secs - 946684800) * 1000000000 + t.nanos).tdiv 1000

end Timestamp

end TxRetry
