import Mathlib.Data.Rat.Floor
import TxRetry.Proofs.Setup.Limit

/-!
# The limit is exact

The limit that a transaction sets for its statements is computed with two bounds, the longest length
of time and the longest limit that the server takes, and is rounded up to whole milliseconds.  This
module compares it with the number that the rules say, computed without either rounding or the first
bound on the way.

## Main definitions

* `exactTime` — the time that is left, with the grace, as a rational number of milliseconds
* `exactLimit` — the limit that the rules say

## Main statements

* `statementTimeout_eq_exactLimit` — the limit is the exact one
* `exactLimit_eq_ceil`, `exactLimit_eq_longest` — up to the longest limit it is the time, rounded up by
  less than one millisecond, and beyond that it is the longest one
* `exactLimit_mono` — more time does not make the limit shorter

## Design notes

**Negative time counts as none.**  The time that is left is a difference of rational numbers here, so
that a deadline in the past has to be cut off, where the instants themselves cannot go below zero.
-/

namespace TxRetry

/-! ### Without the longest length of time -/

/-- **The longest length of time is never seen**: a limit is the same without it. -/
theorem statementTimeout_eq_min (remaining grace : Duration) :
    statementTimeout remaining grace =
      min (Duration.ceilMillis ⟨remaining.nanos + grace.nanos⟩) longestStatementTimeout := by
  -- The longest length of time has far more milliseconds than the longest limit.
  have longest : Duration.longest.nanos = 18446744073709551615999999999 := rfl
  have cap : longestStatementTimeout = 2147483647 := rfl
  simp only [statementTimeout, Duration.saturatingAdd, Duration.ceilMillis, longest, cap]
  omega

/-! ### Whole milliseconds -/

/-- Rounding up in whole numbers is rounding up the quotient. -/
theorem Duration.ceilMillis_eq_ceil (d : Duration) : d.ceilMillis = ⌈(d.nanos : ℚ) / 1000000⌉₊ := by
  refine eq_of_forall_ge_iff fun n => ?_
  have million : (0 : ℚ) < 1000000 := by norm_num
  rw [Nat.ceil_le, div_le_iff₀ million, Duration.ceilMillis]
  norm_cast
  omega

/-- The **time that is left** until a deadline, with the grace, in milliseconds. -/
def exactTime (deadline now : Instant) (grace : Duration) : ℚ :=
  (max ((deadline.nanos : ℚ) - now.nanos) 0 + grace.nanos) / 1000000

/-- The **limit that the rules say**, in milliseconds: the time that is left, rounded up, and at most
the longest limit. -/
def exactLimit (deadline now : Instant) (grace : Duration) : ℕ :=
  min ⌈exactTime deadline now grace⌉₊ 2147483647

section Exact

variable {deadline deadline' now now' : Instant} {grace grace' : Duration}

/-- What is left of an instant is the difference, unless that is negative. -/
theorem Instant.remainingAt_eq_max (deadline now : Instant) :
    ((deadline.remainingAt now).nanos : ℚ) = max ((deadline.nanos : ℚ) - now.nanos) 0 := by
  rw [remainingAt]
  rcases Nat.le_total deadline.nanos now.nanos with past | pending
  · have negative : (deadline.nanos : ℚ) - now.nanos ≤ 0 := sub_nonpos.mpr (Nat.cast_le.mpr past)
    rw [Nat.sub_eq_zero_of_le past, max_eq_right negative, Nat.cast_zero]
  · have positive : 0 ≤ (deadline.nanos : ℚ) - now.nanos := sub_nonneg.mpr (Nat.cast_le.mpr pending)
    rw [Nat.cast_sub pending, max_eq_left positive]

/-- **The limit is the exact one.** -/
theorem statementTimeout_eq_exactLimit (deadline now : Instant) (grace : Duration) :
    statementTimeout (deadline.remainingAt now) grace = exactLimit deadline now grace := by
  rw [statementTimeout_eq_min, Duration.ceilMillis_eq_ceil, Nat.cast_add,
    Instant.remainingAt_eq_max]
  rfl

/-- Up to the longest limit, the limit is the time that is left, **rounded up.** -/
theorem exactLimit_eq_ceil (within : exactTime deadline now grace ≤ 2147483647) :
    exactLimit deadline now grace = ⌈exactTime deadline now grace⌉₊ :=
  min_eq_left (Nat.ceil_le.mpr within)

/-- Beyond, it is the longest limit. -/
theorem exactLimit_eq_longest (beyond : 2147483647 ≤ exactTime deadline now grace) :
    exactLimit deadline now grace = 2147483647 := by
  refine min_eq_right ?_
  have ceil := beyond.trans (Nat.le_ceil (exactTime deadline now grace))
  exact_mod_cast ceil

/-- Time that is left is not negative. -/
theorem exactTime_nonneg (deadline now : Instant) (grace : Duration) :
    0 ≤ exactTime deadline now grace := by
  unfold exactTime
  positivity

/-- A later deadline, an earlier moment and a longer grace leave **no less time.** -/
theorem exactTime_mono (later : deadline ≤ deadline') (earlier : now' ≤ now)
    (longer : grace.nanos ≤ grace'.nanos) :
    exactTime deadline now grace ≤ exactTime deadline' now' grace' := by
  have deadlines : (deadline.nanos : ℚ) ≤ deadline'.nanos := Nat.cast_le.mpr later
  have moments : (now'.nanos : ℚ) ≤ now.nanos := Nat.cast_le.mpr earlier
  have graces : (grace.nanos : ℚ) ≤ grace'.nanos := Nat.cast_le.mpr longer
  unfold exactTime
  gcongr

/-- So they do not make **the limit shorter.** -/
theorem exactLimit_mono (later : deadline ≤ deadline') (earlier : now' ≤ now)
    (longer : grace.nanos ≤ grace'.nanos) :
    exactLimit deadline now grace ≤ exactLimit deadline' now' grace' :=
  min_le_min_right _ (Nat.ceil_mono (exactTime_mono later earlier longer))

end Exact

/-- A deadline in one and a half milliseconds and a grace of one nanosecond make two milliseconds. -/
example : exactLimit ⟨1500000⟩ ⟨0⟩ ⟨1⟩ = 2 := by
  rw [← statementTimeout_eq_exactLimit]
  decide

end TxRetry
