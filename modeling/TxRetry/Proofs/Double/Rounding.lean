import Mathlib

/-!
# The rounding of doubles

A double is a whole number of **least doubles**, which is what the smallest positive double is
called here: its mantissa, doubled once for every step of its exponent above the smallest.  On this
scale rounding is a function from natural numbers to natural numbers, and it keeps their order.
That is what the laws of addition rest on.

## Main definitions

* `nearest` — a number divided by a power of two and rounded
* `rounded` — a number of least doubles, rounded to a double
* `magnitude` — the number of least doubles that a mantissa and an exponent stand for
* `Canonical` — the mantissas and exponents that doubles have

## Main statements

* `rounded_mono` — rounding keeps the order
* `Canonical.rounded_eq` — doubles are not rounded
* `round_eq` — the rounding of mantissas and exponents is `rounded`
* `unpack_pack` — a rounded number is kept by its bits, or it is too large for them

## Design notes

**Rounding is shifting.**  Each shift by one digit keeps two bits of what is lost: the digit right
behind the mantissa, and whether anything follows.  The `position` of a mantissa reads these bits as
two more digits, so that a shift becomes arithmetic.
-/

namespace TxRetry.Double

open Float.Model Float.Model.UnpackedFloat

/-! ### Division by powers of two -/

/-- A mantissa and the two bits behind it as one number, which is larger for larger mantissas. -/
def position (em : ExtendedMantissa) : ℕ :=
  4 * em.mantissa + 2 * em.roundBit.toNat + em.stickyBit.toNat

theorem position_shiftRightOne (em : ExtendedMantissa) :
    position em.shiftRightOne = 2 * (position em / 4) + min 1 (position em % 4) := by
  obtain ⟨m, r, s⟩ := em
  rcases Nat.mod_two_eq_zero_or_one m with even | odd <;>
    cases r <;> cases s <;> simp [position, ExtendedMantissa.shiftRightOne, *] <;> omega

/-- Ties go to the even mantissa. -/
theorem roundedMantissa_eq (em : ExtendedMantissa) :
    em.roundedMantissa = position em / 4 +
      if position em % 4 = 3 then 1
      else if position em % 4 = 2 then position em / 4 % 2 else 0 := by
  obtain ⟨m, r, s⟩ := em
  have quotient : (4 * m + 2 * r.toNat + s.toNat) / 4 = m := by
    cases r <;> cases s <;> simp only [Bool.toNat_true, Bool.toNat_false] <;> omega
  have rest : (4 * m + 2 * r.toNat + s.toNat) % 4 = 2 * r.toNat + s.toNat := by
    cases r <;> cases s <;> simp only [Bool.toNat_true, Bool.toNat_false] <;> omega
  rw [position, quotient, rest]
  cases r <;> cases s <;> rfl

/-- A number **divided by `2^k`**, rounded to the nearest whole number and in a tie to the even one. -/
def nearest (k n : ℕ) : ℕ :=
  (ExtendedMantissa.ofMantissaAndAccuracy n .exact >>> k).roundedMantissa

theorem shiftRight_succ (em : ExtendedMantissa) (k : ℕ) :
    em >>> (k + 1) = (em >>> k).shiftRightOne := rfl

theorem shiftRight_add (em : ExtendedMantissa) (j k : ℕ) : em >>> (j + k) = (em >>> j) >>> k := by
  induction k with
  | zero => rfl
  | succ k ih => rw [← Nat.add_assoc, shiftRight_succ, shiftRight_succ, ih]

theorem position_shiftRight_mono {em em' : ExtendedMantissa} (le : position em ≤ position em')
    (k : ℕ) : position (em >>> k) ≤ position (em' >>> k) := by
  induction k with
  | zero => exact le
  | succ k ih =>
      rw [shiftRight_succ, shiftRight_succ, position_shiftRightOne, position_shiftRightOne]
      omega

theorem nearest_mono (k : ℕ) : Monotone (nearest k) := by
  intro m n le
  have ordered : position (ExtendedMantissa.ofMantissaAndAccuracy m .exact) ≤
      position (ExtendedMantissa.ofMantissaAndAccuracy n .exact) := by
    simpa [position, ExtendedMantissa.ofMantissaAndAccuracy] using le
  have shifted := position_shiftRight_mono ordered k
  rw [nearest, nearest, roundedMantissa_eq, roundedMantissa_eq]
  split_ifs <;> omega

/-- Shifting zeros out loses nothing. -/
theorem exact_shiftRight (k n : ℕ) :
    ExtendedMantissa.ofMantissaAndAccuracy (n * 2 ^ k) .exact >>> k =
      ExtendedMantissa.ofMantissaAndAccuracy n .exact := by
  induction k generalizing n with
  | zero =>
      rw [pow_zero, mul_one]
      rfl
  | succ k ih =>
      have doubled : n * 2 ^ (k + 1) = n * 2 * 2 ^ k := by ring
      rw [doubled, shiftRight_succ, ih]
      simp [ExtendedMantissa.ofMantissaAndAccuracy, ExtendedMantissa.shiftRightOne]

theorem nearest_mul_two_pow (k n : ℕ) : nearest k (n * 2 ^ k) = n := by
  rw [nearest, exact_shiftRight]
  rfl

theorem nearest_add (j k n : ℕ) : nearest (j + k) (n * 2 ^ j) = nearest k n := by
  rw [nearest, shiftRight_add, exact_shiftRight]
  rfl

theorem nearest_zero (n : ℕ) : nearest 0 n = n := by
  simpa using nearest_mul_two_pow 0 n

/-! ### Rounding to doubles -/

/-- How many of its last binary digits a number of least doubles loses in a double. -/
def surplus (n : ℕ) : ℕ := n.log2 - 52

/-- A number of least doubles **rounded to a double.** -/
def rounded (n : ℕ) : ℕ := nearest (surplus n) n * 2 ^ surplus n

theorem nearest_le (n : ℕ) : nearest (surplus n) n ≤ 2 ^ 53 := by
  have digits : n < 2 ^ (n.log2 + 1) := Nat.lt_log2_self
  have fits : n ≤ 2 ^ 53 * 2 ^ surplus n := by
    rw [← pow_add]
    exact digits.le.trans (Nat.pow_le_pow_right two_pos (by unfold surplus; omega))
  exact (nearest_mono _ fits).trans (nearest_mul_two_pow _ _).le

theorem le_nearest {n : ℕ} (long : 0 < surplus n) : 2 ^ 52 ≤ nearest (surplus n) n := by
  have digits : n.log2 = 52 + surplus n := by unfold surplus at *; omega
  have filled : 2 ^ 52 * 2 ^ surplus n ≤ n := by
    rw [← pow_add, ← digits]
    exact Nat.log2_self_le (by rintro rfl; simp [surplus] at long)
  exact (nearest_mul_two_pow _ _).symm.le.trans (nearest_mono _ filled)

theorem nearest_pos {n : ℕ} (pos : 0 < n) : 0 < nearest (surplus n) n := by
  rcases Nat.eq_zero_or_pos (surplus n) with short | long
  · rwa [short, nearest_zero]
  · exact (Nat.two_pow_pos 52).trans_le (le_nearest long)

theorem surplus_mono : Monotone surplus := by
  intro m n le
  rw [surplus, surplus, Nat.log2_eq_log_two, Nat.log2_eq_log_two]
  exact Nat.sub_le_sub_right (Nat.log_mono_right le) 52

/-- **Rounding keeps the order.** -/
theorem rounded_mono : Monotone rounded := by
  intro m n le
  rcases (surplus_mono le).eq_or_lt with same | fewer
  · rw [rounded, rounded, same]
    exact Nat.mul_le_mul_right _ (nearest_mono _ le)
  -- Where the digits change, a power of two lies between the numbers, and it is a double.
  · calc
      rounded m ≤ 2 ^ 53 * 2 ^ surplus m := Nat.mul_le_mul_right _ (nearest_le m)
      _ = 2 ^ 52 * 2 ^ (surplus m + 1) := by ring
      _ ≤ 2 ^ 52 * 2 ^ surplus n := Nat.mul_le_mul_left _ (Nat.pow_le_pow_right two_pos fewer)
      _ ≤ rounded n := Nat.mul_le_mul_right _ (le_nearest (by omega))

theorem rounded_pos {n : ℕ} (pos : 0 < n) : 0 < rounded n :=
  Nat.mul_pos (nearest_pos pos) (Nat.two_pow_pos _)

/-! ### Mantissas and exponents -/

/-- **How many least doubles** a mantissa and an exponent stand for. -/
def magnitude (m : ℕ) (e : ℤ) : ℕ := m * 2 ^ (e + 1074).toNat

/-- The mantissas and exponents that **doubles** have, were there no largest exponent. -/
structure Canonical (m : ℕ) (e : ℤ) : Prop where
  least : -1074 ≤ e
  lt : m < 2 ^ 53
  normal : e = -1074 ∨ 2 ^ 52 ≤ m

theorem magnitude_pos {m : ℕ} (e : ℤ) (pos : 0 < m) : 0 < magnitude m e :=
  Nat.mul_pos pos (Nat.two_pow_pos _)

theorem log2_mul_two_pow {m : ℕ} (pos : m ≠ 0) (k : ℕ) : (m * 2 ^ k).log2 = m.log2 + k := by
  induction k with
  | zero => simp
  | succ k ih =>
      have doubled : m * 2 ^ (k + 1) = 2 * (m * 2 ^ k) := by ring
      rw [doubled, Nat.log2_two_mul (by positivity), ih, Nat.add_assoc]

/-- **Doubles are not rounded.** -/
theorem Canonical.rounded_eq {m : ℕ} {e : ℤ} (canonical : Canonical m e) :
    rounded (magnitude m e) = magnitude m e := by
  obtain ⟨least, lt, normal⟩ := canonical
  have exactly : surplus (magnitude m e) = (e + 1074).toNat := by
    unfold surplus magnitude
    rcases Nat.eq_zero_or_pos m with rfl | pos
    · rw [zero_mul, Nat.log2_zero]
      omega
    · have digits : m.log2 < 53 := (Nat.log2_lt pos.ne').mpr lt
      have filled : 2 ^ 52 ≤ m → 52 ≤ m.log2 := (Nat.le_log2 pos.ne').mpr
      rw [log2_mul_two_pow pos.ne']
      omega
  rw [rounded, exactly, magnitude, nearest_mul_two_pow]

/-- Canonical numbers are ordered by their exponents first. -/
theorem magnitude_lt_of_lt {m m' : ℕ} {e e' : ℤ} (canonical : Canonical m e)
    (canonical' : Canonical m' e') (lower : e < e') : magnitude m e < magnitude m' e' := by
  have least : -1074 ≤ e := canonical.least
  have filled : 2 ^ 52 ≤ m' := canonical'.normal.resolve_left (by omega)
  calc
    magnitude m e < 2 ^ 53 * 2 ^ (e + 1074).toNat :=
      Nat.mul_lt_mul_of_pos_right canonical.lt (Nat.two_pow_pos _)
    _ = 2 ^ 52 * 2 ^ ((e + 1074).toNat + 1) := by ring
    _ ≤ 2 ^ 52 * 2 ^ (e' + 1074).toNat :=
      Nat.mul_le_mul_left _ (Nat.pow_le_pow_right two_pos (by omega))
    _ ≤ magnitude m' e' := Nat.mul_le_mul_right _ filled

/-! ### Rounding mantissas and exponents

A mantissa is shifted twice.  The first shift leaves as many digits as a double has.  Rounding these
may make one digit too many, which the second shift takes off again. -/

theorem targetExponent_eq (m : ℕ) (e : ℤ) :
    Format.binary64.targetExponent (totalExponent m e) = max (m.log2 + e - 52) (-1074) := by
  simp only [Format.targetExponent, totalExponent, Format.mantissaBits, Format.minExponent]
  norm_num
  omega

/-- The first shift leaves the digits of `rounded`, **whichever of its many spellings a number
has.** -/
theorem exists_shifted {m : ℕ} {e : ℤ} (pos : 0 < m) (least : -1074 ≤ e) {t : ℤ}
    (target : t = surplus (magnitude m e) - 1074) :
    ∃ em, shiftToTargetExponent .binary64 (decreaseExponent m e t).1 (decreaseExponent m e t).2
        .exact = (em, t) ∧
      em.roundedMantissa = nearest (surplus (magnitude m e)) (magnitude m e) := by
  have digits : (surplus (magnitude m e) : ℤ) = max (m.log2 + e + 1022) 0 := by
    rw [surplus, magnitude, log2_mul_two_pow pos.ne']
    omega
  have number : magnitude m e = m * 2 ^ (e + 1074).toNat := rfl
  generalize magnitude m e = n at *
  generalize surplus n = k at *
  unfold decreaseExponent shiftToTargetExponent shiftToExponent
  dsimp only
  rw [Nat.shiftLeft_eq, targetExponent_eq, log2_mul_two_pow pos.ne']
  push_cast
  rcases le_total t e with wide | narrow
  · obtain ⟨d, rfl⟩ : ∃ d : ℕ, e = t + d := ⟨(e - t).toNat, by omega⟩
    have widened : (t + d - t).toNat = d := by omega
    have unshifted : (max (m.log2 + d + (t + d - d) - 52) (-1074) - (t + d - d)).toNat = 0 := by
      omega
    rw [widened, unshifted]
    refine ⟨_, Prod.ext rfl (by simp), ?_⟩
    have kept : (t + d + 1074).toNat = d + k := by omega
    rw [number, kept, pow_add, ← mul_assoc, nearest_mul_two_pow]
    exact nearest_zero _
  · obtain ⟨u, rfl⟩ : ∃ u : ℕ, t = e + u := ⟨(t - e).toNat, by omega⟩
    have unwidened : (e - (e + u)).toNat = 0 := by omega
    have shifted : (max (m.log2 + (0 : ℕ) + (e - (0 : ℕ)) - 52) (-1074) - (e - (0 : ℕ))).toNat = u := by
      omega
    rw [unwidened, shifted, pow_zero, mul_one]
    refine ⟨_, Prod.ext rfl (by simp), ?_⟩
    have lost : k = (e + 1074).toNat + u := by omega
    rw [number, lost, nearest_add]
    rfl

/-- The second shift keeps the number. -/
theorem exists_settled {r : ℕ} {e : ℤ} (le : r ≤ 2 ^ 53) (least : -1074 ≤ e)
    (normal : e = -1074 ∨ 2 ^ 52 ≤ r) :
    ∃ m e', shiftToTargetExponent .binary64 r e .exact = (.ofMantissaAndAccuracy m .exact, e') ∧
      Canonical m e' ∧ magnitude m e' = magnitude r e := by
  unfold shiftToTargetExponent shiftToExponent
  dsimp only
  rw [targetExponent_eq]
  rcases le.lt_or_eq with lt | rfl
  · have digits : r.log2 ≤ 52 := by
      rcases Nat.eq_zero_or_pos r with rfl | pos
      · simp
      · exact Nat.lt_succ_iff.mp ((Nat.log2_lt pos.ne').mpr lt)
    have none : (max (r.log2 + e - 52) (-1074) - e).toNat = 0 := by omega
    rw [none, Int.natCast_zero, add_zero]
    exact ⟨r, e, rfl, ⟨least, lt, normal⟩, rfl⟩
  · have one : (max ((2 ^ 53 : ℕ).log2 + e - 52) (-1074) - e).toNat = 1 := by
      rw [Nat.log2_two_pow]
      omega
    have higher : (e + 1 + 1074).toNat = (e + 1074).toNat + 1 := by omega
    rw [one]
    refine ⟨2 ^ 52, e + 1, rfl, ⟨by omega, by norm_num, .inr le_rfl⟩, ?_⟩
    rw [magnitude, magnitude, higher]
    ring

/-- **Rounding a mantissa and an exponent** rounds the number that they stand for. -/
theorem round_eq {m : ℕ} {e : ℤ} (s : Sign) (pos : 0 < m) (least : -1074 ≤ e) :
    ∃ m' e' pos', UnpackedFloat.round .binary64 s m e = .finite s m' e' pos' ∧ Canonical m' e' ∧
      magnitude m' e' = rounded (magnitude m e) := by
  have target : max ((m.log2 : ℤ) + e - 52) (-1074) = surplus (magnitude m e) - 1074 := by
    rw [surplus, magnitude, log2_mul_two_pow pos.ne']
    omega
  obtain ⟨em, shifted, mantissa⟩ := exists_shifted pos least target
  have normal : (surplus (magnitude m e) : ℤ) - 1074 = -1074 ∨ 2 ^ 52 ≤ em.roundedMantissa := by
    rcases Nat.eq_zero_or_pos (surplus (magnitude m e)) with short | long
    · left
      omega
    · right
      rw [mantissa]
      exact le_nearest long
  obtain ⟨m', e', settled, canonical, same⟩ :=
    exists_settled (mantissa ▸ nearest_le (magnitude m e)) (by omega) normal
  have sized : magnitude m' e' = rounded (magnitude m e) := by
    rw [same, mantissa, rounded, magnitude]
    congr 2
    omega
  have nonzero : (ExtendedMantissa.ofMantissaAndAccuracy m' .exact).mantissa ≠ 0 := by
    rintro (zero : m' = 0)
    have positive : 0 < magnitude m' e' := sized ▸ rounded_pos (magnitude_pos e pos)
    rw [zero, magnitude, zero_mul] at positive
    exact absurd positive (lt_irrefl 0)
  unfold UnpackedFloat.round roundWithAccuracy
  dsimp only
  rw [targetExponent_eq, shifted, target]
  dsimp only
  rw [settled, dif_neg nonzero]
  exact ⟨_, _, _, rfl, canonical, sized⟩

/-! ### Bits -/

theorem toNat_implicit (mantissa : BitVec 52) :
    (1#1 ++ mantissa).toNat = 2 ^ 52 + mantissa.toNat := by
  rw [BitVec.toNat_append, ← Nat.shiftLeft_add_eq_or_of_lt mantissa.isLt]
  rfl

/-- What bits stand for: the last exponent is that of the infinities, and the first one is that of
the mantissas that are not filled. -/
theorem unpack_packComponents (s : Sign) (exponent : BitVec 11) (mantissa : BitVec 52) :
    UnpackedFloat.unpack .binary64 (packComponents .binary64 s exponent mantissa) =
      if exponent = -1#11 then if mantissa = 0#52 then .infinity s else .notANumber
      else if exponent = 0#11 then
        if h : mantissa = 0#52 then .zero s
        else .finite s mantissa.toNat (-1074) (by simpa [BitVec.toNat_pos, BitVec.pos_iff_ne_zero])
      else .finite s (2 ^ 52 + mantissa.toNat) (exponent.toNat - 1075) (by positivity) := by
  have bias : (Format.binary64.exponentBias : ℤ) +
      (Format.binary64.mantissaBitsWithoutImplicit : ℕ) = 1075 := rfl
  unfold UnpackedFloat.unpack
  simp only [unpackMantissa_packComponents, unpackExponent_packComponents,
    unpackSign_packComponents, Sign.ofBitVec_toBitVec, toNat_implicit]
  rw [bias]
  by_cases subnormal : exponent = 0#11
  · subst subnormal
    rfl
  · simp only [subnormal]
    rfl

theorem canonical_of_unpack {b : BitVec 64} {s : Sign} {m : ℕ} {e : ℤ} {pos : 0 < m}
    (unpacked : UnpackedFloat.unpack .binary64 b = .finite s m e pos) : Canonical m e ∧ e ≤ 971 := by
  rw [← @packComponents_unpackSign_unpackExponent_unpackMantissa .binary64 b] at unpacked
  generalize @unpackExponent .binary64 b = exponent at unpacked
  generalize @unpackMantissa .binary64 b = mantissa at unpacked
  have short : mantissa.toNat < 2 ^ 52 := mantissa.isLt
  have bounded : exponent.toNat < 2 ^ 11 := exponent.isLt
  rw [unpack_packComponents] at unpacked
  split at unpacked
  · split at unpacked <;> cases unpacked
  · rename_i finite
    have notLast : exponent.toNat ≠ 2047 := fun last => finite (BitVec.eq_of_toNat_eq last)
    split at unpacked
    · split at unpacked
      · cases unpacked
      · cases unpacked
        exact ⟨⟨le_rfl, by omega, .inl rfl⟩, by omega⟩
    · rename_i normal
      have notFirst : exponent.toNat ≠ 0 := fun first => normal (BitVec.eq_of_toNat_eq first)
      cases unpacked
      exact ⟨⟨by omega, by omega, .inr (by omega)⟩, by omega⟩

/-- The bits of a canonical number **keep it, or it is too large for them.** -/
theorem unpack_pack {s : Sign} {m : ℕ} {e : ℤ} (pos : 0 < m) (canonical : Canonical m e) :
    (Float.Model.pack (.finite s m e pos)).unpack =
      if e ≤ 971 then .finite s m e pos else .infinity s := by
  obtain ⟨least, lt, normal⟩ := canonical
  have bias : (Format.binary64.exponentBias : ℤ) = 1023 := rfl
  have bits : Format.binary64.mantissaBits = 53 := rfl
  show UnpackedFloat.unpack .binary64 (UnpackedFloat.pack .binary64 (.finite s m e pos)) = _
  unfold UnpackedFloat.pack
  dsimp only
  rw [bias, bits]
  push_cast
  by_cases fits : e ≤ 971
  case neg =>
    rw [if_pos (by omega), if_neg fits]
    exact unpack_packComponents s _ _
  rw [if_neg (by omega), if_pos fits]
  by_cases full : 2 ^ 52 ≤ m
  · have digits : m.log2 = 52 := (Nat.log2_eq_iff pos.ne').mpr ⟨full, lt⟩
    have exponent : (BitVec.ofNat 11 (e + 1023 + 52).toNat).toNat = (e + 1075).toNat := by
      rw [BitVec.toNat_ofNat, Nat.mod_eq_of_lt (by omega)]
      omega
    have mantissa : 2 ^ 52 + (BitVec.ofNat 52 m).toNat = m := by
      rw [BitVec.toNat_ofNat]
      omega
    rw [if_pos digits, unpack_packComponents, if_neg, if_neg]
    · simp only [exponent, mantissa]
      congr 1
      omega
    · intro first
      rw [first] at exponent
      have : (0#11 : BitVec 11).toNat = 0 := rfl
      omega
    · intro last
      rw [last] at exponent
      have : (-1#11 : BitVec 11).toNat = 2047 := rfl
      omega
  · have digits : m.log2 ≠ 52 := ((Nat.log2_lt pos.ne').mpr (Nat.lt_of_not_le full)).ne
    have mantissa : (BitVec.ofNat 52 m).toNat = m := by
      rw [BitVec.toNat_ofNat, Nat.mod_eq_of_lt (by omega)]
    have nonzero : BitVec.ofNat 52 m ≠ 0#52 := by
      intro zero
      rw [zero] at mantissa
      have : (0#52 : BitVec 52).toNat = 0 := rfl
      omega
    rw [if_neg digits, unpack_packComponents, if_neg (by decide), if_pos rfl, dif_neg nonzero]
    simp only [mantissa]
    congr 1
    omega

end TxRetry.Double
