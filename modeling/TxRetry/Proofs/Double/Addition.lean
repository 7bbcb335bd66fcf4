import TxRetry.Proofs.Double.Rounding

/-!
# The addition of doubles that are not negative

Doubles that are not negative are ordered by their sizes, and the size of their sum is a function of
the sum of their sizes: it is rounded, and cut off where doubles end.  So addition keeps the order
in both arguments, and no sum is smaller than what was added.  A sum of any doubles is a number
unless infinities of both signs are added.

## Main definitions

* `size` — how many least doubles a double has, its sign aside
* `sumSize` — what becomes of a number of least doubles in a sum
* `opposed` — infinities of both signs

## Main statements

* `add_le_add` — addition keeps the order
* `le_add` — no sum is smaller than what was added
* `isNaN_add` — when a sum is no number
* `not_lt_iff_le` — numbers are comparable

## Design notes

**Infinity has a size as well**, that of the first double too large to be finite.  Sums that
overflow, and those with an infinity, are then cut off like all others.
-/

namespace TxRetry.Double

open Float.Model Float.Model.UnpackedFloat

/-! ### Sizes -/

/-- The first number of least doubles that is **too large for a finite double.** -/
def overflow : ℕ := magnitude (2 ^ 52) 972

/-- The **size of a double** in least doubles, its sign aside. -/
def size : UnpackedFloat → ℕ
  | .infinity _ => overflow
  | .finite _ m e _ => magnitude m e
  | _ => 0

/-- Neither below zero nor no number at all. -/
def NonNegative : UnpackedFloat → Prop
  | .infinity s => s = .positive
  | .finite s _ _ _ => s = .positive
  | .zero _ => True
  | .notANumber => False

/-- Mantissa and exponent are those of **some double**, if there are any. -/
def Proper (f : UnpackedFloat) : Prop :=
  ∀ s m e pos, f = .finite s m e pos → Canonical m e ∧ e ≤ 971

theorem proper_unpack (x : Float.Model) : Proper x.unpack :=
  fun _ _ _ _ unpacked => canonical_of_unpack unpacked

theorem canonical_overflow : Canonical (2 ^ 52) 972 := ⟨by omega, by omega, .inr le_rfl⟩

theorem magnitude_lt_overflow_iff {m : ℕ} {e : ℤ} (canonical : Canonical m e) :
    magnitude m e < overflow ↔ e ≤ 971 := by
  rcases lt_trichotomy e 972 with lower | rfl | higher
  · exact iff_of_true (magnitude_lt_of_lt canonical canonical_overflow lower) (by omega)
  · have filled : 2 ^ 52 ≤ m := canonical.normal.resolve_left (by omega)
    exact iff_of_false (Nat.mul_le_mul_right _ filled).not_gt (by omega)
  · exact iff_of_false (magnitude_lt_of_lt canonical_overflow canonical higher).not_gt (by omega)

theorem Proper.lt_overflow {s : Sign} {m : ℕ} {e : ℤ} {pos : 0 < m}
    (proper : Proper (.finite s m e pos)) : magnitude m e < overflow :=
  (magnitude_lt_overflow_iff (proper _ _ _ _ rfl).1).mpr (proper _ _ _ _ rfl).2

theorem size_le_overflow {f : UnpackedFloat} (proper : Proper f) : size f ≤ overflow := by
  cases f with
  | infinity s => exact le_rfl
  | finite s m e pos => exact proper.lt_overflow.le
  | _ => exact Nat.zero_le _

/-! ### The order -/

theorem isLE_compare_iff {m m' : ℕ} {e e' : ℤ} (canonical : Canonical m e)
    (canonical' : Canonical m' e') :
    ((compare e e').then (compare m m')).isLE = true ↔ magnitude m e ≤ magnitude m' e' := by
  rcases lt_trichotomy e e' with lower | rfl | higher
  · rw [compare_lt_iff_lt.mpr lower]
    exact iff_of_true rfl (magnitude_lt_of_lt canonical canonical' lower).le
  · rw [compare_eq_iff_eq.mpr rfl, magnitude, magnitude,
      Nat.mul_le_mul_right_iff (Nat.two_pow_pos _), ← Std.isLE_compare]
    rfl
  · rw [compare_gt_iff_gt.mpr higher]
    exact iff_of_false Bool.false_ne_true (magnitude_lt_of_lt canonical' canonical higher).not_ge

/-- What is not negative is **ordered by its size.** -/
theorem le_iff_size_le {f g : UnpackedFloat} (f0 : NonNegative f) (g0 : NonNegative g)
    (properF : Proper f) (properG : Proper g) : f.le g = true ↔ size f ≤ size g := by
  cases f with
  | notANumber => cases f0
  | zero s =>
      have le : (UnpackedFloat.zero s).le g = true := by cases g <;> cases g0 <;> rfl
      exact iff_of_true le (Nat.zero_le _)
  | infinity s =>
      cases f0
      cases g with
      | notANumber => cases g0
      | infinity s' => cases g0; exact iff_of_true rfl le_rfl
      | zero s' => exact iff_of_false nofun (magnitude_pos 972 (by omega)).not_ge
      | finite s' m' e' pos' => exact iff_of_false nofun properG.lt_overflow.not_ge
  | finite s m e pos =>
      cases f0
      cases g with
      | notANumber => cases g0
      | infinity s' => cases g0; exact iff_of_true rfl (size_le_overflow properF)
      | zero s' => exact iff_of_false nofun (magnitude_pos e pos).not_ge
      | finite s' m' e' pos' =>
          cases g0
          exact isLE_compare_iff (properF _ _ _ _ rfl).1 (properG _ _ _ _ rfl).1

theorem compare_digits_swap (m m' : ℕ) (e e' : ℤ) :
    (compare e e').then (compare m m') = ((compare e' e).then (compare m' m)).swap := by
  rw [Ordering.swap_then, ← Std.OrientedOrd.eq_swap, ← Std.OrientedOrd.eq_swap]

theorem compare_swap (f g : UnpackedFloat) : f.compare g = (g.compare f).map Ordering.swap := by
  cases f with
  | notANumber => cases g <;> rfl
  | infinity s =>
      cases g with
      | infinity s' => cases s <;> cases s' <;> rfl
      | _ => cases s <;> rfl
  | zero s =>
      cases g with
      | finite s' => cases s' <;> rfl
      | infinity s' => cases s' <;> rfl
      | _ => rfl
  | finite s m e pos =>
      cases g with
      | finite s' m' e' pos' =>
          cases s <;> cases s' <;>
            simp [UnpackedFloat.compare, compare_digits_swap m m' e e', Ordering.swap]
      | infinity s' => cases s' <;> rfl
      | zero s' => cases s <;> rfl
      | notANumber => rfl

theorem compare_eq_none_iff {f g : UnpackedFloat} :
    f.compare g = none ↔ f = .notANumber ∨ g = .notANumber := by
  fun_cases UnpackedFloat.compare f g <;> simp_all

theorem ne_of_le {f g : UnpackedFloat} (le : f.le g = true) : f ≠ .notANumber ∧ g ≠ .notANumber := by
  rw [← not_or, ← compare_eq_none_iff]
  intro incomparable
  rw [UnpackedFloat.le, incomparable] at le
  cases le

theorem lt_iff_not_le {f g : UnpackedFloat} (numberF : f ≠ .notANumber) (numberG : g ≠ .notANumber) :
    f.lt g = true ↔ ¬ g.le f = true := by
  have comparable : f.compare g ≠ none := by simp [compare_eq_none_iff, numberF, numberG]
  obtain ⟨o, compared⟩ := Option.ne_none_iff_exists'.mp comparable
  rw [UnpackedFloat.lt, UnpackedFloat.le, compare_swap g f, compared]
  cases o <;> decide

theorem nonNegative_of_le {f g : UnpackedFloat} (f0 : NonNegative f) (le : f.le g = true) :
    NonNegative g := by
  cases g with
  | notANumber => cases f <;> cases le
  | zero s => trivial
  | infinity s =>
      cases s with
      | positive => rfl
      | negative => cases f <;> cases f0 <;> cases le
  | finite s m e pos =>
      cases s with
      | positive => rfl
      | negative => cases f <;> cases f0 <;> cases le

/-! ### Sums -/

theorem unpack_pack_infinity (s : Sign) : (Float.Model.pack (.infinity s)).unpack = .infinity s :=
  unpack_packComponents s _ _

theorem unpack_pack_zero (s : Sign) : (Float.Model.pack (.zero s)).unpack = .zero s :=
  unpack_packedZero

theorem unpack_pack_notANumber : (Float.Model.pack .notANumber).unpack = .notANumber :=
  unpack_packedNaN

theorem unpack_pack_of_proper {f : UnpackedFloat} (proper : Proper f) :
    (Float.Model.pack f).unpack = f := by
  cases f with
  | infinity s => exact unpack_pack_infinity s
  | notANumber => exact unpack_pack_notANumber
  | zero s => exact unpack_pack_zero s
  | finite s m e pos =>
      obtain ⟨canonical, fits⟩ := proper _ _ _ _ rfl
      rw [unpack_pack pos canonical, if_pos fits]

/-- **What becomes of a number of least doubles** in a sum: it is rounded, and cut off. -/
def sumSize (n : ℕ) : ℕ := min (rounded n) overflow

theorem sumSize_mono : Monotone sumSize := fun _ _ le => min_le_min_right _ (rounded_mono le)

theorem sumSize_size {f : UnpackedFloat} (proper : Proper f) : sumSize (size f) = size f := by
  have kept : rounded (size f) = size f := by
    cases f with
    | infinity s => exact canonical_overflow.rounded_eq
    | finite s m e pos => exact (proper _ _ _ _ rfl).1.rounded_eq
    | _ => rfl
  rw [sumSize, kept, min_eq_left (size_le_overflow proper)]

theorem sumSize_of_overflow {n : ℕ} (large : overflow ≤ n) : sumSize n = overflow := by
  have : overflow ≤ rounded n := canonical_overflow.rounded_eq.symm.le.trans (rounded_mono large)
  exact min_eq_right this

theorem unpack_pack_round (s : Sign) {m : ℕ} {e : ℤ} (pos : 0 < m) (least : -1074 ≤ e) :
    ∃ f, (Float.Model.pack (UnpackedFloat.round .binary64 s m e)).unpack = f ∧
      (f = .infinity s ∨ ∃ m' e' pos', f = .finite s m' e' pos') ∧
      size f = sumSize (magnitude m e) := by
  obtain ⟨m', e', pos', same, canonical, sized⟩ := round_eq s pos least
  have inRange := magnitude_lt_overflow_iff canonical
  rw [same, unpack_pack pos' canonical, sumSize, ← sized]
  by_cases fits : e' ≤ 971
  · rw [if_pos fits]
    exact ⟨_, rfl, .inr ⟨_, _, _, rfl⟩, (min_eq_left (inRange.mpr fits).le).symm⟩
  · rw [if_neg fits]
    exact ⟨_, rfl, .inl rfl, (min_eq_right (Nat.le_of_not_lt (mt inRange.mp fits))).symm⟩

theorem unpack_pack_round_ne (s : Sign) {m : ℕ} {e : ℤ} (pos : 0 < m) (least : -1074 ≤ e) :
    (Float.Model.pack (UnpackedFloat.round .binary64 s m e)).unpack ≠ .notANumber := by
  obtain ⟨f, packed, shape, -⟩ := unpack_pack_round s pos least
  rw [packed]
  rcases shape with rfl | ⟨_, _, _, rfl⟩ <;> nofun

theorem add_finite (s s' : Sign) {m m' : ℕ} {e e' : ℤ} (pos : 0 < m) (pos' : 0 < m') :
    UnpackedFloat.add .binary64 (.finite s m e pos) (.finite s' m' e' pos') =
      UnpackedFloat.normalize .binary64 (s.apply (m * 2 ^ (e - min e e').toNat : ℕ) +
        s'.apply (m' * 2 ^ (e' - min e e').toNat : ℕ)) (min e e') .positive := by
  simp only [UnpackedFloat.add, decreaseExponent, Nat.shiftLeft_eq]

theorem magnitude_of_le {m : ℕ} {e low : ℤ} (least : -1074 ≤ low) (le : low ≤ e) :
    magnitude (m * 2 ^ (e - low).toNat) low = magnitude m e := by
  have widened : (e + 1074).toNat = (e - low).toNat + (low + 1074).toNat := by omega
  rw [magnitude, magnitude, widened, pow_add, mul_assoc]

theorem magnitude_add (m m' : ℕ) (e : ℤ) :
    magnitude (m + m') e = magnitude m e + magnitude m' e := Nat.add_mul ..

/-- The sum of mantissas at their common exponent. -/
theorem add_positive {m m' : ℕ} {e e' : ℤ} (pos : 0 < m) (pos' : 0 < m') (least : -1074 ≤ e)
    (least' : -1074 ≤ e') :
    ∃ f, (Float.Model.pack (UnpackedFloat.add .binary64 (.finite .positive m e pos)
        (.finite .positive m' e' pos'))).unpack = f ∧
      NonNegative f ∧ size f = sumSize (magnitude m e + magnitude m' e') := by
  have low : -1074 ≤ min e e' := le_min least least'
  have positive : 0 < m * 2 ^ (e - min e e').toNat := Nat.mul_pos pos (Nat.two_pow_pos _)
  obtain ⟨f, packed, shape, sized⟩ := unpack_pack_round .positive
    (Nat.add_pos_left positive (m' * 2 ^ (e' - min e e').toNat)) low
  rw [add_finite, Sign.apply, Sign.apply, ← Int.natCast_add, UnpackedFloat.normalize,
    compare_gt_iff_gt.mpr (by omega)]
  rw [magnitude_add, magnitude_of_le low (min_le_left _ _),
    magnitude_of_le low (min_le_right _ _)] at sized
  refine ⟨f, packed, ?_, sized⟩
  rcases shape with rfl | ⟨_, _, _, rfl⟩ <;> rfl

/-- The **sum of what is not negative** is not negative, and its size is that of the sum of the
sizes. -/
theorem add_of_nonNegative {f g : UnpackedFloat} (f0 : NonNegative f) (g0 : NonNegative g)
    (properF : Proper f) (properG : Proper g) :
    ∃ h, (Float.Model.pack (UnpackedFloat.add .binary64 f g)).unpack = h ∧
      NonNegative h ∧ size h = sumSize (size f + size g) := by
  -- All sums but those of finite numbers are one of the summands.
  have unrounded {h : UnpackedFloat} (sum : UnpackedFloat.add .binary64 f g = h)
      (h0 : NonNegative h) (proper : Proper h)
      (sized : sumSize (size f + size g) = sumSize (size h)) :
      ∃ h, (Float.Model.pack (UnpackedFloat.add .binary64 f g)).unpack = h ∧
        NonNegative h ∧ size h = sumSize (size f + size g) := by
    rw [sum, unpack_pack_of_proper proper, sized, sumSize_size proper]
    exact ⟨h, rfl, h0, rfl⟩
  have large {n : ℕ} (le : overflow ≤ n) : sumSize n = sumSize overflow := by
    rw [sumSize_of_overflow le, sumSize_of_overflow le_rfl]
  cases f with
  | notANumber => cases f0
  | infinity s =>
      cases f0
      have sum : UnpackedFloat.add .binary64 (.infinity .positive) g = .infinity .positive := by
        cases g <;> cases g0 <;> rfl
      exact unrounded sum rfl properF (large (Nat.le_add_right _ _))
  | zero s =>
      cases g with
      | notANumber => cases g0
      | zero s' => cases s <;> cases s' <;> exact unrounded rfl trivial nofun rfl
      | _ => exact unrounded rfl g0 properG (congrArg sumSize (Nat.zero_add _))
  | finite s m e pos =>
      cases g with
      | notANumber => cases g0
      | zero s' => exact unrounded rfl f0 properF rfl
      | infinity s' => exact unrounded rfl g0 properG (large (Nat.le_add_left _ _))
      | finite s' m' e' pos' =>
          cases f0
          cases g0
          exact add_positive pos pos' (properF _ _ _ _ rfl).1.least (properG _ _ _ _ rfl).1.least

theorem add_finite_ne {s s' : Sign} {m m' : ℕ} {e e' : ℤ} (pos : 0 < m) (pos' : 0 < m')
    (least : -1074 ≤ e) (least' : -1074 ≤ e') :
    (Float.Model.pack (UnpackedFloat.add .binary64 (.finite s m e pos)
      (.finite s' m' e' pos'))).unpack ≠ .notANumber := by
  have low : -1074 ≤ min e e' := le_min least least'
  rw [add_finite, UnpackedFloat.normalize]
  split
  · rename_i below
    have := compare_lt_iff_lt.mp below
    exact unpack_pack_round_ne _ (by omega) low
  · rw [unpack_pack_zero]
    nofun
  · rename_i above
    have := compare_gt_iff_gt.mp above
    exact unpack_pack_round_ne _ (by omega) low

theorem add_eq_notANumber_iff {f g : UnpackedFloat} (properF : Proper f) (properG : Proper g) :
    (Float.Model.pack (UnpackedFloat.add .binary64 f g)).unpack = .notANumber ↔
      f = .notANumber ∨ g = .notANumber ∨ ∃ s s', s ≠ s' ∧ f = .infinity s ∧ g = .infinity s' := by
  cases f with
  | notANumber => simp [UnpackedFloat.add, unpack_pack_notANumber]
  | infinity s =>
      cases g with
      | infinity s' =>
          cases s <;> cases s' <;>
            simp [UnpackedFloat.add, unpack_pack_notANumber, unpack_pack_infinity]
      | _ => simp [UnpackedFloat.add, unpack_pack_notANumber, unpack_pack_infinity]
  | zero s =>
      cases g with
      | zero s' => cases s <;> cases s' <;> simp [UnpackedFloat.add, unpack_pack_zero]
      | _ => simp [UnpackedFloat.add, unpack_pack_of_proper properG]
  | finite s m e pos =>
      cases g with
      | finite s' m' e' pos' =>
          simp [add_finite_ne pos pos' (properF _ _ _ _ rfl).1.least
            (properG _ _ _ _ rfl).1.least]
      | zero s' => simp [UnpackedFloat.add, unpack_pack_of_proper properF]
      | _ => simp [UnpackedFloat.add, unpack_pack_of_proper properG]

/-! ### Doubles -/

variable {x y z w : Float}

/-- **Infinities of both signs**, whose sum is no number. -/
def opposed (x y : Float) : Bool := x.isInf && y.isInf && x != y

theorem le_iff : x ≤ y ↔ x.toModel.unpack.le y.toModel.unpack = true := decide_eq_true_iff

theorem lt_iff : x < y ↔ x.toModel.unpack.lt y.toModel.unpack = true := decide_eq_true_iff

theorem isNaN_iff : x.isNaN = true ↔ x.toModel.unpack = .notANumber := by
  show x.toModel.unpack.isNaN = true ↔ _
  cases x.toModel.unpack <;> simp [UnpackedFloat.isNaN]

theorem isNaN_eq_false_iff : x.isNaN = false ↔ x.toModel.unpack ≠ .notANumber := by
  rw [← Bool.not_eq_true, isNaN_iff]

theorem isNaN_of_isFinite (finite : x.isFinite = true) : x.isNaN = false := by
  change x.toModel.unpack.isFinite = true at finite
  rw [isNaN_eq_false_iff]
  intro notANumber
  rw [notANumber] at finite
  cases finite

/-- What is not finite is **no number at all or infinite.** -/
theorem isFinite_eq_false_iff : x.isFinite = false ↔ x.isNaN = true ∨ x.isInf = true := by
  show x.toModel.unpack.isFinite = false ↔
    x.toModel.unpack.isNaN = true ∨ x.toModel.unpack.isInf = true
  cases x.toModel.unpack <;>
    simp [UnpackedFloat.isFinite, UnpackedFloat.isNaN, UnpackedFloat.isInf]

theorem opposed_iff : opposed x y = true ↔
    ∃ s s', s ≠ s' ∧ x.toModel.unpack = .infinity s ∧ y.toModel.unpack = .infinity s' := by
  show (x.toModel.unpack.isInf && y.toModel.unpack.isInf &&
    !x.toModel.unpack.beq y.toModel.unpack) = true ↔ _
  cases x.toModel.unpack with
  | infinity s =>
      cases y.toModel.unpack with
      | infinity s' =>
          cases s <;> cases s' <;>
            simp [UnpackedFloat.isInf, UnpackedFloat.beq, UnpackedFloat.compare] <;> rfl
      | _ => simp [UnpackedFloat.isInf]
  | _ => simp [UnpackedFloat.isInf]

/-- When **a sum is no number.** -/
theorem isNaN_add (x y : Float) :
    (x + y).isNaN = true ↔ x.isNaN = true ∨ y.isNaN = true ∨ opposed x y = true := by
  rw [isNaN_iff, isNaN_iff, isNaN_iff, opposed_iff]
  exact add_eq_notANumber_iff (proper_unpack _) (proper_unpack _)

theorem isNaN_of_le (le : x ≤ y) : x.isNaN = false ∧ y.isNaN = false := by
  rw [isNaN_eq_false_iff, isNaN_eq_false_iff]
  exact ne_of_le (le_iff.mp le)

/-- **Numbers are comparable.** -/
theorem not_lt_iff_le (number : x.isNaN = false) (number' : y.isNaN = false) :
    ¬ x < y ↔ y ≤ x := by
  rw [lt_iff, le_iff, not_iff_comm]
  exact (lt_iff_not_le (isNaN_eq_false_iff.mp number) (isNaN_eq_false_iff.mp number')).symm

theorem isNaN_of_lt (lt : x < y) : x.isNaN = false ∧ y.isNaN = false := by
  rw [isNaN_eq_false_iff, isNaN_eq_false_iff, ← not_or, ← compare_eq_none_iff]
  intro incomparable
  rw [lt_iff, UnpackedFloat.lt, incomparable] at lt
  cases lt

theorem zero_le_iff : 0.0 ≤ x ↔ NonNegative x.toModel.unpack := by
  have zero : (0.0 : Float).toModel.unpack = .zero .positive := rfl
  rw [le_iff, zero]
  generalize x.toModel.unpack = f
  constructor
  · exact nonNegative_of_le trivial
  · intro f0
    cases f <;> cases f0 <;> rfl

theorem zero_le_of_le (nonneg : 0.0 ≤ x) (le : x ≤ y) : 0.0 ≤ y :=
  zero_le_iff.mpr (nonNegative_of_le (zero_le_iff.mp nonneg) (le_iff.mp le))

theorem le_iff_size (nonneg : 0.0 ≤ x) (nonneg' : 0.0 ≤ y) :
    x ≤ y ↔ size x.toModel.unpack ≤ size y.toModel.unpack := by
  rw [le_iff]
  exact le_iff_size_le (zero_le_iff.mp nonneg) (zero_le_iff.mp nonneg') (proper_unpack _)
    (proper_unpack _)

theorem le_refl (nonneg : 0.0 ≤ x) : x ≤ x := (le_iff_size nonneg nonneg).mpr (Nat.le_refl _)

theorem le_trans (nonneg : 0.0 ≤ x) (le : x ≤ y) (le' : y ≤ z) : x ≤ z := by
  have nonnegY : 0.0 ≤ y := zero_le_of_le nonneg le
  have nonnegZ : 0.0 ≤ z := zero_le_of_le nonnegY le'
  rw [le_iff_size nonneg nonnegZ]
  exact ((le_iff_size nonneg nonnegY).mp le).trans ((le_iff_size nonnegY nonnegZ).mp le')

/-- The smaller of the two may be **below zero** here. -/
theorem lt_of_lt_of_le (nonneg : 0.0 ≤ y) (lt : x < y) (le : y ≤ z) : x < z := by
  obtain ⟨numberX, numberY⟩ := isNaN_of_lt lt
  have numberZ : z.isNaN = false := (isNaN_of_le le).2
  by_contra notLess
  have below : z ≤ x := (not_lt_iff_le numberX numberZ).mp notLess
  exact (not_lt_iff_le numberX numberY).mpr (le_trans nonneg le below) lt

theorem zero_le_add (nonneg : 0.0 ≤ x) (nonneg' : 0.0 ≤ y) : 0.0 ≤ x + y := by
  obtain ⟨f, sum, f0, -⟩ := add_of_nonNegative (zero_le_iff.mp nonneg) (zero_le_iff.mp nonneg')
    (proper_unpack _) (proper_unpack _)
  rw [zero_le_iff]
  exact sum ▸ f0

theorem size_add (nonneg : 0.0 ≤ x) (nonneg' : 0.0 ≤ y) :
    size (x + y).toModel.unpack = sumSize (size x.toModel.unpack + size y.toModel.unpack) := by
  obtain ⟨f, sum, -, sized⟩ := add_of_nonNegative (zero_le_iff.mp nonneg) (zero_le_iff.mp nonneg')
    (proper_unpack _) (proper_unpack _)
  exact sum ▸ sized

/-- **Addition keeps the order.** -/
theorem add_le_add (nonneg : 0.0 ≤ x) (nonneg' : 0.0 ≤ y) (le : x ≤ z) (le' : y ≤ w) :
    x + y ≤ z + w := by
  have nonnegZ : 0.0 ≤ z := zero_le_of_le nonneg le
  have nonnegW : 0.0 ≤ w := zero_le_of_le nonneg' le'
  rw [le_iff_size (zero_le_add nonneg nonneg') (zero_le_add nonnegZ nonnegW),
    size_add nonneg nonneg', size_add nonnegZ nonnegW]
  apply sumSize_mono
  exact Nat.add_le_add ((le_iff_size nonneg nonnegZ).mp le) ((le_iff_size nonneg' nonnegW).mp le')

/-- **No sum is smaller than what was added.** -/
theorem le_add (nonneg : 0.0 ≤ x) (nonneg' : 0.0 ≤ y) : x ≤ x + y ∧ y ≤ x + y := by
  have nonnegSum : 0.0 ≤ x + y := zero_le_add nonneg nonneg'
  rw [le_iff_size nonneg nonnegSum, le_iff_size nonneg' nonnegSum, size_add nonneg nonneg']
  constructor
  · calc
      size x.toModel.unpack = sumSize (size x.toModel.unpack) := (sumSize_size (proper_unpack _)).symm
      _ ≤ _ := sumSize_mono (Nat.le_add_right _ _)
  · calc
      size y.toModel.unpack = sumSize (size y.toModel.unpack) := (sumSize_size (proper_unpack _)).symm
      _ ≤ _ := sumSize_mono (Nat.le_add_left _ _)

end TxRetry.Double
