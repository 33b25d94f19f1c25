import Mathlib
import QuicksortStudy.Proofs.Binary64.Rounding

/-!
# Arithmetic of doubles

Each operation on finite doubles gives the double nearest to the exact result.  The exact result is a
fraction of units, so products and quotients are fractions of the units of the operands, and sums are sums of
units with signs.
-/

namespace QuicksortStudy.Binary64

open Float.Model (Format UnpackedFloat totalExponent)
open Float.Model.UnpackedFloat

/-- The power of two that the units of one are. -/
def unitPlaces : Nat := 1074

theorem unitPlaces_eq : unitPlaces = 1074 := rfl

theorem unitsPerOne_eq : unitsPerOne = 2 ^ unitPlaces := Nat.one_shiftLeft unitPlaces

theorem units_zero : units 0 = 0 := rfl

theorem nearestUnits_zero (den : Nat) : nearestUnits 0 den = 0 := by
  simp [nearestUnits, divRoundEven]

/-! ## Signs -/

theorem sign_mul (negative negative' : Bool) :
    sign negative * sign negative' = sign (negative ^^ negative') := by
  cases negative <;> cases negative' <;> rfl

theorem sign_div (negative negative' : Bool) :
    sign negative / sign negative' = sign (negative ^^ negative') := by
  cases negative <;> cases negative' <;> rfl

theorem sign_neg (negative : Bool) : -sign negative = sign !negative := by
  cases negative <;> rfl

theorem fields_neg {x : Float} (finite : magnitude x < infinity) :
    isNegative (-x) = !isNegative x ∧ magnitude (-x) = magnitude x := by
  change isNegative (ofUnpacked (neg x.toModel.unpack)) = _ ∧ magnitude (ofUnpacked (neg x.toModel.unpack)) = _
  rcases Nat.eq_zero_or_pos (magnitude x) with zero | positive
  · rw [unpack_of_zero zero, neg, sign_neg, zero]
    exact fields_zero _
  · have fields := fields_finite (!isNegative x) (significand_pos positive) (le_exponent _) (significand_lt _)
      (significand_full _)
    rw [exponent_significand, Nat.min_eq_right (Nat.le_of_lt finite)] at fields
    rw [unpack_of_finite positive finite, neg, sign_neg]
    exact fields

/-! ## Products and quotients -/

/-- A product is nearest to the product of the units. -/
theorem fields_mul {x y : Float} (finite : magnitude x < infinity) (finite' : magnitude y < infinity) :
    isNegative (x * y) = (isNegative x ^^ isNegative y) ∧
      magnitude (x * y) = nearestUnits (units (magnitude x) * units (magnitude y)) unitsPerOne := by
  change isNegative (ofUnpacked (mul Format.binary64 x.toModel.unpack y.toModel.unpack)) = _ ∧
    magnitude (ofUnpacked (mul Format.binary64 x.toModel.unpack y.toModel.unpack)) = _
  rcases Nat.eq_zero_or_pos (magnitude x) with zero | positive
  · rw [unpack_of_zero zero, zero, units_zero, Nat.zero_mul, nearestUnits_zero]
    rcases Nat.eq_zero_or_pos (magnitude y) with zero' | positive'
    · rw [unpack_of_zero zero', mul, sign_mul]
      exact fields_zero _
    · rw [unpack_of_finite positive' finite', mul, sign_mul]
      exact fields_zero _
  · rcases Nat.eq_zero_or_pos (magnitude y) with zero' | positive'
    · rw [unpack_of_zero zero', unpack_of_finite positive finite, mul, sign_mul, zero', units_zero, Nat.mul_zero,
        nearestUnits_zero]
      exact fields_zero _
    · have places := unitPlaces_eq
      have least := le_exponent (magnitude x)
      have least' := le_exponent (magnitude y)
      have product : units (magnitude x) * units (magnitude y) =
          significand (magnitude x) * significand (magnitude y) *
          2 ^ ((exponent (magnitude x) + 1074).toNat + (exponent (magnitude y) + 1074).toNat) := by
        rw [units_eq, units_eq]
        ring
      have enough : (exponent (magnitude x) + 1074).toNat + (exponent (magnitude y) + 1074).toNat ≤ unitPlaces ∨
          exponentWeight ≤ significand (magnitude x) * significand (magnitude y) := by
        rcases significand_full (magnitude x) with full | subnormal
        · exact .inr (Nat.le_trans full (Nat.le_mul_of_pos_right _ (significand_pos positive')))
        · rcases significand_full (magnitude y) with full' | subnormal'
          · exact .inr (Nat.le_trans full' (Nat.le_mul_of_pos_left _ (significand_pos positive)))
          · exact .inl (by omega)
      rw [unpack_of_finite positive finite, unpack_of_finite positive' finite', mul, sign_mul, product, unitsPerOne_eq]
      exact fields_roundWithAccuracy_exact _ (by omega) enough

theorem divCore_eq (m : Nat) (e : Int) (m' : Nat) (e' : Int) :
    ∃ (shift : Nat) (target : Int), divCore Format.binary64 m e m' e' =
        (m * 2 ^ shift / m', target, accuracyOfFraction (m * 2 ^ shift % m') m') ∧
      target = min (e - e') (max (m.log2 + e - m'.log2 - e' - 53) (-1074)) ∧ (shift : Int) = e - e' - target := by
  have target : Format.binary64.targetExponent (totalExponent m e - totalExponent m' e') =
      max (m.log2 + e - m'.log2 - e' - 53) (-1074) := by
    unfold Format.targetExponent totalExponent
    change max ((m.log2 : Int) + 1 + e - (m'.log2 + 1 + e') - 53) (-1074) = _
    omega
  unfold divCore
  dsimp only
  rw [target, Nat.shiftLeft_eq]
  exact ⟨_, _, rfl, rfl, by omega⟩

/-- A numerator shifted far enough gives a full quotient. -/
theorem exponentWeight_le_quotient {m m' shift : Nat} (some : 0 < m) (some' : 0 < m')
    (far : m'.log2 + 53 ≤ m.log2 + shift) : exponentWeight ≤ m * 2 ^ shift / m' := by
  rw [Nat.le_div_iff_mul_le some']
  calc exponentWeight * m'
      ≤ 2 ^ 52 * 2 ^ (m'.log2 + 1) := Nat.mul_le_mul_left _ (Nat.le_of_lt Nat.lt_log2_self)
    _ = 2 ^ (52 + (m'.log2 + 1)) := (Nat.pow_add _ _ _).symm
    _ ≤ 2 ^ (m.log2 + shift) := Nat.pow_le_pow_right Nat.two_pos (by omega)
    _ = 2 ^ m.log2 * 2 ^ shift := Nat.pow_add _ _ _
    _ ≤ m * 2 ^ shift := Nat.mul_le_mul_right _ (Nat.log2_self_le (Nat.ne_of_gt some))

/-- The quotient of two numbers of units, with the powers of two brought to its own scale. -/
theorem nearestUnits_quotient {m m' up up' shift raised lowered : Nat} (some' : 0 < m')
    (powers : shift + raised + up' = up + unitPlaces + lowered) :
    nearestUnits (m * 2 ^ up * unitsPerOne) (m' * 2 ^ up') =
      nearestUnits (m * 2 ^ shift * 2 ^ raised) (m' * 2 ^ lowered) := by
  rw [unitsPerOne_eq]
  apply nearestUnits_congr (Nat.mul_pos some' (Nat.two_pow_pos _)) (Nat.mul_pos some' (Nat.two_pow_pos _))
  calc m * 2 ^ up * 2 ^ unitPlaces * (m' * 2 ^ lowered)
      = m * m' * 2 ^ (up + unitPlaces + lowered) := by ring
    _ = m * 2 ^ shift * 2 ^ raised * (m' * 2 ^ up') := by
      rw [← powers]
      ring

/-- A quotient is nearest to the quotient of the units. -/
theorem fields_div {x y : Float} (finite : magnitude x < infinity) (finite' : magnitude y < infinity)
    (positive' : 0 < magnitude y) :
    isNegative (x / y) = (isNegative x ^^ isNegative y) ∧
      magnitude (x / y) = nearestUnits (units (magnitude x) * unitsPerOne) (units (magnitude y)) := by
  change isNegative (ofUnpacked (div Format.binary64 x.toModel.unpack y.toModel.unpack)) = _ ∧
    magnitude (ofUnpacked (div Format.binary64 x.toModel.unpack y.toModel.unpack)) = _
  rcases Nat.eq_zero_or_pos (magnitude x) with zero | positive
  · rw [unpack_of_zero zero, unpack_of_finite positive' finite', div, sign_div, zero, units_zero, Nat.zero_mul,
      nearestUnits_zero]
    exact fields_zero _
  · have places := unitPlaces_eq
    have least := le_exponent (magnitude x)
    have least' := le_exponent (magnitude y)
    have some := significand_pos positive
    have some' := significand_pos positive'
    obtain ⟨shift, target, core, isTarget, isShift⟩ := divCore_eq (significand (magnitude x))
      (exponent (magnitude x)) (significand (magnitude y)) (exponent (magnitude y))
    have enough : (target + 1074).toNat ≤ (-(target + 1074)).toNat ∨
        exponentWeight ≤ significand (magnitude x) * 2 ^ shift / significand (magnitude y) := by
      rcases Int.lt_or_le (-1074) target with normal | subnormal
      · exact .inr (exponentWeight_le_quotient some some' (by omega))
      · exact .inl (by omega)
    have powers : shift + (target + 1074).toNat + (exponent (magnitude y) + 1074).toNat =
        (exponent (magnitude x) + 1074).toNat + unitPlaces + (-(target + 1074)).toNat := by omega
    rw [units_eq, units_eq, nearestUnits_quotient some' powers, unpack_of_finite positive finite,
      unpack_of_finite positive' finite', div, core, sign_div]
    exact fields_roundWithAccuracy _ some' (by omega) enough

/-! ## Sums and differences -/

/-- The units of a double with its sign. -/
def signedUnits (x : Float) : Int := (sign (isNegative x)).apply (units (magnitude x))

theorem natAbs_signedUnits (x : Float) : (signedUnits x).natAbs = units (magnitude x) := by
  unfold signedUnits sign
  cases isNegative x <;> simp [Sign.apply]

theorem units_pos {bits : Nat} (positive : 0 < bits) : 0 < units bits := by
  rw [units_eq]
  exact Nat.mul_pos (significand_pos positive) (Nat.two_pow_pos _)

/-- A whole number of units with a power of two is rounded to the double nearest to their product. -/
theorem fields_normalize {m : Int} {up : Nat} {e : Int} (scale : e = up - 1074) (nonzero : m ≠ 0) :
    isNegative (ofUnpacked (UnpackedFloat.normalize Format.binary64 m e .positive)) = decide (m < 0) ∧
      magnitude (ofUnpacked (UnpackedFloat.normalize Format.binary64 m e .positive)) =
        nearestUnits (m * 2 ^ up).natAbs 1 := by
  have size : (m * 2 ^ up).natAbs = m.natAbs * 2 ^ up := by
    rw [Int.natAbs_mul, Int.natAbs_pow]
    rfl
  rw [size]
  rcases Int.lt_or_gt_of_ne nonzero with below | above
  · have abs : (-m).toNat = m.natAbs := by omega
    have round := @fields_round true m.natAbs up 0 e (by omega) (by omega)
    unfold UnpackedFloat.normalize
    rw [Int.compare_eq_lt.mpr below, decide_eq_true below, abs]
    exact round
  · have abs : m.toNat = m.natAbs := by omega
    have round := @fields_round false m.natAbs up 0 e (by omega) (by omega)
    unfold UnpackedFloat.normalize
    rw [Int.compare_eq_gt.mpr above, decide_eq_false (by omega), abs]
    exact round

/-- Shifting significands to a common power leaves the units as they are. -/
theorem apply_aligned (s : Sign) (m : Nat) {e low : Int} (least : -1074 ≤ low) (le : low ≤ e) :
    s.apply (decreaseExponent m e low).1 * 2 ^ (low + 1074).toNat =
      s.apply (m * 2 ^ (e + 1074).toNat : Nat) := by
  have places : (e + 1074).toNat = (e - low).toNat + (low + 1074).toNat := by omega
  have shifted : (decreaseExponent m e low).1 = m * 2 ^ (e - low).toNat := Nat.shiftLeft_eq _ _
  rw [shifted, places, Nat.pow_add]
  cases s with
  | positive =>
      change ((m * 2 ^ (e - low).toNat : Nat) : Int) * 2 ^ (low + 1074).toNat =
        ((m * (2 ^ (e - low).toNat * 2 ^ (low + 1074).toNat) : Nat) : Int)
      push_cast
      ring
  | negative =>
      change -((m * 2 ^ (e - low).toNat : Nat) : Int) * 2 ^ (low + 1074).toNat =
        -((m * (2 ^ (e - low).toNat * 2 ^ (low + 1074).toNat) : Nat) : Int)
      push_cast
      ring

theorem signedUnits_of_zero {x : Float} (zero : magnitude x = 0) : signedUnits x = 0 := by
  rw [← Int.natAbs_eq_zero, natAbs_signedUnits, zero, units_zero]

theorem signedUnits_ne_zero {x : Float} (positive : 0 < magnitude x) : signedUnits x ≠ 0 := by
  rw [← Int.natAbs_ne_zero, natAbs_signedUnits]
  exact Nat.ne_of_gt (units_pos positive)

theorem signedUnits_neg_iff {x : Float} (positive : 0 < magnitude x) :
    signedUnits x < 0 ↔ isNegative x = true := by
  have some := units_pos positive
  unfold signedUnits sign
  cases isNegative x with
  | true =>
      change -(units (magnitude x) : Int) < 0 ↔ _
      simp only [iff_true]
      omega
  | false =>
      change (units (magnitude x) : Int) < 0 ↔ _
      simp only [Bool.false_eq_true, iff_false]
      omega

/-- The sign of a sum: the sign of its exact value, or a negative zero when both operands are negative. -/
def isNegativeSum (x y : Float) : Bool :=
  if signedUnits x + signedUnits y = 0 then isNegative x && isNegative y
  else decide (signedUnits x + signedUnits y < 0)

/-- A sum with zero is the other operand. -/
theorem fields_eq_sum {x y : Float} (finite : magnitude y < infinity) (positive : 0 < magnitude y)
    (zero : magnitude x = 0) : isNegative y = isNegativeSum x y ∧
      magnitude y = nearestUnits (signedUnits x + signedUnits y).natAbs 1 := by
  unfold isNegativeSum
  rw [signedUnits_of_zero zero, Int.zero_add, if_neg (signedUnits_ne_zero positive), natAbs_signedUnits,
    nearestUnits_units finite, Bool.eq_iff_iff, decide_eq_true_iff, signedUnits_neg_iff positive]
  exact ⟨Iff.rfl, rfl⟩

theorem isNegativeSum_comm (x y : Float) : isNegativeSum x y = isNegativeSum y x := by
  unfold isNegativeSum
  rw [Int.add_comm, Bool.and_comm]

/-- Two operands that are not zero are brought to one scale, and the sum of their significands is rounded. -/
theorem add_eq_normalize {x y : Float} (finite : magnitude x < infinity) (finite' : magnitude y < infinity)
    (positive : 0 < magnitude x) (positive' : 0 < magnitude y) :
    ∃ (m : Int) (low : Int), -1074 ≤ low ∧
      add Format.binary64 x.toModel.unpack y.toModel.unpack =
        UnpackedFloat.normalize Format.binary64 m low .positive ∧
      m * 2 ^ (low + 1074).toNat = signedUnits x + signedUnits y := by
  have least := le_exponent (magnitude x)
  have least' := le_exponent (magnitude y)
  obtain ⟨low, isLow⟩ : ∃ low, min (exponent (magnitude x)) (exponent (magnitude y)) = low := ⟨_, rfl⟩
  refine ⟨(sign (isNegative x)).apply (decreaseExponent (significand (magnitude x)) (exponent (magnitude x)) low).1 +
    (sign (isNegative y)).apply (decreaseExponent (significand (magnitude y)) (exponent (magnitude y)) low).1,
    low, by omega, ?_, ?_⟩
  · rw [unpack_of_finite positive finite, unpack_of_finite positive' finite', ← isLow]
    rfl
  · unfold signedUnits
    rw [Int.add_mul, apply_aligned _ _ (by omega) (by omega), apply_aligned _ _ (by omega) (by omega),
      units_eq, units_eq]

theorem fields_add_positive {x y : Float} (finite : magnitude x < infinity) (finite' : magnitude y < infinity)
    (positive : 0 < magnitude x) (positive' : 0 < magnitude y) :
    isNegative (x + y) = isNegativeSum x y ∧
      magnitude (x + y) = nearestUnits (signedUnits x + signedUnits y).natAbs 1 := by
  change isNegative (ofUnpacked (add Format.binary64 x.toModel.unpack y.toModel.unpack)) = _ ∧
    magnitude (ofUnpacked (add Format.binary64 x.toModel.unpack y.toModel.unpack)) = _
  obtain ⟨m, low, least, added, sum⟩ := add_eq_normalize finite finite' positive positive'
  have power : (0 : Int) < 2 ^ (low + 1074).toNat := Int.pow_pos (by decide)
  unfold isNegativeSum
  rw [added]
  by_cases zero : m = 0
  · have nothing : signedUnits x + signedUnits y = 0 := by rw [← sum, zero, Int.zero_mul]
    have opposite : (isNegative x && isNegative y) = false := by
      rw [Bool.and_eq_false_iff, ← Bool.not_eq_true, ← Bool.not_eq_true, ← signedUnits_neg_iff positive,
        ← signedUnits_neg_iff positive']
      omega
    rw [if_pos nothing, nothing, opposite, zero]
    exact fields_zero false
  · have something : signedUnits x + signedUnits y ≠ 0 := by
      rw [← sum]
      exact Int.mul_ne_zero zero (Int.ne_of_gt power)
    have negative : signedUnits x + signedUnits y < 0 ↔ m < 0 := by
      rw [← sum]
      exact ⟨fun less => Int.neg_of_mul_neg_left less power, fun less => Int.mul_neg_of_neg_of_pos less power⟩
    rw [if_neg something, decide_eq_decide.mpr negative, ← sum]
    exact fields_normalize (by omega) zero

/-- A sum is nearest to the sum of the units with their signs. -/
theorem fields_add {x y : Float} (finite : magnitude x < infinity) (finite' : magnitude y < infinity) :
    isNegative (x + y) = isNegativeSum x y ∧
      magnitude (x + y) = nearestUnits (signedUnits x + signedUnits y).natAbs 1 := by
  rcases Nat.eq_zero_or_pos (magnitude x) with zero | positive
  · rcases Nat.eq_zero_or_pos (magnitude y) with zero' | positive'
    · change isNegative (ofUnpacked (add Format.binary64 x.toModel.unpack y.toModel.unpack)) = _ ∧
        magnitude (ofUnpacked (add Format.binary64 x.toModel.unpack y.toModel.unpack)) = _
      have nothing : signedUnits x + signedUnits y = 0 := by
        rw [signedUnits_of_zero zero, signedUnits_of_zero zero', Int.add_zero]
      have both : add Format.binary64 (.zero (sign (isNegative x))) (.zero (sign (isNegative y))) =
          .zero (sign (isNegative x && isNegative y)) := by
        cases isNegative x <;> cases isNegative y <;> rfl
      rw [unpack_of_zero zero, unpack_of_zero zero', both, isNegativeSum, if_pos nothing, nothing]
      exact fields_zero _
    · have same : add Format.binary64 x.toModel.unpack y.toModel.unpack = y.toModel.unpack := by
        rw [unpack_of_zero zero, unpack_of_finite positive' finite']
        rfl
      have other : x + y = y := (congrArg ofUnpacked same).trans (ofUnpacked_unpack y)
      rw [other]
      exact fields_eq_sum finite' positive' zero
  · rcases Nat.eq_zero_or_pos (magnitude y) with zero' | positive'
    · have same : add Format.binary64 x.toModel.unpack y.toModel.unpack = x.toModel.unpack := by
        rw [unpack_of_zero zero', unpack_of_finite positive finite]
        rfl
      have other : x + y = x := (congrArg ofUnpacked same).trans (ofUnpacked_unpack x)
      rw [other, isNegativeSum_comm, Int.add_comm]
      exact fields_eq_sum finite positive zero'
    · exact fields_add_positive finite finite' positive positive'

theorem unpack_neg {x : Float} (finite : magnitude x < infinity) :
    (-x).toModel.unpack = x.toModel.unpack.neg := by
  obtain ⟨negated, same⟩ := fields_neg finite
  rcases Nat.eq_zero_or_pos (magnitude x) with zero | positive
  · rw [unpack_of_zero (same.trans zero), unpack_of_zero zero, negated, ← sign_neg]
    rfl
  · rw [unpack_of_finite (same.symm ▸ positive) (same.symm ▸ finite), unpack_of_finite positive finite]
    simp only [same, negated, ← sign_neg]
    rfl

theorem sub_eq_add_neg {x y : Float} (finite : magnitude x < infinity) (finite' : magnitude y < infinity) :
    x - y = x + -y := by
  change ofUnpacked (sub Format.binary64 x.toModel.unpack y.toModel.unpack) =
    ofUnpacked (add Format.binary64 x.toModel.unpack (-y).toModel.unpack)
  rw [unpack_neg finite']
  congr 1
  rcases Nat.eq_zero_or_pos (magnitude x) with zero | positive
  · rw [unpack_of_zero zero]
    rcases Nat.eq_zero_or_pos (magnitude y) with zero' | positive'
    · rw [unpack_of_zero zero']
      rfl
    · rw [unpack_of_finite positive' finite']
      rfl
  · rw [unpack_of_finite positive finite]
    rcases Nat.eq_zero_or_pos (magnitude y) with zero' | positive'
    · rw [unpack_of_zero zero']
      rfl
    · rw [unpack_of_finite positive' finite', UnpackedFloat.neg]
      unfold sub add
      dsimp only
      congr 1
      rw [Int.sub_eq_add_neg]
      congr 1
      cases isNegative y with
      | true => exact Int.neg_neg _
      | false => rfl

theorem signedUnits_neg {x : Float} (finite : magnitude x < infinity) : signedUnits (-x) = -signedUnits x := by
  obtain ⟨negated, same⟩ := fields_neg finite
  unfold signedUnits
  rw [negated, same]
  cases isNegative x with
  | true => exact (Int.neg_neg _).symm
  | false => rfl

/-- A difference is nearest to the difference of the units with their signs. -/
theorem magnitude_sub {x y : Float} (finite : magnitude x < infinity) (finite' : magnitude y < infinity) :
    magnitude (x - y) = nearestUnits (signedUnits x - signedUnits y).natAbs 1 := by
  have same := (fields_neg finite').2
  rw [sub_eq_add_neg finite finite', Int.sub_eq_add_neg, ← signedUnits_neg finite']
  exact (fields_add finite (same.symm ▸ finite')).2

theorem isNegative_sub {x y : Float} (finite : magnitude x < infinity) (finite' : magnitude y < infinity)
    (differ : signedUnits x ≠ signedUnits y) : isNegative (x - y) = decide (signedUnits x < signedUnits y) := by
  have same := (fields_neg finite').2
  rw [sub_eq_add_neg finite finite', (fields_add finite (same.symm ▸ finite')).1, isNegativeSum,
    signedUnits_neg finite', if_neg (by omega), decide_eq_decide]
  omega

end QuicksortStudy.Binary64
