import Mathlib
import QuicksortStudy.Proofs.Binary64.Nearest

/-!
# Rounding the unpacked form

The arithmetic of doubles rounds a significand with two residual bits to the format.  Here the significand
and its bits are read as a fraction of naturals, and what comes out is packed.  The magnitude that results
is the one of the double nearest to the fraction.
-/

namespace QuicksortStudy.Binary64

open Float.Model
open Float.Model.UnpackedFloat

/-! ## Significands with residual bits -/

/-- A fraction as a significand with two residual bits: whether what is left over is at least one half, and
whether it is neither nothing nor exactly one half. -/
def extended (num den : Nat) : ExtendedMantissa :=
  ⟨num / den, decide (den ≤ 2 * (num % den)), decide (num % den ≠ 0 ∧ 2 * (num % den) ≠ den)⟩

theorem ofMantissaAndAccuracy_fraction {den : Nat} (positive : 0 < den) (num : Nat) :
    ExtendedMantissa.ofMantissaAndAccuracy (num / den) (accuracyOfFraction (num % den) den) =
      extended num den := by
  unfold accuracyOfFraction extended
  by_cases zero : num % den = 0
  · rw [if_pos zero, zero]
    simp [ExtendedMantissa.ofMantissaAndAccuracy, Nat.ne_of_gt positive]
  · rw [if_neg zero]
    rcases Nat.lt_trichotomy (2 * (num % den)) den with less | same | more
    · rw [Nat.compare_eq_lt.mpr less]
      simp [ExtendedMantissa.ofMantissaAndAccuracy, zero, Nat.not_le.mpr less, Nat.ne_of_lt less]
    · rw [Nat.compare_eq_eq.mpr same]
      simp [ExtendedMantissa.ofMantissaAndAccuracy, same]
    · rw [Nat.compare_eq_gt.mpr more]
      simp [ExtendedMantissa.ofMantissaAndAccuracy, zero, Nat.le_of_lt more, Nat.ne_of_gt more]

theorem ofMantissaAndAccuracy_exact (num : Nat) :
    ExtendedMantissa.ofMantissaAndAccuracy num .exact = extended num 1 := by
  have fraction := ofMantissaAndAccuracy_fraction Nat.one_pos num
  rw [Nat.div_one, Nat.mod_one] at fraction
  exact fraction

/-- Dropping the last bit doubles the denominator. -/
theorem shiftRightOne_extended {den : Nat} (positive : 0 < den) (num : Nat) :
    (extended num den).shiftRightOne = extended num (den * 2) := by
  have rest : num % (den * 2) = num % den + den * (num / den % 2) := Nat.mod_mul
  have below : num % den < den := Nat.mod_lt num positive
  have quotient : num / (den * 2) = num / den / 2 := (Nat.div_div_eq_div_mul num den 2).symm
  unfold extended ExtendedMantissa.shiftRightOne
  rw [ExtendedMantissa.mk.injEq]
  refine ⟨quotient.symm, ?_, ?_⟩
  · rcases Nat.mod_two_eq_zero_or_one (num / den) with even | odd
    · rw [even, Nat.mul_zero] at rest
      simp only [even, rest]
      simp
      omega
    · rw [odd, Nat.mul_one] at rest
      simp only [odd, rest]
      simp
      omega
  · rcases Nat.mod_two_eq_zero_or_one (num / den) with even | odd
    · rw [even, Nat.mul_zero] at rest
      rw [rest, ← Bool.decide_or, decide_eq_decide]
      omega
    · rw [odd, Nat.mul_one] at rest
      rw [rest, ← Bool.decide_or, decide_eq_decide]
      omega

theorem shiftRight_extended {den : Nat} (positive : 0 < den) (num bits : Nat) :
    extended num den >>> bits = extended num (den * 2 ^ bits) := by
  change bits.repeat ExtendedMantissa.shiftRightOne (extended num den) = _
  induction bits with
  | zero => rw [Nat.repeat, Nat.pow_zero, Nat.mul_one]
  | succ bits ih =>
      rw [Nat.repeat, ih, shiftRightOne_extended (Nat.mul_pos positive (Nat.two_pow_pos bits)), Nat.mul_assoc,
        Nat.pow_succ]

/-- The residual bits decide the rounding of the fraction. -/
theorem roundedMantissa_extended (num den : Nat) :
    (extended num den).roundedMantissa = divRoundEven num den := by
  unfold divRoundEven extended
  dsimp only
  rcases Nat.lt_trichotomy (2 * (num % den)) den with less | same | more
  · rw [if_pos less, decide_eq_false (Nat.not_le.mpr less)]
    cases decide (num % den ≠ 0 ∧ 2 * (num % den) ≠ den) <;> rfl
  · have half : ¬(num % den ≠ 0 ∧ 2 * (num % den) ≠ den) := fun bits => bits.2 same
    rw [if_neg (by omega), if_neg (by omega), decide_eq_true (Nat.le_of_eq same.symm), decide_eq_false half]
    rfl
  · have beyond : num % den ≠ 0 ∧ 2 * (num % den) ≠ den := by omega
    rw [if_neg (by omega), if_pos more, decide_eq_true (Nat.le_of_lt more), decide_eq_true beyond]
    rfl

/-! ## Rounding to the format -/

theorem targetExponent_eq (m : Nat) (e : Int) :
    Format.binary64.targetExponent (totalExponent m e) = max (m.log2 - 52 + e) (-1074) := by
  unfold Format.targetExponent totalExponent
  change max ((m.log2 : Int) + 1 + e - 53) (-1074) = _
  omega

/-- How many places a quotient has after its fraction was multiplied by a power of two. -/
theorem log2_div_scaled {num den up down : Nat} (positive : 0 < den) (enough : up ≤ down ∨ den ≤ num) :
    (num * 2 ^ up / (den * 2 ^ down)).log2 = (num / den).log2 + up - down := by
  rcases Nat.lt_or_ge num den with small | large
  · have less : num * 2 ^ up < den * 2 ^ down :=
      Nat.mul_lt_mul_of_lt_of_le small (Nat.pow_le_pow_right Nat.two_pos (by omega)) (Nat.two_pow_pos _)
    rw [Nat.div_eq_of_lt less, Nat.div_eq_of_lt small, Nat.log2_zero]
    omega
  · have nonzero : num / den ≠ 0 := Nat.ne_of_gt (Nat.div_pos large positive)
    have lower : 2 ^ (num / den).log2 * den ≤ num :=
      (Nat.le_div_iff_mul_le positive).mp (Nat.log2_self_le nonzero)
    have upper : num < 2 ^ ((num / den).log2 + 1) * den :=
      (Nat.div_lt_iff_lt_mul positive).mp Nat.lt_log2_self
    have positive' : 0 < den * 2 ^ down := Nat.mul_pos positive (Nat.two_pow_pos _)
    generalize (num / den).log2 = places at *
    rcases Nat.lt_or_ge (places + up) down with none | some
    · have less : num * 2 ^ up < den * 2 ^ down := by
        calc num * 2 ^ up < 2 ^ (places + 1) * den * 2 ^ up := Nat.mul_lt_mul_of_pos_right upper (Nat.two_pow_pos _)
          _ = den * 2 ^ (places + 1 + up) := by ring
          _ ≤ den * 2 ^ down := Nat.mul_le_mul_left _ (Nat.pow_le_pow_right Nat.two_pos (by omega))
      rw [Nat.div_eq_of_lt less, Nat.log2_zero]
      omega
    · have lower' : 2 ^ (places + up - down) * (den * 2 ^ down) ≤ num * 2 ^ up := by
        calc 2 ^ (places + up - down) * (den * 2 ^ down) = 2 ^ (places + up - down + down) * den := by ring
          _ = 2 ^ places * den * 2 ^ up := by rw [Nat.sub_add_cancel some]; ring
          _ ≤ num * 2 ^ up := Nat.mul_le_mul_right _ lower
      have upper' : num * 2 ^ up < 2 ^ (places + up - down + 1) * (den * 2 ^ down) := by
        calc num * 2 ^ up < 2 ^ (places + 1) * den * 2 ^ up := Nat.mul_lt_mul_of_pos_right upper (Nat.two_pow_pos _)
          _ = 2 ^ (places + up - down + down + 1) * den := by rw [Nat.sub_add_cancel some]; ring
          _ = 2 ^ (places + up - down + 1) * (den * 2 ^ down) := by ring
      have above := (Nat.le_div_iff_mul_le positive').mpr lower'
      refine (Nat.log2_eq_iff ?_).mpr ⟨above, (Nat.div_lt_iff_lt_mul positive').mpr upper'⟩
      exact Nat.ne_of_gt (Nat.lt_of_lt_of_le (Nat.two_pow_pos _) above)

/-- A significand after it was rounded.  If the rounding has carried into one more bit, the zero at the end is
dropped. -/
def carried (s : Sign) (m : Nat) (e : Int) : UnpackedFloat :=
  let shift := (max (m.log2 - 52 + e) (-1074) - e).toNat
  if zero : m / 2 ^ shift = 0 then .zero s
  else .finite s (m / 2 ^ shift) (e + shift) (Nat.pos_of_ne_zero zero)

theorem roundWithAccuracy_eq (s : Sign) {num den : Nat} (positive : 0 < den) (e : Int) :
    roundWithAccuracy Format.binary64 s (num / den) e (accuracyOfFraction (num % den) den) =
      carried s (divRoundEven num (den * 2 ^ (max ((num / den).log2 - 52 + e) (-1074) - e).toNat))
        (e + (max ((num / den).log2 - 52 + e) (-1074) - e).toNat) := by
  unfold roundWithAccuracy shiftToTargetExponent shiftToExponent carried
  dsimp only
  rw [ofMantissaAndAccuracy_fraction positive, ofMantissaAndAccuracy_exact, targetExponent_eq,
    shiftRight_extended positive, roundedMantissa_extended, targetExponent_eq, shiftRight_extended Nat.one_pos]
  simp only [extended, Nat.one_mul]

theorem fields_carried (negative : Bool) {m : Nat} {e : Int} (least : -1074 ≤ e)
    (short : m ≤ 2 * exponentWeight)
    (full : exponentWeight ≤ m ∨ e = -1074) :
    isNegative (ofUnpacked (carried (sign negative) m e)) = negative ∧
      magnitude (ofUnpacked (carried (sign negative) m e)) =
        min infinity ((e + 1074).toNat * exponentWeight + m) := by
  rcases Nat.eq_zero_or_pos m with rfl | positive
  · have subnormal : e = -1074 := full.resolve_left (by decide)
    have zero : carried (sign negative) 0 e = .zero (sign negative) := dif_pos (Nat.zero_div _)
    rw [zero, subnormal]
    exact fields_zero negative
  · rcases Nat.lt_or_eq_of_le short with fits | carry
    · have logged : m.log2 < 53 := (Nat.log2_lt (Nat.ne_of_gt positive)).mpr fits
      have still : (max ((m.log2 : Int) - 52 + e) (-1074) - e).toNat = 0 := by omega
      have same : carried (sign negative) m e = .finite (sign negative) m e positive := by
        unfold carried
        simp only [still, Nat.pow_zero, Nat.div_one, Int.natCast_zero, Int.add_zero]
        exact dif_neg (Nat.ne_of_gt positive)
      rw [same]
      exact fields_finite negative positive least fits full
    · -- The rounding has carried: all bits but the highest are zero, so half the significand loses nothing.
      have logged : m.log2 = 53 := by
        rw [carry]
        decide
      have one : (max ((m.log2 : Int) - 52 + e) (-1074) - e).toNat = 1 := by omega
      have half : m / 2 ^ 1 = exponentWeight := by omega
      have dropped : carried (sign negative) m e =
          .finite (sign negative) exponentWeight (e + 1) (by decide) := by
        unfold carried
        simp only [one, half]
        exact dif_neg (by decide)
      have power : (e + 1 + 1074).toNat * exponentWeight + exponentWeight =
          (e + 1074).toNat * exponentWeight + m := by
        rw [carry, exponentWeight_eq]
        omega
      rw [dropped, ← power]
      exact fields_finite negative (by decide) (by omega) (by decide) (.inl (Nat.le_refl _))

/-- What a significand that stands for a fraction is rounded and packed to: the double nearest to the fraction. -/
theorem fields_roundWithAccuracy (negative : Bool) {num den up down : Nat} {e : Int} (positive : 0 < den)
    (scale : e = up - down - 1074) (enough : up ≤ down ∨ exponentWeight ≤ num / den) :
    isNegative (ofUnpacked (roundWithAccuracy Format.binary64 (sign negative) (num / den) e
        (accuracyOfFraction (num % den) den))) = negative ∧
      magnitude (ofUnpacked (roundWithAccuracy Format.binary64 (sign negative) (num / den) e
        (accuracyOfFraction (num % den) den))) = nearestUnits (num * 2 ^ up) (den * 2 ^ down) := by
  have large : up ≤ down ∨ den ≤ num ∧ 52 ≤ (num / den).log2 := by
    refine enough.imp_right fun full => ?_
    have nonzero : num / den ≠ 0 := by
      rw [exponentWeight_eq] at full
      omega
    exact ⟨(Nat.div_ne_zero_iff.mp nonzero).2, (Nat.le_log2 nonzero).mpr full⟩
  have logged := @log2_div_scaled num den up down positive (large.imp_right And.left)
  have bounded := significand_le_of_rounded (num * 2 ^ up) (den * 2 ^ down)
  have full := @le_significand_of_rounded (num * 2 ^ up) (den * 2 ^ down)
  rw [roundWithAccuracy_eq _ positive]
  unfold nearestUnits
  dsimp only
  rw [logged] at bounded full ⊢
  obtain ⟨shift, shifted⟩ : ∃ shift, (max (((num / den).log2 : Int) - 52 + e) (-1074) - e).toNat = shift :=
    ⟨_, rfl⟩
  obtain ⟨power, raised⟩ : ∃ power, (num / den).log2 + up - down - 52 = power := ⟨_, rfl⟩
  -- Places are counted on the fraction as given for the one, in units of the least double for the other.
  have sum : down + power = up + shift := by omega
  have same : divRoundEven num (den * 2 ^ shift) =
      divRoundEven (num * 2 ^ up) ((den * 2 ^ down) <<< power) := by
    have scaled := divRoundEven_scale num (den * 2 ^ shift) (Nat.two_pow_pos up)
    rw [← scaled, Nat.shiftLeft_eq, Nat.mul_assoc den (2 ^ down), ← Nat.pow_add, sum, Nat.pow_add, Nat.mul_comm num,
      Nat.mul_left_comm]
  have exponents : (e + shift + 1074).toNat = power := by omega
  rw [shifted]
  rw [raised, ← same] at bounded full ⊢
  have filled : exponentWeight ≤ divRoundEven num (den * 2 ^ shift) ∨ e + shift = -1074 := by
    rcases Nat.eq_zero_or_pos power with none | some
    · exact .inr (by omega)
    · exact .inl (full some)
  rw [← exponents]
  exact fields_carried negative (by omega) bounded filled

theorem fields_roundWithAccuracy_exact (negative : Bool) {m up down : Nat} {e : Int}
    (scale : e = up - down - 1074) (enough : up ≤ down ∨ exponentWeight ≤ m) :
    isNegative (ofUnpacked (roundWithAccuracy Format.binary64 (sign negative) m e .exact)) = negative ∧
      magnitude (ofUnpacked (roundWithAccuracy Format.binary64 (sign negative) m e .exact)) =
        nearestUnits (m * 2 ^ up) (2 ^ down) := by
  have fields := @fields_roundWithAccuracy negative m 1 up down e Nat.one_pos scale (by rwa [Nat.div_one])
  rw [Nat.div_one, Nat.mod_one, Nat.one_mul] at fields
  exact fields

/-- What any significand with a power of two is rounded and packed to: the double nearest to their product. -/
theorem fields_round (negative : Bool) {m up down : Nat} {e : Int} (positive : 0 < m)
    (scale : e = up - down - 1074) :
    isNegative (ofUnpacked (UnpackedFloat.round Format.binary64 (sign negative) m e)) = negative ∧
      magnitude (ofUnpacked (UnpackedFloat.round Format.binary64 (sign negative) m e)) =
        nearestUnits (m * 2 ^ up) (2 ^ down) := by
  unfold UnpackedFloat.round decreaseExponent
  dsimp only
  rw [targetExponent_eq, Nat.shiftLeft_eq]
  obtain ⟨shift, shifted⟩ : ∃ shift, (e - max ((m.log2 : Int) - 52 + e) (-1074)).toNat = shift := ⟨_, rfl⟩
  rw [shifted]
  have enough : up ≤ down + shift ∨ exponentWeight ≤ m * 2 ^ shift := by
    rcases Nat.lt_or_ge (down + shift) up with normal | subnormal
    · right
      calc exponentWeight = 2 ^ 52 := rfl
        _ ≤ 2 ^ (m.log2 + shift) := Nat.pow_le_pow_right Nat.two_pos (by omega)
        _ = 2 ^ m.log2 * 2 ^ shift := Nat.pow_add _ _ _
        _ ≤ m * 2 ^ shift := Nat.mul_le_mul_right _ (Nat.log2_self_le (Nat.ne_of_gt positive))
    · exact .inl subnormal
  have same : nearestUnits (m * 2 ^ shift * 2 ^ up) (2 ^ (down + shift)) =
      nearestUnits (m * 2 ^ up) (2 ^ down) :=
    nearestUnits_congr (Nat.two_pow_pos _) (Nat.two_pow_pos _) (by ring)
  rw [← same]
  exact fields_roundWithAccuracy_exact negative (by omega) enough

end QuicksortStudy.Binary64
