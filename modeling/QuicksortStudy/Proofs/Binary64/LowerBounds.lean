import Mathlib
import QuicksortStudy.Proofs.Binary64.Ranges

/-!
# Doubles from a bound on

Where nothing is known about how large a double can become, it is held above a magnitude only.  What is too large
becomes infinite and stays above the bound, so products and differences need no upper bound for their operands, and
zero divided by what is above a bound is zero.
-/

namespace QuicksortStudy.Binary64

open Float.Model (Format)
open Float.Model.UnpackedFloat

variable {x y : Float} {low low' high' : Nat}

theorem nearestUnits_le_infinity (num den : Nat) : nearestUnits num den ≤ infinity := Nat.min_le_left _ _

/-! ## Infinite operands -/

/-- A product with an infinite factor is infinite, as long as no factor is zero. -/
theorem fields_mul_infinite (infinite : magnitude x = infinity ∨ magnitude y = infinity) (some : 0 < magnitude x)
    (some' : 0 < magnitude y) (number : magnitude x ≤ infinity) (number' : magnitude y ≤ infinity) :
    isNegative (x * y) = (isNegative x ^^ isNegative y) ∧ magnitude (x * y) = infinity := by
  change isNegative (ofUnpacked (mul Format.binary64 x.toModel.unpack y.toModel.unpack)) = _ ∧
    magnitude (ofUnpacked (mul Format.binary64 x.toModel.unpack y.toModel.unpack)) = _
  rcases Nat.lt_or_eq_of_le number with finite | infinite
  · have infinite' := infinite.resolve_left (Nat.ne_of_lt finite)
    rw [unpack_of_finite some finite, unpack_of_infinite infinite', mul, sign_mul]
    exact fields_infinity _
  · rcases Nat.lt_or_eq_of_le number' with finite' | infinite'
    · rw [unpack_of_infinite infinite, unpack_of_finite some' finite', mul, sign_mul]
      exact fields_infinity _
    · rw [unpack_of_infinite infinite, unpack_of_infinite infinite', mul, sign_mul]
      exact fields_infinity _

/-- Infinity stays as it is when something finite is taken from it. -/
theorem sub_of_infinite (infinite : magnitude x = infinity) (finite : magnitude y < infinity) : x - y = x := by
  have same : sub Format.binary64 x.toModel.unpack y.toModel.unpack = x.toModel.unpack := by
    rw [unpack_of_infinite infinite]
    rcases Nat.eq_zero_or_pos (magnitude y) with zero | some
    · rw [unpack_of_zero zero]
      rfl
    · rw [unpack_of_finite some finite]
      rfl
  change ofUnpacked (sub Format.binary64 x.toModel.unpack y.toModel.unpack) = x
  rw [same, ofUnpacked_unpack]

theorem magnitude_zero : magnitude 0.0 = 0 := by decide +kernel

theorem isNegative_zero : isNegative 0.0 = false := by decide +kernel

theorem eq_zero_of_fields (positive : isNegative x = false) (zero : magnitude x = 0) : x = 0.0 :=
  eq_of_fields (positive.trans isNegative_zero.symm) (zero.trans magnitude_zero.symm)

theorem zero_div_infinite (infinite : magnitude y = infinity) (positive : isNegative y = false) : 0.0 / y = 0.0 := by
  have fields : isNegative (0.0 / y) = (isNegative 0.0 ^^ isNegative y) ∧ magnitude (0.0 / y) = 0 := by
    change isNegative (ofUnpacked (div Format.binary64 (0.0 : Float).toModel.unpack y.toModel.unpack)) = _ ∧
      magnitude (ofUnpacked (div Format.binary64 (0.0 : Float).toModel.unpack y.toModel.unpack)) = _
    rw [unpack_of_zero magnitude_zero, unpack_of_infinite infinite, div, sign_div]
    exact fields_zero _
  refine eq_zero_of_fields ?_ fields.2
  rw [fields.1, isNegative_zero, positive]
  rfl

/-! ## Bounds -/

/-- A double that is not negative and not below a magnitude.  It can be infinite. -/
structure AtLeast (low : Nat) (x : Float) : Prop where
  positive : isNegative x = false
  above : low ≤ magnitude x
  number : magnitude x ≤ infinity

namespace AtLeast

theorem between (bound : AtLeast low x) (finite : magnitude x < infinity) : Between low (magnitude x) x :=
  ⟨bound.positive, bound.above, Nat.le_refl _, finite⟩

theorem weaken (bound : AtLeast low x) (lower : low' ≤ low) : AtLeast low' x :=
  ⟨bound.positive, Nat.le_trans lower bound.above, bound.number⟩

theorem ofNat {least n : Nat} (le : least ≤ n) : AtLeast (nearest least 1) (ofNat n) := by
  refine ⟨isNegative_ofNat n, ?_, ?_⟩
  · rw [magnitude_ofNat]
    exact nearest_mono Nat.one_pos Nat.one_pos (Nat.mul_le_mul_right 1 le)
  · rw [magnitude_ofNat]
    exact Nat.min_le_left _ _

theorem mul (bound : AtLeast low x) (bound' : AtLeast low' y) (some : 0 < low) (some' : 0 < low') :
    AtLeast (nearestUnits (units low * units low') unitsPerOne) (x * y) := by
  have positive : (isNegative x ^^ isNegative y) = false := by
    rw [bound.positive, bound'.positive]
    rfl
  by_cases finite : magnitude x < infinity ∧ magnitude y < infinity
  · obtain ⟨sign, product⟩ := fields_mul finite.1 finite.2
    refine ⟨sign.trans positive, ?_, ?_⟩
    · rw [product]
      exact nearestUnits_mono _ (Nat.mul_le_mul (units_mono finite.1 bound.above) (units_mono finite.2 bound'.above))
    · rw [product]
      exact nearestUnits_le_infinity _ _
  · have number := bound.number
    have number' := bound'.number
    obtain ⟨sign, product⟩ := fields_mul_infinite (by omega) (Nat.lt_of_lt_of_le some bound.above)
      (Nat.lt_of_lt_of_le some' bound'.above) number number'
    refine ⟨sign.trans positive, ?_, Nat.le_of_eq product⟩
    rw [product]
    exact nearestUnits_le_infinity _ _

/-- The difference to a smaller double. -/
theorem sub (bound : AtLeast low x) (range : Between low' high' y) (less : units high' < units low) :
    AtLeast (nearestUnits (units low - units high') 1) (x - y) := by
  rcases Nat.lt_or_eq_of_le bound.number with finite | infinite
  · have bounded : nearestUnits (units (magnitude x) - units low') 1 < infinity := by
      refine Nat.lt_of_le_of_lt (nearestUnits_mono 1 (Nat.sub_le _ _)) ?_
      rwa [nearestUnits_units finite]
    have difference := (bound.between finite).sub range less bounded
    exact ⟨difference.positive, difference.above, Nat.le_of_lt difference.finite⟩
  · rw [sub_of_infinite infinite range.finite]
    refine ⟨bound.positive, ?_, bound.number⟩
    rw [infinite]
    exact nearestUnits_le_infinity _ _

theorem zero_div (bound : AtLeast low x) (some : 0 < low) : 0.0 / x = 0.0 := by
  rcases Nat.lt_or_eq_of_le bound.number with finite | infinite
  · have nothing : magnitude 0.0 < infinity := by
      rw [magnitude_zero]
      decide
    obtain ⟨sign, quotient⟩ := fields_div nothing finite (Nat.lt_of_lt_of_le some bound.above)
    rw [magnitude_zero, units_zero, Nat.zero_mul, nearestUnits_zero] at quotient
    refine eq_zero_of_fields ?_ quotient
    rw [sign, isNegative_zero, bound.positive]
    rfl
  · exact zero_div_infinite infinite bound.positive

end AtLeast

end QuicksortStudy.Binary64
