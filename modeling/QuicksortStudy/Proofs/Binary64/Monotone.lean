import Mathlib
import QuicksortStudy.Proofs.Binary64.LowerBounds
import QuicksortStudy.Proofs.Binary64.Order

/-!
# Monotone arithmetic

The level of a result is the level nearest to the exact result, and a larger exact result has a level that is no lower.
So sums, differences and quotients by something positive keep the order of the operand that changes.  This also holds
for infinite operands and for results that are too large, as long as the other operand is finite.
-/

namespace QuicksortStudy.Binary64

open Float.Model (Format)
open Float.Model.UnpackedFloat

variable {x y z : Float}

/-! ## Exact results and levels -/

/-- The level of the double nearest to a fraction of units with a sign. -/
def nearestLevel (num : Int) (den : Nat) : Int :=
  if num < 0 then -nearestUnits num.natAbs den else nearestUnits num.natAbs den

theorem nearestLevel_mono (den : Nat) {num larger : Int} (le : num ≤ larger) :
    nearestLevel num den ≤ nearestLevel larger den := by
  unfold nearestLevel
  split_ifs with below below'
  · have sizes : larger.natAbs ≤ num.natAbs := by omega
    have rounded := nearestUnits_mono den sizes
    omega
  · omega
  · omega
  · have sizes : num.natAbs ≤ larger.natAbs := by omega
    have rounded := nearestUnits_mono den sizes
    omega

theorem nearestLevel_natCast (num den : Nat) : nearestLevel num den = nearestUnits num den :=
  if_neg (Int.not_lt.mpr (Int.natCast_nonneg num))

theorem nearestLevel_neg (num : Int) (den : Nat) : nearestLevel (-num) den = -nearestLevel num den := by
  unfold nearestLevel
  rw [Int.natAbs_neg]
  rcases Int.lt_trichotomy num 0 with below | rfl | above
  · rw [if_neg (by omega), if_pos below, Int.neg_neg]
  · rw [Int.natAbs_zero, nearestUnits_zero]
    rfl
  · rw [if_pos (by omega), if_neg (by omega)]

theorem level_of_fields {num : Int} {den : Nat} (signed : num ≠ 0 → isNegative x = decide (num < 0))
    (nearest : magnitude x = nearestUnits num.natAbs den) : level x = nearestLevel num den := by
  unfold nearestLevel
  rcases eq_or_ne num 0 with rfl | some
  · have zero : magnitude x = 0 := nearest.trans (nearestUnits_zero den)
    have size := natAbs_level x
    rw [if_neg (Int.lt_irrefl 0), ← nearest]
    omega
  · have negative := signed some
    split_ifs with below
    · rw [level_of_negative (negative.trans (decide_eq_true below)), nearest]
    · rw [level_of_positive (negative.trans (decide_eq_false below)), nearest]

theorem signedUnits_eq_zero_iff : signedUnits x = 0 ↔ magnitude x = 0 := by
  refine ⟨fun zero => ?_, signedUnits_of_zero⟩
  by_contra some
  exact signedUnits_ne_zero (Nat.pos_of_ne_zero some) zero

theorem isNegative_of_signedUnits (some : signedUnits x ≠ 0) : isNegative x = decide (signedUnits x < 0) := by
  have positive := Nat.pos_of_ne_zero (mt signedUnits_eq_zero_iff.mpr some)
  rw [Bool.eq_iff_iff, decide_eq_true_iff, signedUnits_neg_iff positive]

/-- A finite double is at the level nearest to its own units. -/
theorem level_eq (finite : magnitude x < infinity) : level x = nearestLevel (signedUnits x) 1 := by
  refine level_of_fields isNegative_of_signedUnits ?_
  rw [natAbs_signedUnits, nearestUnits_units finite]

theorem level_add (finite : magnitude x < infinity) (finite' : magnitude y < infinity) :
    level (x + y) = nearestLevel (signedUnits x + signedUnits y) 1 := by
  obtain ⟨sign, sum⟩ := fields_add finite finite'
  refine level_of_fields (fun some => ?_) sum
  rw [sign, isNegativeSum, if_neg some]

theorem level_sub (finite : magnitude x < infinity) (finite' : magnitude y < infinity) :
    level (x - y) = nearestLevel (signedUnits x - signedUnits y) 1 := by
  refine level_of_fields (fun some => ?_) (magnitude_sub finite finite')
  have differ : signedUnits x ≠ signedUnits y := by omega
  rw [isNegative_sub finite finite' differ, decide_eq_decide]
  omega

/-- The quotient by a positive double. -/
theorem level_div (finite : magnitude x < infinity) (finite' : magnitude y < infinity)
    (positive : isNegative y = false) (some : 0 < magnitude y) :
    level (x / y) = nearestLevel (signedUnits x * unitsPerOne) (units (magnitude y)) := by
  have one := unitsPerOne_pos
  obtain ⟨sign, quotient⟩ := fields_div finite finite' some
  refine level_of_fields (fun nonzero => ?_) ?_
  · have nonzero : signedUnits x ≠ 0 := left_ne_zero_of_mul nonzero
    rw [sign, positive, Bool.xor_false, isNegative_of_signedUnits nonzero, decide_eq_decide]
    have positive : (0 : Int) < unitsPerOne := Int.natCast_pos.mpr one
    exact ⟨fun below => Int.mul_neg_of_neg_of_pos below positive,
      fun below => Int.neg_of_mul_neg_left below positive⟩
  · rw [quotient, Int.natAbs_mul, natAbs_signedUnits, Int.natAbs_natCast]

theorem level_one : level 1.0 = nearestUnits unitsPerOne 1 := by decide +kernel

theorem level_div_self (finite : magnitude x < infinity) (positive : isNegative x = false) (some : 0 < magnitude x) :
    level (x / x) = level 1.0 := by
  have own : signedUnits x = units (magnitude x) := by
    unfold signedUnits
    rw [positive]
    rfl
  have units : 0 < units (magnitude x) := units_pos some
  rw [level_div finite finite positive some, own, ← Int.natCast_mul, nearestLevel_natCast, level_one,
    nearestUnits_congr units Nat.one_pos (by rw [Nat.mul_one, Nat.mul_comm])]

/-! ## Order of units -/

theorem signedUnits_eq_of_level_eq (same : level x = level y) : signedUnits x = signedUnits y := by
  rcases eq_of_level_eq same with rfl | ⟨zero, zero'⟩
  · rfl
  · rw [signedUnits_of_zero zero, signedUnits_of_zero zero']

/-- Finite doubles are in the order of their units. -/
theorem signedUnits_le_iff (finite : magnitude x < infinity) (finite' : magnitude y < infinity) :
    signedUnits x ≤ signedUnits y ↔ level x ≤ level y := by
  constructor
  · intro le
    rw [level_eq finite, level_eq finite']
    exact nearestLevel_mono 1 le
  · intro le
    rcases Int.lt_or_eq_of_le le with less | same
    · by_contra more
      have rounded := nearestLevel_mono 1 (Int.le_of_lt (Int.lt_of_not_ge more))
      rw [← level_eq finite, ← level_eq finite'] at rounded
      omega
    · exact Int.le_of_eq (signedUnits_eq_of_level_eq same)

theorem signedUnits_lt_iff (finite : magnitude x < infinity) (finite' : magnitude y < infinity) :
    signedUnits x < signedUnits y ↔ level x < level y := by
  rw [← Int.not_le, ← Int.not_le, signedUnits_le_iff finite' finite]

/-! ## Infinite operands -/

theorem level_le (number : magnitude x ≤ infinity) : -infinity ≤ level x ∧ level x ≤ infinity := by
  have size := natAbs_level x
  omega

theorem infinite_iff : magnitude x = infinity ↔ level x = infinity ∨ level x = -infinity := by
  have size := natAbs_level x
  omega

theorem add_of_infinite (infinite : magnitude x = infinity) (finite : magnitude y < infinity) : x + y = x := by
  have same : add Format.binary64 x.toModel.unpack y.toModel.unpack = x.toModel.unpack := by
    rw [unpack_of_infinite infinite]
    rcases Nat.eq_zero_or_pos (magnitude y) with zero | some
    · rw [unpack_of_zero zero]
      rfl
    · rw [unpack_of_finite some finite]
      rfl
  change ofUnpacked (add Format.binary64 x.toModel.unpack y.toModel.unpack) = x
  rw [same, ofUnpacked_unpack]

theorem fields_div_infinite (infinite : magnitude x = infinity) (finite : magnitude y < infinity)
    (some : 0 < magnitude y) :
    isNegative (x / y) = (isNegative x ^^ isNegative y) ∧ magnitude (x / y) = infinity := by
  change isNegative (ofUnpacked (div Format.binary64 x.toModel.unpack y.toModel.unpack)) = _ ∧
    magnitude (ofUnpacked (div Format.binary64 x.toModel.unpack y.toModel.unpack)) = _
  rw [unpack_of_infinite infinite, unpack_of_finite some finite, div, sign_div]
  exact fields_infinity _

/-- Infinity stays as it is when it is divided by something positive. -/
theorem div_of_infinite (infinite : magnitude x = infinity) (finite : magnitude y < infinity)
    (positive : isNegative y = false) (some : 0 < magnitude y) : x / y = x := by
  obtain ⟨sign, size⟩ := fields_div_infinite infinite finite some
  refine eq_of_fields ?_ (size.trans infinite.symm)
  rw [sign, positive, Bool.xor_false]

/-- Something finite is lost when it is divided by infinity. -/
theorem magnitude_div_infinite (finite : magnitude x < infinity) (infinite : magnitude y = infinity) :
    magnitude (x / y) = 0 := by
  change magnitude (ofUnpacked (div Format.binary64 x.toModel.unpack y.toModel.unpack)) = 0
  rcases Nat.eq_zero_or_pos (magnitude x) with zero | some
  · rw [unpack_of_zero zero, unpack_of_infinite infinite, div, sign_div]
    exact (fields_zero _).2
  · rw [unpack_of_finite some finite, unpack_of_infinite infinite, div, sign_div]
    exact (fields_zero _).2

/-- Infinity has no place in infinity. -/
theorem isNaN_infinite_div_infinite (infinite : magnitude x = infinity) (infinite' : magnitude y = infinity) :
    infinity < magnitude (x / y) := by
  change infinity < magnitude (ofUnpacked (div Format.binary64 x.toModel.unpack y.toModel.unpack))
  rw [unpack_of_infinite infinite, unpack_of_infinite infinite', div]
  decide +kernel

/-! ## Results are numbers -/

theorem number_add (number : magnitude x ≤ infinity) (finite : magnitude y < infinity) :
    magnitude (x + y) ≤ infinity := by
  rcases Nat.lt_or_eq_of_le number with finite' | infinite
  · rw [(fields_add finite' finite).2]
    exact nearestUnits_le_infinity _ _
  · rwa [add_of_infinite infinite finite]

theorem number_sub (number : magnitude x ≤ infinity) (finite : magnitude y < infinity) :
    magnitude (x - y) ≤ infinity := by
  rcases Nat.lt_or_eq_of_le number with finite' | infinite
  · rw [magnitude_sub finite' finite]
    exact nearestUnits_le_infinity _ _
  · rwa [sub_of_infinite infinite finite]

theorem number_div (number : magnitude x ≤ infinity) (finite : magnitude y < infinity) (some : 0 < magnitude y) :
    magnitude (x / y) ≤ infinity := by
  rcases Nat.lt_or_eq_of_le number with finite' | infinite
  · rw [(fields_div finite' finite some).2]
    exact nearestUnits_le_infinity _ _
  · exact Nat.le_of_eq (fields_div_infinite infinite finite some).2

/-! ## Results keep the order -/

/-- An operation that leaves infinity as it is keeps the order of all numbers if it keeps that of finite ones. -/
theorem level_mono_of {f : Float → Float} (number : ∀ {x}, magnitude x ≤ infinity → magnitude (f x) ≤ infinity)
    (infinite : ∀ {x}, magnitude x = infinity → f x = x)
    (finite : ∀ {x y}, magnitude x < infinity → magnitude y < infinity → level x ≤ level y → level (f x) ≤ level (f y))
    (numberX : magnitude x ≤ infinity) (numberY : magnitude y ≤ infinity) (le : level x ≤ level y) :
    level (f x) ≤ level (f y) := by
  have boundX := level_le numberX
  have boundY := level_le numberY
  have boundX' := level_le (number numberX)
  have boundY' := level_le (number numberY)
  rcases Nat.lt_or_eq_of_le numberX with finiteX | infiniteX
  · rcases Nat.lt_or_eq_of_le numberY with finiteY | infiniteY
    · exact finite finiteX finiteY le
    · rw [infinite infiniteY] at boundY' ⊢
      rcases infinite_iff.mp infiniteY with above | below
      · omega
      · have infiniteX := infinite_iff.mpr (.inr (Int.le_antisymm (below ▸ le) boundX.1))
        omega
  · rw [infinite infiniteX] at boundX' ⊢
    rcases infinite_iff.mp infiniteX with above | below
    · have infiniteY := infinite_iff.mpr (.inl (Int.le_antisymm boundY.2 (above ▸ le)))
      rw [infinite infiniteY]
      exact le
    · omega

theorem level_sub_mono (finite : magnitude z < infinity) (number : magnitude x ≤ infinity)
    (number' : magnitude y ≤ infinity) (le : level x ≤ level y) : level (x - z) ≤ level (y - z) := by
  refine @level_mono_of x y (· - z) (fun number => number_sub number finite)
    (fun infinite => sub_of_infinite infinite finite) (fun {x y} finiteX finiteY le => ?_) number number' le
  have units := (signedUnits_le_iff finiteX finiteY).mpr le
  rw [level_sub finiteX finite, level_sub finiteY finite]
  exact nearestLevel_mono 1 (by omega)

theorem level_div_mono (finite : magnitude z < infinity) (positive : isNegative z = false) (some : 0 < magnitude z)
    (number : magnitude x ≤ infinity) (number' : magnitude y ≤ infinity) (le : level x ≤ level y) :
    level (x / z) ≤ level (y / z) := by
  refine @level_mono_of x y (· / z) (fun number => number_div number finite some)
    (fun infinite => div_of_infinite infinite finite positive some) (fun {x y} finiteX finiteY le => ?_) number number'
    le
  have units := (signedUnits_le_iff finiteX finiteY).mpr le
  rw [level_div finiteX finite positive some, level_div finiteY finite positive some]
  exact nearestLevel_mono _ (Int.mul_le_mul_of_nonneg_right units (Int.natCast_nonneg _))

end QuicksortStudy.Binary64
