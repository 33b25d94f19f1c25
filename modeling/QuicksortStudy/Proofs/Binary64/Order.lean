import Mathlib
import QuicksortStudy.Proofs.Binary64.Fields

/-!
# The order of doubles

Doubles that are numbers are in the order of their levels, which are whole numbers: the magnitude of a double with its
sign.  The two zeros are at one level, and `NaN` is neither less than, greater than nor equal to anything.
-/

namespace QuicksortStudy.Binary64

open Float.Model
open Float.Model.UnpackedFloat

/-- Where a double stands among all doubles: its magnitude with its sign.  Both zeros stand at zero. -/
def level (x : Float) : Int := (sign (isNegative x)).apply (magnitude x)

theorem lt_of_exponent_lt {bits bits' : Nat} (less : exponent bits < exponent bits') : bits < bits' := by
  have parts := exponent_significand bits
  have parts' := exponent_significand bits'
  have short := significand_lt bits
  have least := le_exponent bits
  have full' := significand_full bits'
  rw [exponentWeight_eq] at *
  omega

/-- Magnitudes are in the order of their powers of two, and of their significands where the powers are the same. -/
theorem compare_magnitudes (bits bits' : Nat) :
    (compare (exponent bits) (exponent bits')).then (compare (significand bits) (significand bits')) =
      compare bits bits' := by
  rcases Int.lt_trichotomy (exponent bits) (exponent bits') with less | same | more
  · rw [Int.compare_eq_lt.mpr less, Nat.compare_eq_lt.mpr (lt_of_exponent_lt less)]
    rfl
  · have parts := exponent_significand bits
    have parts' := exponent_significand bits'
    rw [same] at parts
    rw [Int.compare_eq_eq.mpr same, Ordering.eq_then]
    rcases Nat.lt_trichotomy (significand bits) (significand bits') with less | alike | more
    · rw [Nat.compare_eq_lt.mpr less, Nat.compare_eq_lt.mpr (by omega)]
    · rw [Nat.compare_eq_eq.mpr alike, Nat.compare_eq_eq.mpr (by omega)]
    · rw [Nat.compare_eq_gt.mpr more, Nat.compare_eq_gt.mpr (by omega)]
  · rw [Int.compare_eq_gt.mpr more, Nat.compare_eq_gt.mpr (lt_of_exponent_lt more)]
    rfl

theorem number_cases {x : Float} (number : magnitude x ≤ infinity) :
    magnitude x = 0 ∨ (0 < magnitude x ∧ magnitude x < infinity) ∨ magnitude x = infinity := by
  omega

/-- Of two signed numbers the one of larger size decides the order, by its sign. -/
theorem compare_of_less {size larger : Nat} (less : size < larger) (negative negative' : Bool) :
    compare ((sign negative).apply size) ((sign negative').apply larger) = if negative' then .gt else .lt := by
  cases negative' with
  | false =>
      rw [if_neg Bool.false_ne_true, Int.compare_eq_lt]
      cases negative <;> simp only [sign, Sign.apply] <;> simp <;> omega
  | true =>
      rw [if_pos rfl, Int.compare_eq_gt]
      cases negative <;> simp only [sign, Sign.apply] <;> simp <;> omega

theorem compare_of_more {size smaller : Nat} (more : smaller < size) (negative negative' : Bool) :
    compare ((sign negative).apply size) ((sign negative').apply smaller) = if negative then .lt else .gt := by
  rw [← Int.compare_swap, compare_of_less more]
  cases negative <;> rfl

/-- Signed numbers of positive size are in the order of their sizes or, if both are negative, the other way. -/
theorem compare_of_pos {size size' : Nat} (some : 0 < size) (some' : 0 < size') (negative negative' : Bool) :
    compare ((sign negative).apply size) ((sign negative').apply size') =
      match negative, negative' with
      | false, false => compare size size'
      | false, true => .gt
      | true, false => .lt
      | true, true => (compare size size').swap := by
  cases negative with
  | false =>
      cases negative' with
      | false =>
          change compare (size : Int) size' = compare size size'
          rw [← cmp_eq_compare, Nat.strictMono_cast.cmp_map_eq, cmp_eq_compare]
      | true =>
          change compare (size : Int) (-size') = .gt
          rw [Int.compare_eq_gt]
          omega
  | true =>
      cases negative' with
      | false =>
          change compare (-size : Int) size' = .lt
          rw [Int.compare_eq_lt]
          omega
      | true =>
          change compare (-size : Int) (-size') = (compare size size').swap
          have mirrored : StrictAnti fun n : Nat => -(n : Int) := Nat.strictMono_cast.neg
          rw [Nat.compare_swap, ← cmp_eq_compare, ← cmp_eq_compare]
          exact mirrored.cmp_map_eq size size'

/-- Doubles that are numbers are compared by their levels. -/
theorem compare_unpack {x y : Float} (number : magnitude x ≤ infinity) (number' : magnitude y ≤ infinity) :
    x.toModel.unpack.compare y.toModel.unpack = some (compare (level x) (level y)) := by
  have large : 0 < infinity := by decide
  unfold level
  rcases number_cases number with zero | ⟨some, finite⟩ | infinite
  · rcases number_cases number' with zero' | ⟨some', finite'⟩ | infinite'
    · rw [unpack_of_zero zero, unpack_of_zero zero', zero, zero']
      cases isNegative x <;> cases isNegative y <;> rfl
    · rw [unpack_of_zero zero, unpack_of_finite some' finite', zero, compare_of_less some']
      cases isNegative x <;> cases isNegative y <;> rfl
    · rw [unpack_of_zero zero, unpack_of_infinite infinite', zero, infinite', compare_of_less large]
      cases isNegative x <;> cases isNegative y <;> rfl
  · rcases number_cases number' with zero' | ⟨some', finite'⟩ | infinite'
    · rw [unpack_of_finite some finite, unpack_of_zero zero', zero', compare_of_more some]
      cases isNegative x <;> cases isNegative y <;> rfl
    · have bits := compare_magnitudes (magnitude x) (magnitude y)
      rw [unpack_of_finite some finite, unpack_of_finite some' finite', compare_of_pos some some', ← bits]
      cases isNegative x <;> cases isNegative y <;> rfl
    · rw [unpack_of_finite some finite, unpack_of_infinite infinite', infinite', compare_of_less finite]
      cases isNegative x <;> cases isNegative y <;> rfl
  · rcases number_cases number' with zero' | ⟨some', finite'⟩ | infinite'
    · rw [unpack_of_infinite infinite, unpack_of_zero zero', zero', infinite, compare_of_more large]
      cases isNegative x <;> cases isNegative y <;> rfl
    · rw [unpack_of_infinite infinite, unpack_of_finite some' finite', infinite, compare_of_more finite']
      cases isNegative x <;> cases isNegative y <;> rfl
    · rw [unpack_of_infinite infinite, unpack_of_infinite infinite', infinite, infinite']
      cases isNegative x <;> cases isNegative y <;> rfl

theorem compare_of_isNaN {x y : Float} (nan : infinity < magnitude x ∨ infinity < magnitude y) :
    x.toModel.unpack.compare y.toModel.unpack = none := by
  rcases nan with nan | nan
  · rw [unpack_of_isNaN nan]
    rfl
  · rw [unpack_of_isNaN nan]
    cases x.toModel.unpack <;> rfl

/-! ## Comparisons -/

section

variable {x y z : Float}

theorem numbers_or_isNaN (x y : Float) :
    (magnitude x ≤ infinity ∧ magnitude y ≤ infinity) ∨ infinity < magnitude x ∨ infinity < magnitude y := by
  omega

theorem lt_iff : x < y ↔ magnitude x ≤ infinity ∧ magnitude y ≤ infinity ∧ level x < level y := by
  have compared : x < y ↔ x.toModel.unpack.compare y.toModel.unpack = some .lt := decide_eq_true_iff.trans beq_iff_eq
  rw [compared]
  rcases numbers_or_isNaN x y with ⟨number, number'⟩ | nan
  · rw [compare_unpack number number', Option.some_inj, Int.compare_eq_lt]
    exact ⟨fun less => ⟨number, number', less⟩, fun less => less.2.2⟩
  · rw [compare_of_isNaN nan]
    exact ⟨nofun, fun less => by omega⟩

theorem le_iff : x ≤ y ↔ magnitude x ≤ infinity ∧ magnitude y ≤ infinity ∧ level x ≤ level y := by
  have compared : x ≤ y ↔ (x.toModel.unpack.compare y.toModel.unpack).any (·.isLE) = true := decide_eq_true_iff
  rw [compared]
  rcases numbers_or_isNaN x y with ⟨number, number'⟩ | nan
  · rw [compare_unpack number number', Option.any_some, Int.isLE_compare]
    exact ⟨fun le => ⟨number, number', le⟩, fun le => le.2.2⟩
  · rw [compare_of_isNaN nan]
    exact ⟨nofun, fun le => by omega⟩

theorem beq_iff : (x == y) = true ↔ magnitude x ≤ infinity ∧ magnitude y ≤ infinity ∧ level x = level y := by
  have compared : (x == y) = (x.toModel.unpack.compare y.toModel.unpack == some .eq) := rfl
  rw [compared, beq_iff_eq]
  rcases numbers_or_isNaN x y with ⟨number, number'⟩ | nan
  · rw [compare_unpack number number', Option.some_inj, Int.compare_eq_eq]
    exact ⟨fun same => ⟨number, number', same⟩, fun same => same.2.2⟩
  · rw [compare_of_isNaN nan]
    exact ⟨nofun, fun same => by omega⟩

theorem lt_iff_level (number : magnitude x ≤ infinity) (number' : magnitude y ≤ infinity) :
    x < y ↔ level x < level y := by
  rw [lt_iff, and_iff_right number, and_iff_right number']

theorem le_of_not_lt (number : magnitude x ≤ infinity) (number' : magnitude y ≤ infinity) (notLess : ¬x < y) :
    y ≤ x := by
  rw [lt_iff_level number number', Int.not_lt] at notLess
  exact le_iff.mpr ⟨number', number, notLess⟩

theorem le_of_le_of_le (le : x ≤ y) (le' : y ≤ z) : x ≤ z := by
  obtain ⟨numberX, -, le⟩ := le_iff.mp le
  obtain ⟨-, numberZ, le'⟩ := le_iff.mp le'
  exact le_iff.mpr ⟨numberX, numberZ, Int.le_trans le le'⟩

theorem beq_of_le_of_ge (le : x ≤ y) (ge : y ≤ x) : (x == y) = true := by
  obtain ⟨number, number', le⟩ := le_iff.mp le
  exact beq_iff.mpr ⟨number, number', Int.le_antisymm le (le_iff.mp ge).2.2⟩

theorem isNaN_eq_false_iff : x.isNaN = false ↔ magnitude x ≤ infinity := by
  rw [← Bool.not_eq_true, isNaN_iff, Nat.not_lt]

theorem isFinite_eq_false_iff : x.isFinite = false ↔ infinity ≤ magnitude x := by
  rw [← Bool.not_eq_true, isFinite_iff, Nat.not_lt]

end

/-! ## Levels -/

section

variable {x y : Float}

theorem level_of_positive (positive : isNegative x = false) : level x = magnitude x := by
  unfold level
  rw [positive]
  rfl

theorem level_of_negative (negative : isNegative x = true) : level x = -magnitude x := by
  unfold level
  rw [negative]
  rfl

theorem natAbs_level (x : Float) : (level x).natAbs = magnitude x := by
  cases negative : isNegative x with
  | false => rw [level_of_positive negative, Int.natAbs_natCast]
  | true => rw [level_of_negative negative, Int.natAbs_neg, Int.natAbs_natCast]

theorem level_of_finite (finite : magnitude x < infinity) : -infinity < level x ∧ level x < infinity := by
  have size := natAbs_level x
  omega

/-- Doubles at one level are the same, or both are zeros. -/
theorem eq_of_level_eq (same : level x = level y) : x = y ∨ magnitude x = 0 ∧ magnitude y = 0 := by
  have magnitudes : magnitude x = magnitude y := by rw [← natAbs_level x, ← natAbs_level y, same]
  rcases Nat.eq_zero_or_pos (magnitude x) with zero | some
  · exact .inr ⟨zero, magnitudes ▸ zero⟩
  · left
    refine eq_of_fields ?_ magnitudes
    cases negative : isNegative x <;> cases negative' : isNegative y
    · rfl
    · rw [level_of_positive negative, level_of_negative negative'] at same
      omega
    · rw [level_of_negative negative, level_of_positive negative'] at same
      omega
    · rfl

end

/-! ## Levels of constants -/

theorem level_zero : level 0.0 = 0 := by decide +kernel

theorem level_one_pos : 0 < level 1.0 := by decide +kernel

theorem level_infinity : level (1.0 / 0.0) = infinity := by decide +kernel

theorem level_neg_infinity : level (-1.0 / 0.0) = -infinity := by decide +kernel

theorem number_zero : magnitude 0.0 ≤ infinity := by decide +kernel

theorem number_one : magnitude 1.0 ≤ infinity := by decide +kernel

end QuicksortStudy.Binary64
