import Mathlib
import QuicksortStudy.Proofs.Binary64.Fields

/-!
# Rounding to the nearest double

`Binary64.nearest` depends on the value of a fraction only, not on how it is written; it is monotone in
that value, and it leaves every finite double as it is.  Rounding is done on units, multiples of the
smallest double, where it is the rounding of a natural quotient.
-/

namespace QuicksortStudy

theorem divRoundEven_scale (num den : Nat) {k : Nat} (positive : 0 < k) :
    divRoundEven (k * num) (k * den) = divRoundEven num den := by
  have less (a b : Nat) : k * a < k * b ↔ a < b := Nat.mul_lt_mul_left positive
  unfold divRoundEven
  rw [Nat.mul_div_mul_left num den positive, Nat.mul_mod_mul_left, Nat.mul_left_comm 2 k]
  simp only [less]

/-- A rounded quotient is one of the two neighbours of the quotient. -/
theorem divRoundEven_bounds (num den : Nat) :
    num / den ≤ divRoundEven num den ∧ divRoundEven num den ≤ num / den + 1 := by
  unfold divRoundEven
  dsimp only
  split
  · omega
  · split <;> omega

theorem divRoundEven_mono {num larger : Nat} (den : Nat) (le : num ≤ larger) :
    divRoundEven num den ≤ divRoundEven larger den := by
  rcases Nat.lt_or_ge (num / den) (larger / den) with less | same
  · have upper := (divRoundEven_bounds num den).2
    have lower := (divRoundEven_bounds larger den).1
    omega
  · have quotients : larger / den = num / den := Nat.le_antisymm same (Nat.div_le_div_right le)
    have parts := Nat.div_add_mod num den
    have largerParts := Nat.div_add_mod larger den
    rw [quotients] at largerParts
    have remainders : num % den ≤ larger % den := by omega
    unfold divRoundEven
    dsimp only
    rw [quotients]
    split <;> split <;> (try split) <;> (try split) <;> omega

namespace Binary64

theorem unitsPerOne_pos : 0 < unitsPerOne := by decide

theorem log2_mono {n m : Nat} (le : n ≤ m) : n.log2 ≤ m.log2 := by
  rcases Nat.eq_zero_or_pos n with rfl | positive
  · exact Nat.zero_le _
  · exact (Nat.le_log2 (by omega)).mpr (Nat.le_trans (Nat.log2_self_le (by omega)) le)

/-! ## Rounding a fraction of units -/

/-- The magnitude of the double nearest to a fraction, given as a number of units. -/
def nearestUnits (num den : Nat) : Nat :=
  let shift := (num / den).log2 - 52
  min infinity (shift * exponentWeight + divRoundEven num (den <<< shift))

theorem nearest_eq_nearestUnits (num den : Nat) :
    nearest num den = nearestUnits (num * unitsPerOne) den := rfl

theorem nearestUnits_scale (num den : Nat) {k : Nat} (positive : 0 < k) :
    nearestUnits (k * num) (k * den) = nearestUnits num den := by
  unfold nearestUnits
  dsimp only
  rw [Nat.mul_div_mul_left num den positive, Nat.shiftLeft_eq, Nat.shiftLeft_eq, Nat.mul_assoc,
    divRoundEven_scale _ _ positive]

/-- Equal fractions of units have the same nearest double. -/
theorem nearestUnits_congr {num den num' den' : Nat} (positive : 0 < den) (positive' : 0 < den')
    (same : num * den' = num' * den) : nearestUnits num den = nearestUnits num' den' := by
  rw [← nearestUnits_scale num den positive', ← nearestUnits_scale num' den' positive,
    Nat.mul_comm den' num, Nat.mul_comm den num', same, Nat.mul_comm den' den]

/-- Equal fractions have the same nearest double. -/
theorem nearest_congr {num den num' den' : Nat} (positive : 0 < den) (positive' : 0 < den')
    (same : num * den' = num' * den) : nearest num den = nearest num' den' := by
  apply nearestUnits_congr positive positive'
  rw [Nat.mul_right_comm, same, Nat.mul_right_comm]

/-! ## Doubles are left as they are -/

theorem log2_units (bits : Nat) : (units bits).log2 - 52 = (exponent bits + 1074).toNat := by
  rcases Nat.eq_zero_or_pos bits with rfl | positive
  · decide
  have short := significand_lt bits
  rw [exponentWeight_eq] at short
  rcases significand_full bits with full | subnormal
  · have power := Nat.two_pow_pos (exponent bits + 1074).toNat
    have logged : (units bits).log2 = 52 + (exponent bits + 1074).toNat := by
      rw [exponentWeight_eq] at full
      rw [units_eq]
      refine (Nat.log2_eq_iff (Nat.mul_ne_zero (by omega) (by omega))).mpr ⟨?_, ?_⟩
      · rw [Nat.pow_add]
        exact Nat.mul_le_mul_right _ full
      · rw [Nat.add_right_comm, Nat.pow_add]
        exact Nat.mul_lt_mul_of_pos_right short power
    omega
  · have zero : (exponent bits + 1074).toNat = 0 := by omega
    have same := exponent_significand bits
    rw [zero, Nat.zero_mul, Nat.zero_add] at same
    have logged : (significand bits).log2 < 53 := (Nat.log2_lt (by omega)).mpr short
    rw [units_eq, zero, Nat.pow_zero, Nat.mul_one]
    omega

theorem nearestUnits_units {bits : Nat} (finite : bits < infinity) :
    nearestUnits (units bits) 1 = bits := by
  unfold nearestUnits
  dsimp only
  rw [Nat.div_one, log2_units, Nat.shiftLeft_eq, Nat.one_mul, units_eq,
    divRoundEven_mul _ (Nat.two_pow_pos _), exponent_significand]
  exact Nat.min_eq_right (Nat.le_of_lt finite)

/-- Every finite double is the one nearest to its own value. -/
theorem nearest_units {bits : Nat} (finite : bits < infinity) :
    nearest (units bits) unitsPerOne = bits := by
  have scaled := nearestUnits_scale (units bits) 1 unitsPerOne_pos
  rw [Nat.mul_one, Nat.mul_comm] at scaled
  rw [nearest_eq_nearestUnits, scaled, nearestUnits_units finite]

/-! ## Rounding is monotone -/

theorem significand_le_of_rounded (num den : Nat) :
    divRoundEven num (den <<< ((num / den).log2 - 52)) ≤ 2 * exponentWeight := by
  have rounded := (divRoundEven_bounds num (den <<< ((num / den).log2 - 52))).2
  rw [Nat.shiftLeft_eq, ← Nat.div_div_eq_div_mul] at rounded
  have short : num / den / 2 ^ ((num / den).log2 - 52) < 2 ^ 53 := by
    rw [Nat.div_lt_iff_lt_mul (Nat.two_pow_pos _), ← Nat.pow_add]
    exact Nat.lt_of_lt_of_le Nat.lt_log2_self (Nat.pow_le_pow_right (by decide) (by omega))
  rw [Nat.shiftLeft_eq, exponentWeight_eq]
  omega

theorem le_significand_of_rounded {num den : Nat} (normal : 0 < (num / den).log2 - 52) :
    exponentWeight ≤ divRoundEven num (den <<< ((num / den).log2 - 52)) := by
  have weight : exponentWeight = 2 ^ 52 := rfl
  have nonzero : num / den ≠ 0 := by
    intro zero
    rw [zero] at normal
    exact absurd normal (by decide)
  refine Nat.le_trans ?_ (divRoundEven_bounds num (den <<< ((num / den).log2 - 52))).1
  rw [Nat.shiftLeft_eq, ← Nat.div_div_eq_div_mul, Nat.le_div_iff_mul_le (Nat.two_pow_pos _), weight,
    ← Nat.pow_add, show 52 + ((num / den).log2 - 52) = (num / den).log2 by omega]
  exact Nat.log2_self_le nonzero

theorem nearestUnits_mono {num larger : Nat} (den : Nat) (le : num ≤ larger) :
    nearestUnits num den ≤ nearestUnits larger den := by
  have logs := log2_mono (Nat.div_le_div_right (c := den) le)
  have shifts : (num / den).log2 - 52 ≤ (larger / den).log2 - 52 := by omega
  have upper := significand_le_of_rounded num den
  have lower := @le_significand_of_rounded larger den
  have same := divRoundEven_mono (den <<< ((num / den).log2 - 52)) le
  unfold nearestUnits
  dsimp only
  generalize (num / den).log2 - 52 = shift at *
  generalize (larger / den).log2 - 52 = largerShift at *
  -- with a larger power a full significand exceeds every significand of the smaller power
  rcases Nat.eq_or_lt_of_le shifts with rfl | less
  · exact min_le_min_left _ (Nat.add_le_add_left same _)
  · have full := lower (by omega)
    refine Nat.le_min.mpr ⟨Nat.min_le_left _ _, Nat.le_trans (Nat.min_le_right _ _) ?_⟩
    rw [exponentWeight_eq] at *
    omega

/-- A larger fraction has a larger nearest double, or the same one. -/
theorem nearest_mono {num den num' den' : Nat} (positive : 0 < den) (positive' : 0 < den')
    (le : num * den' ≤ num' * den) : nearest num den ≤ nearest num' den' := by
  have scaled := nearestUnits_scale (num * unitsPerOne) den positive'
  have scaled' := nearestUnits_scale (num' * unitsPerOne) den' positive
  rw [Nat.mul_comm den' den] at scaled
  rw [nearest_eq_nearestUnits, nearest_eq_nearestUnits, ← scaled, ← scaled']
  apply nearestUnits_mono
  calc den' * (num * unitsPerOne) = num * den' * unitsPerOne := by ring
    _ ≤ num' * den * unitsPerOne := Nat.mul_le_mul_right _ le
    _ = den * (num' * unitsPerOne) := by ring

end Binary64

end QuicksortStudy
