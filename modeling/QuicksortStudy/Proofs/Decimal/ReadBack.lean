import Mathlib
import QuicksortStudy.Decimal.Style
import QuicksortStudy.Proofs.Binary64.Nearest

/-!
# Decimals read back

What a decimal reads as depends on its value only: the limits on its power never decide anything that
rounding would decide otherwise.  Hence the shortest decimal of a finite double, whatever grid it was
found on and however many zeros were cut off, reads as that double.
-/

namespace QuicksortStudy.Decimal

/-! ## Limits on the power -/

/-- The power of ten beyond which a number is decided without being computed. -/
def powerLimit : Nat := 400

theorem nearest_powerLimit : Binary64.nearest (10 ^ powerLimit) 1 = Binary64.infinity := by
  decide +kernel

theorem nearest_inverse_powerLimit : Binary64.nearest 1 (10 ^ powerLimit) = 0 := by
  decide +kernel

theorem nearest_huge {digits power : Nat} (positive : 0 < digits) (large : powerLimit ≤ power) :
    Binary64.nearest (digits * 10 ^ power) 1 = Binary64.infinity := by
  have larger : 10 ^ powerLimit ≤ digits * 10 ^ power :=
    Nat.le_trans (Nat.pow_le_pow_right (by decide) large) (Nat.le_mul_of_pos_left _ positive)
  have above := Binary64.nearest_mono Nat.one_pos Nat.one_pos (Nat.mul_le_mul_right 1 larger)
  rw [nearest_powerLimit] at above
  exact Nat.le_antisymm (Nat.min_le_left _ _) above

theorem nearest_tiny {digits power : Nat} (small : digits.log2 + powerLimit < power) :
    Binary64.nearest digits (10 ^ power) = 0 := by
  have digitsBound : digits ≤ 10 ^ (digits.log2 + 1) :=
    Nat.le_trans (Nat.le_of_lt Nat.lt_log2_self) (Nat.pow_le_pow_left (by decide) _)
  apply Nat.le_zero.mp
  rw [← nearest_inverse_powerLimit]
  apply Binary64.nearest_mono (Nat.pow_pos (by decide)) (Nat.pow_pos (by decide))
  rw [Nat.one_mul]
  calc digits * 10 ^ powerLimit ≤ 10 ^ (digits.log2 + 1) * 10 ^ powerLimit :=
        Nat.mul_le_mul_right _ digitsBound
    _ = 10 ^ (digits.log2 + 1 + powerLimit) := (Nat.pow_add _ _ _).symm
    _ ≤ 10 ^ power := Nat.pow_le_pow_right (by decide) (by omega)

theorem fraction_of_nonneg {digits : Nat} {power : Int} (whole : 0 ≤ power) :
    fraction ⟨digits, power⟩ = (digits * 10 ^ power.toNat, 1) := if_pos whole

theorem fraction_of_neg {digits : Nat} {power : Int} (broken : power < 0) :
    fraction ⟨digits, power⟩ = (digits, 10 ^ (-power).toNat) :=
  if_neg (Int.not_le.mpr broken)

/-- A number reads as the double nearest to its fraction; the limits on its power change nothing. -/
theorem nearest_eq (d : Decimal) : d.nearest = Binary64.nearest d.fraction.1 d.fraction.2 := by
  rcases d with ⟨digits, power⟩
  have limit : powerLimit = 400 := rfl
  unfold nearest
  dsimp only
  split
  · next zero =>
      have nothing (den : Nat) : Binary64.nearest 0 den = 0 := by
        simp [Binary64.nearest, divRoundEven]
      subst zero
      rcases lt_or_ge power 0 with broken | whole
      · rw [fraction_of_neg broken, nothing]
      · rw [fraction_of_nonneg whole, Nat.zero_mul, nothing]
  · next some =>
      split
      · next huge =>
          rw [fraction_of_nonneg (by omega)]
          exact (nearest_huge (Nat.pos_of_ne_zero some) (by omega)).symm
      · split
        · next tiny =>
            rw [fraction_of_neg (by omega)]
            exact (nearest_tiny (by dsimp only; omega)).symm
        · rfl

/-! ## Values -/

/-- The number as a rational. -/
def value (d : Decimal) : ℚ := d.digits * 10 ^ d.exponent

theorem fraction_pos (d : Decimal) : 0 < d.fraction.2 := by
  rcases d with ⟨digits, power⟩
  rcases lt_or_ge power 0 with broken | whole
  · rw [fraction_of_neg broken]
    exact Nat.pow_pos (by decide)
  · rw [fraction_of_nonneg whole]
    exact Nat.one_pos

theorem value_eq_fraction (d : Decimal) : d.value = d.fraction.1 / d.fraction.2 := by
  rcases d with ⟨digits, power⟩
  unfold value
  rcases lt_or_ge power 0 with broken | whole
  · obtain ⟨n, rfl⟩ : ∃ n : Nat, power = -n := ⟨(-power).toNat, by omega⟩
    rw [fraction_of_neg broken]
    simp [div_eq_mul_inv]
  · obtain ⟨n, rfl⟩ : ∃ n : Nat, power = n := ⟨power.toNat, by omega⟩
    rw [fraction_of_nonneg whole]
    simp

/-- A number reads as the double nearest to any fraction of its value. -/
theorem nearest_of_value {d : Decimal} {num den : Nat} (positive : 0 < den)
    (same : d.value = num / den) : d.nearest = Binary64.nearest num den := by
  have nonzero : (d.fraction.2 : ℚ) ≠ 0 := Nat.cast_ne_zero.mpr (Nat.ne_of_gt d.fraction_pos)
  have nonzero' : (den : ℚ) ≠ 0 := Nat.cast_ne_zero.mpr (Nat.ne_of_gt positive)
  rw [value_eq_fraction, div_eq_div_iff nonzero nonzero'] at same
  rw [nearest_eq]
  exact Binary64.nearest_congr d.fraction_pos positive (by exact_mod_cast same)

/-- Numbers of the same value read as the same double. -/
theorem nearest_congr {d d' : Decimal} (same : d.value = d'.value) : d.nearest = d'.nearest := by
  rw [nearest_of_value d'.fraction_pos (same.trans d'.value_eq_fraction), ← nearest_eq]

/-- Zeros after the last digit change nothing when the power makes up for them. -/
theorem nearest_mul_pow (digits zeros : Nat) (power : Int) :
    nearest ⟨digits * 10 ^ zeros, power - zeros⟩ = nearest ⟨digits, power⟩ := by
  apply nearest_congr
  unfold value
  push_cast
  rw [zpow_sub₀ (by norm_num), zpow_natCast]
  field_simp

/-! ## The search for the shortest decimal -/

theorem nearest_trimZeros (d : Decimal) : d.trimZeros.nearest = d.nearest := by
  fun_induction trimZeros d with
  | case1 d zero => rfl
  | case2 d some ends ih =>
      rw [ih, ← nearest_mul_pow (d.digits / 10) 1 (d.exponent + 1)]
      congr 1
      rw [Decimal.mk.injEq]
      omega
  | case3 d some ends => rfl

theorem value_halves (n places : Nat) : value ⟨n * 5 ^ places, -places⟩ = n / (2 ^ places : Nat) := by
  unfold value
  push_cast
  rw [zpow_neg, zpow_natCast, show (10 : ℚ) = 5 * 2 by norm_num, mul_pow]
  field_simp

/-- The whole expansion of a finite double reads as that double. -/
theorem nearest_exact {bits : Nat} (finite : bits < Binary64.infinity) : (exact bits).nearest = bits := by
  obtain ⟨places, limit⟩ : ∃ places, places = 1074 := ⟨_, rfl⟩
  have ones : Binary64.unitsPerOne = 2 ^ places := by
    rw [← Nat.one_shiftLeft, limit]
    rfl
  have halves : exact bits = ⟨Binary64.units bits * 5 ^ places, -places⟩ := by
    unfold exact
    rw [← limit, Decimal.mk.injEq]
    exact ⟨rfl, by omega⟩
  rw [halves, nearest_of_value (Nat.two_pow_pos places) (value_halves _ places), ← ones,
    Binary64.nearest_units finite]

theorem nearerNeighbour_cases (tie : Tie) (num den : Nat) :
    nearerNeighbour tie num den = num / den ∨ nearerNeighbour tie num den = num / den + 1 := by
  unfold nearerNeighbour
  dsimp only
  split
  · exact .inl rfl
  · split
    · exact .inr rfl
    · cases tie with
      | toEven =>
          dsimp only
          omega
      | up => exact .inr rfl

/-- What a grid offers reads as the double. -/
theorem nearest_of_onGrid? {tie : Tie} {bits : Nat} {power : Int} {d : Decimal}
    (found : onGrid? tie bits power = some d) : d.nearest = bits := by
  unfold onGrid? at found
  dsimp only at found
  split at found
  · next below above =>
      cases found
      rcases nearerNeighbour_cases tie (onGrid (Binary64.units bits) Binary64.unitsPerOne power).1
        (onGrid (Binary64.units bits) Binary64.unitsPerOne power).2 with lower | upper
      · rw [lower]
        exact beq_iff_eq.mp below
      · rw [upper]
        exact beq_iff_eq.mp above
  · next below above =>
      cases found
      exact beq_iff_eq.mp below
  · next below above =>
      cases found
      exact beq_iff_eq.mp above
  · cases found

theorem nearest_search {tie : Tie} {bits : Nat} (finite : bits < Binary64.infinity) (grids : Nat)
    (power : Int) :
    (search tie bits grids power).nearest = bits := by
  induction grids generalizing power with
  | zero => exact nearest_exact finite
  | succ grids ih =>
      unfold search
      cases found : onGrid? tie bits power with
      | none => exact ih (power - 1)
      | some d => exact nearest_of_onGrid? found

/-- The shortest decimal of a finite double reads as that double. -/
theorem nearest_shortest (tie : Tie) {bits : Nat} (finite : bits < Binary64.infinity) :
    (shortest tie bits).nearest = bits := by
  unfold shortest
  split
  · next zero => rw [zero, nearest_zero]
  · dsimp only
    rw [nearest_trimZeros, nearest_search finite]

end QuicksortStudy.Decimal
