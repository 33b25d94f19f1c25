import Mathlib
import QuicksortStudy.Proofs.Binary64.Monotone

/-!
# Adding one half

Doubles lie a power of two of units apart, and the farther from zero the larger it is.  Where this step is at most one
half, the half moves every number.  Where the step is one, the half is lost on even numbers and carried to the next
number on odd ones; where the step is larger, it is lost on all of them.
-/

namespace QuicksortStudy.Binary64

variable {x : Float}

/-! ## Steps -/

/-- How many units the next magnitude is away from a magnitude. -/
def step (bits : Nat) : Nat := 2 ^ (exponent bits + 1074).toNat

theorem step_pos (bits : Nat) : 0 < step bits := Nat.two_pow_pos _

theorem units_eq_steps (bits : Nat) : units bits = significand bits * step bits := units_eq bits

theorem step_eq (bits : Nat) : step bits = 2 ^ (bits / exponentWeight - 1) := by
  have places : (exponent bits + 1074).toNat = bits / exponentWeight - 1 := by
    unfold exponent
    omega
  rw [step, places]

/-- The next magnitude has a significand larger by one.  If there is none, it has the least one and a larger step. -/
theorem step_succ (bits : Nat) : (step (bits + 1) = step bits ∧ significand (bits + 1) = significand bits + 1) ∨
    (step (bits + 1) = 2 * step bits ∧ significand (bits + 1) = exponentWeight ∧
      significand bits + 1 = 2 * exponentWeight) := by
  rw [step_eq, step_eq]
  unfold significand
  rw [exponentWeight_eq]
  by_cases carry : (bits + 1) % 4503599627370496 = 0 ∧ 4503599627370496 ≤ bits
  · have power : (bits + 1) / 4503599627370496 - 1 = (bits / 4503599627370496 - 1) + 1 := by omega
    right
    rw [power, Nat.pow_succ, Nat.mul_comm]
    split_ifs <;> omega
  · have power : (bits + 1) / 4503599627370496 - 1 = bits / 4503599627370496 - 1 := by omega
    left
    rw [power]
    split_ifs <;> omega

theorem units_succ (bits : Nat) : units (bits + 1) = units bits + step bits := by
  rw [units_eq_steps, units_eq_steps]
  rcases step_succ bits with ⟨same, next⟩ | ⟨doubled, least, largest⟩
  · rw [same, next, Nat.succ_mul]
  · rw [doubled, least, ← Nat.succ_mul, Nat.succ_eq_add_one, largest, ← Nat.mul_assoc, Nat.mul_comm exponentWeight]

theorem significand_mod_two (bits : Nat) : significand bits % 2 = bits % 2 := by
  have parts := exponent_significand bits
  rw [exponentWeight_eq] at parts
  omega

theorem significand_full_of_step {bits : Nat} (large : 1 < step bits) : exponentWeight ≤ significand bits := by
  rcases significand_full bits with full | subnormal
  · exact full
  · have one : step bits = 1 := by
      rw [step, subnormal]
      rfl
    omega

/-! ## Between two magnitudes -/

theorem log2_units_add {bits more : Nat} (less : more < step bits) :
    (units bits + more).log2 - 52 = (exponent bits + 1074).toNat := by
  have lower := log2_mono (Nat.le_add_right (units bits) more)
  have exact := log2_units bits
  have upper : (units bits + more).log2 - 52 ≤ (exponent bits + 1074).toNat := by
    rcases Nat.eq_zero_or_pos (units bits + more) with zero | some
    · rw [zero]
      exact Nat.zero_le _
    · have short : units bits + more < 2 ^ (53 + (exponent bits + 1074).toNat) := by
        calc units bits + more
            < (significand bits + 1) * step bits := by
              rw [units_eq_steps, Nat.succ_mul]
              exact Nat.add_lt_add_left less _
          _ ≤ 2 ^ 53 * step bits := Nat.mul_le_mul_right _ (significand_lt bits)
          _ = 2 ^ (53 + (exponent bits + 1074).toNat) := (Nat.pow_add _ _ _).symm
      have logged := (Nat.log2_lt (Nat.ne_of_gt some)).mpr short
      omega
  omega

/-- What lies between two magnitudes is rounded to the nearer one, or to the even one if both are equally near. -/
theorem nearestUnits_add {bits more : Nat} (finite : bits < infinity) (less : more < step bits) :
    nearestUnits (units bits + more) 1 =
      if 2 * more < step bits then bits else if step bits < 2 * more then bits + 1 else bits + bits % 2 := by
  have parts := exponent_significand bits
  have quotient : (units bits + more) / step bits = significand bits := by
    rw [units_eq_steps, Nat.mul_comm, Nat.mul_add_div (step_pos bits), Nat.div_eq_of_lt less, Nat.add_zero]
  have rest : (units bits + more) % step bits = more := by
    rw [units_eq_steps, Nat.mul_comm, Nat.mul_add_mod, Nat.mod_eq_of_lt less]
  have rounded : nearestUnits (units bits + more) 1 = min infinity
      ((exponent bits + 1074).toNat * exponentWeight + divRoundEven (units bits + more) (step bits)) := by
    unfold nearestUnits
    dsimp only
    rw [Nat.div_one, log2_units_add less, Nat.shiftLeft_eq, Nat.one_mul]
    rfl
  have inside : min infinity (bits + 1) = bits + 1 := Nat.min_eq_right finite
  rw [rounded]
  unfold divRoundEven
  rw [quotient, rest]
  dsimp only
  rw [significand_mod_two]
  split_ifs
  · rw [parts]
    exact Nat.min_eq_right (Nat.le_of_lt finite)
  · rw [← Nat.add_assoc, parts]
    exact inside
  · rw [← Nat.add_assoc, parts]
    have parity : bits % 2 ≤ 1 := Nat.le_of_lt_succ (Nat.mod_lt bits Nat.two_pos)
    exact Nat.min_eq_right (Nat.le_trans (Nat.add_le_add_left parity bits) finite)

/-! ## Moving by one half -/

/-- The units of one half. -/
def halfUnits : Nat := 2 ^ (unitPlaces - 1)

theorem two_mul_halfUnits : 2 * halfUnits = unitsPerOne := by
  rw [halfUnits, unitsPerOne_eq, Nat.mul_comm, Nat.two_pow_pred_mul_two (by decide)]

/-- A step is at most one half, or it is one, or it is at least two. -/
theorem step_cases (bits : Nat) :
    step bits ≤ halfUnits ∨ step bits = 2 * halfUnits ∨ 4 * halfUnits ≤ step bits := by
  have one := two_mul_halfUnits
  rw [unitsPerOne_eq] at one
  have two : 4 * halfUnits = 2 ^ (unitPlaces + 1) := by
    rw [Nat.pow_succ, ← one, Nat.mul_right_comm]
  rw [one, two]
  unfold halfUnits step
  rcases Nat.lt_trichotomy (exponent bits + 1074).toNat unitPlaces with less | same | more
  · exact .inl (Nat.pow_le_pow_right Nat.two_pos (Nat.le_sub_one_of_lt less))
  · exact .inr (.inl (congrArg (2 ^ ·) same))
  · exact .inr (.inr (Nat.pow_le_pow_right Nat.two_pos more))

theorem halfUnits_pos : 0 < halfUnits := Nat.two_pow_pos _

/-- Where the step is at least one, the half is lost on the way up, or rounded to the even neighbour. -/
theorem nearestUnits_add_half {bits : Nat} (finite : bits < infinity) (large : 2 * halfUnits ≤ step bits) :
    nearestUnits (units bits + halfUnits) 1 = if step bits = 2 * halfUnits then bits + bits % 2 else bits := by
  have half := halfUnits_pos
  rw [nearestUnits_add finite (by omega)]
  split_ifs <;> omega

/-- On the way down the step below decides. -/
theorem nearestUnits_sub_half {bits : Nat} (finite : bits < infinity) (large : halfUnits ≤ step bits) :
    nearestUnits (units (bits + 1) - halfUnits) 1 =
      if step bits = halfUnits then bits else if step bits = 2 * halfUnits then bits + bits % 2 else bits + 1 := by
  have half := halfUnits_pos
  have cases := step_cases bits
  have above : units (bits + 1) - halfUnits = units bits + (step bits - halfUnits) := by
    rw [units_succ, Nat.add_sub_assoc large]
  rw [above, nearestUnits_add finite (by omega)]
  split_ifs <;> omega

/-- One half added or taken away makes a difference to a number: its size is at most `2 ^ 52`, or it is an odd whole
number of a size below `2 ^ 53`. -/
def FeelsHalf (bits : Nat) : Prop :=
  units bits ≤ 2 ^ 52 * unitsPerOne ∨ ∃ n, n < 2 ^ 53 ∧ n % 2 = 1 ∧ units bits = n * unitsPerOne

theorem feelsHalf_of_small {bits : Nat} (small : step bits ≤ halfUnits) : FeelsHalf bits := by
  left
  calc units bits
      ≤ 2 * exponentWeight * halfUnits := by
        rw [units_eq_steps]
        exact Nat.mul_le_mul (Nat.le_of_lt (significand_lt bits)) small
    _ = 2 ^ 52 * unitsPerOne := by
        rw [← two_mul_halfUnits, exponentWeight_eq]
        ring

/-- Where the step is one, numbers are whole, and the least of them and the odd ones are told apart. -/
theorem feelsHalf_iff_of_one {bits : Nat} (one : step bits = unitsPerOne) :
    FeelsHalf bits ↔ significand bits ≤ exponentWeight ∨ bits % 2 = 1 := by
  have positive := unitsPerOne_pos
  have short := significand_lt bits
  unfold FeelsHalf
  rw [units_eq_steps, one, ← significand_mod_two]
  refine or_congr ⟨fun le => Nat.le_of_mul_le_mul_right le positive, fun le => Nat.mul_le_mul_right _ le⟩
    ⟨?_, fun odd => ⟨_, short, odd, rfl⟩⟩
  rintro ⟨n, -, odd, same⟩
  rwa [Nat.eq_of_mul_eq_mul_right positive same]

theorem not_feelsHalf_of_large {bits : Nat} (large : 4 * halfUnits ≤ step bits) : ¬FeelsHalf bits := by
  have half := halfUnits_pos
  have positive := unitsPerOne_pos
  have far : 2 ^ 53 * unitsPerOne ≤ units bits := by
    calc 2 ^ 53 * unitsPerOne = exponentWeight * (4 * halfUnits) := by
          rw [← two_mul_halfUnits, exponentWeight_eq]
          ring
      _ ≤ units bits := by
          rw [units_eq_steps]
          exact Nat.mul_le_mul (significand_full_of_step (by omega)) large
  rintro (small | ⟨n, short, -, same⟩)
  · have less : 2 ^ 52 * unitsPerOne < 2 ^ 53 * unitsPerOne := Nat.mul_lt_mul_of_pos_right (by decide) positive
    omega
  · have less : n * unitsPerOne < 2 ^ 53 * unitsPerOne := Nat.mul_lt_mul_of_pos_right short positive
    omega

theorem succ_lt_infinity_of_small {bits : Nat} (small : step bits ≤ halfUnits) : bits + 1 < infinity := by
  have parts := exponent_significand bits
  have short := significand_lt bits
  have power : (exponent bits + 1074).toNat ≤ unitPlaces - 1 := (Nat.pow_le_pow_iff_right (by decide)).mp small
  rw [unitPlaces_eq] at power
  rw [exponentWeight_eq] at parts short
  rw [infinity_eq]
  omega

theorem exists_below {bits : Nat} (large : 2 * halfUnits ≤ step bits) :
    ∃ below, bits = below + 1 ∧ halfUnits ≤ step below := by
  have half := halfUnits_pos
  have full := @significand_full_of_step bits (by omega)
  have least := Nat.le_of_eq (exponent_significand bits)
  rw [exponentWeight_eq] at full least
  obtain ⟨below, rfl⟩ := Nat.exists_eq_succ_of_ne_zero (n := bits) (by omega)
  refine ⟨below, rfl, ?_⟩
  rcases step_succ below with ⟨same, -⟩ | ⟨doubled, -, -⟩
  · rw [Nat.succ_eq_add_one] at large
    omega
  · rw [Nat.succ_eq_add_one] at large
    omega

/-- One half to both sides of a magnitude leads to different doubles if and only if the half is felt. -/
theorem half_moves_iff {bits : Nat} (finite : bits < infinity) :
    nearestLevel (units bits - halfUnits) 1 < nearestLevel (units bits + halfUnits) 1 ↔ FeelsHalf bits := by
  have half := halfUnits_pos
  have up : nearestLevel ((units bits : Int) + halfUnits) 1 = nearestUnits (units bits + halfUnits) 1 :=
    nearestLevel_natCast (units bits + halfUnits) 1
  rw [up]
  rcases step_cases bits with small | exact
  · refine iff_of_true ?_ (feelsHalf_of_small small)
    have next := succ_lt_infinity_of_small small
    have raised : bits + 1 ≤ nearestUnits (units bits + halfUnits) 1 := by
      have mono := nearestUnits_mono 1 (Nat.add_le_add_left small (units bits))
      rwa [← units_succ, nearestUnits_units next] at mono
    have lowered : nearestLevel ((units bits : Int) - halfUnits) 1 ≤ bits := by
      have mono := nearestLevel_mono 1 (Int.sub_le_self (units bits : Int) (Int.natCast_nonneg halfUnits))
      rwa [nearestLevel_natCast, nearestUnits_units finite] at mono
    omega
  · have large : 2 * halfUnits ≤ step bits := by omega
    obtain ⟨below, rfl, enough⟩ := exists_below large
    have down : nearestLevel ((units (below + 1) : Int) - halfUnits) 1 =
        nearestUnits (units (below + 1) - halfUnits) 1 := by
      have inside : halfUnits ≤ units (below + 1) := by
        rw [units_succ]
        omega
      rw [← nearestLevel_natCast, Int.natCast_sub inside]
    rw [down, nearestUnits_add_half finite large, nearestUnits_sub_half (Nat.lt_of_succ_lt finite) enough]
    rcases exact with one | large
    · have full := @significand_full_of_step below
      rw [feelsHalf_iff_of_one (one.trans two_mul_halfUnits)]
      rcases step_succ below with ⟨same, next⟩ | ⟨doubled, least, -⟩
      · -- All three neighbours are one apart, so both ties go to the even one of them.
        rw [if_pos one, if_neg (by omega), if_pos (by omega)]
        omega
      · -- Below the least number of a step of one, one half is a step.
        rw [if_pos one, if_pos (by omega)]
        omega
    · refine iff_of_false ?_ (not_feelsHalf_of_large large)
      rcases step_succ below with ⟨same, -⟩ | ⟨doubled, least, -⟩
      · rw [if_neg (by omega), if_neg (by omega), if_neg (by omega)]
        exact Int.lt_irrefl _
      · have even := significand_mod_two (below + 1)
        rw [least, exponentWeight_eq] at even
        have notOne : step (below + 1) ≠ 2 * halfUnits := by omega
        have notHalf : step below ≠ halfUnits := by omega
        rw [if_neg notOne, if_neg notHalf]
        split_ifs <;> omega

/-! ## Doubles -/

theorem isNegative_half : isNegative 0.5 = false := by decide +kernel

theorem signedUnits_half : signedUnits 0.5 = halfUnits := by
  have size : units (magnitude 0.5) = halfUnits := by decide +kernel
  unfold signedUnits
  rw [isNegative_half, size]
  rfl

theorem finite_half : magnitude 0.5 < infinity := by decide +kernel

theorem level_sub_half (finite : magnitude x < infinity) :
    level (x - 0.5) = nearestLevel (signedUnits x - halfUnits) 1 := by
  rw [level_sub finite finite_half, signedUnits_half]

theorem level_add_half (finite : magnitude x < infinity) :
    level (x + 0.5) = nearestLevel (signedUnits x + halfUnits) 1 := by
  rw [level_add finite finite_half, signedUnits_half]

theorem level_sub_half_le (finite : magnitude x < infinity) : level (x - 0.5) ≤ level x := by
  rw [level_sub_half finite, level_eq finite]
  exact nearestLevel_mono 1 (by omega)

theorem level_le_add_half (finite : magnitude x < infinity) : level x ≤ level (x + 0.5) := by
  rw [level_add_half finite, level_eq finite]
  exact nearestLevel_mono 1 (by omega)

/-- Even the largest double stays finite. -/
theorem finite_of_near {units' : Nat} (near : units' ≤ units (infinity - 1) + halfUnits) :
    nearestUnits units' 1 < infinity :=
  Nat.lt_of_le_of_lt (nearestUnits_mono 1 near) (by decide +kernel)

theorem units_le_largest (finite : magnitude x < infinity) : units (magnitude x) ≤ units (infinity - 1) :=
  units_mono (by decide) (Nat.le_sub_one_of_lt finite)

theorem finite_sub_half (finite : magnitude x < infinity) : magnitude (x - 0.5) < infinity := by
  have largest := units_le_largest finite
  have size := natAbs_signedUnits x
  rw [magnitude_sub finite finite_half, signedUnits_half]
  exact finite_of_near (by omega)

theorem finite_add_half (finite : magnitude x < infinity) : magnitude (x + 0.5) < infinity := by
  have largest := units_le_largest finite
  have size := natAbs_signedUnits x
  rw [(fields_add finite finite_half).2, signedUnits_half]
  exact finite_of_near (by omega)

/-- One half to both sides of a finite double makes a difference if and only if the half is felt. -/
theorem sub_half_lt_add_half_iff (finite : magnitude x < infinity) : x - 0.5 < x + 0.5 ↔ FeelsHalf (magnitude x) := by
  rw [lt_iff_level (Nat.le_of_lt (finite_sub_half finite)) (Nat.le_of_lt (finite_add_half finite)),
    level_sub_half finite, level_add_half finite, ← half_moves_iff finite]
  unfold signedUnits
  cases isNegative x with
  | false => exact Iff.rfl
  | true =>
      -- The mirror image of the two sides.
      have down : -(units (magnitude x) : Int) - halfUnits = -((units (magnitude x) : Int) + halfUnits) := by omega
      have up : -(units (magnitude x) : Int) + halfUnits = -((units (magnitude x) : Int) - halfUnits) := by omega
      change nearestLevel (-(units (magnitude x) : Int) - halfUnits) 1 <
        nearestLevel (-(units (magnitude x) : Int) + halfUnits) 1 ↔ _
      rw [down, up, nearestLevel_neg, nearestLevel_neg, Int.neg_lt_neg_iff]

end QuicksortStudy.Binary64
