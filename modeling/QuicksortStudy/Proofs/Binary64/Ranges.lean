import Mathlib
import QuicksortStudy.Proofs.Binary64.Arithmetic

/-!
# Ranges of doubles

A double that is not negative is held between two magnitudes.  Rounding is monotone, so the bounds of a result
are the rounded results of the bounds.  All bounds are finite, hence so is every double within a range.
-/

namespace QuicksortStudy.Binary64

theorem units_mono {bits larger : Nat} (finite : larger < infinity) (le : bits ≤ larger) :
    units bits ≤ units larger := by
  by_contra more
  have rounded := nearestUnits_mono 1 (Nat.le_of_lt (Nat.lt_of_not_le more))
  rw [nearestUnits_units finite, nearestUnits_units (Nat.lt_of_le_of_lt le finite)] at rounded
  exact more (Nat.le_of_eq (congrArg units (Nat.le_antisymm le rounded)))

theorem nearestUnits_antitone {num den smaller : Nat} (positive : 0 < smaller) (le : smaller ≤ den) :
    nearestUnits num den ≤ nearestUnits num smaller := by
  rw [← nearestUnits_scale num den positive, ← nearestUnits_scale num smaller (Nat.lt_of_lt_of_le positive le),
    Nat.mul_comm den smaller]
  exact nearestUnits_mono _ (Nat.mul_le_mul_right num le)

theorem magnitude_ofNat (n : Nat) : magnitude (ofNat n) = nearest n 1 :=
  (fields_ofMagnitude false (Nat.min_le_left _ _)).2

theorem isNegative_ofNat (n : Nat) : isNegative (ofNat n) = false :=
  (fields_ofMagnitude false (Nat.min_le_left _ _)).1

/-- A double that is not negative, between two finite magnitudes. -/
structure Between (low high : Nat) (x : Float) : Prop where
  positive : isNegative x = false
  above : low ≤ magnitude x
  below : magnitude x ≤ high
  bounded : high < infinity

namespace Between

variable {low high low' high' : Nat} {x y : Float}

theorem finite (range : Between low high x) : magnitude x < infinity :=
  Nat.lt_of_le_of_lt range.below range.bounded

theorem isFinite (range : Between low high x) : x.isFinite = true := (isFinite_iff x).mpr range.finite

theorem units_above (range : Between low high x) : units low ≤ units (magnitude x) :=
  units_mono range.finite range.above

theorem units_below (range : Between low high x) : units (magnitude x) ≤ units high :=
  units_mono range.bounded range.below

theorem signedUnits_eq (range : Between low high x) : signedUnits x = units (magnitude x) := by
  unfold signedUnits
  rw [range.positive]
  rfl

theorem weaken (range : Between low high x) (lower : low' ≤ low) (higher : high ≤ high')
    (bounded : high' < infinity) :
    Between low' high' x :=
  ⟨range.positive, Nat.le_trans lower range.above, Nat.le_trans range.below higher, bounded⟩

theorem literal (positive : isNegative x = false) (finite : magnitude x < infinity) :
    Between (magnitude x) (magnitude x) x :=
  ⟨positive, Nat.le_refl _, Nat.le_refl _, finite⟩

theorem ofNat {least most n : Nat} (low : least ≤ n) (high : n ≤ most) (bounded : nearest most 1 < infinity) :
    Between (nearest least 1) (nearest most 1) (ofNat n) := by
  refine ⟨isNegative_ofNat n, ?_, ?_, bounded⟩
  · rw [magnitude_ofNat]
    exact nearest_mono Nat.one_pos Nat.one_pos (Nat.mul_le_mul_right 1 low)
  · rw [magnitude_ofNat]
    exact nearest_mono Nat.one_pos Nat.one_pos (Nat.mul_le_mul_right 1 high)

theorem mul (range : Between low high x) (range' : Between low' high' y)
    (bounded : nearestUnits (units high * units high') unitsPerOne < infinity) :
    Between (nearestUnits (units low * units low') unitsPerOne) (nearestUnits (units high * units high') unitsPerOne)
      (x * y) := by
  obtain ⟨sign, product⟩ := fields_mul range.finite range'.finite
  refine ⟨?_, ?_, ?_, bounded⟩
  · rw [sign, range.positive, range'.positive]
    rfl
  · rw [product]
    exact nearestUnits_mono _ (Nat.mul_le_mul range.units_above range'.units_above)
  · rw [product]
    exact nearestUnits_mono _ (Nat.mul_le_mul range.units_below range'.units_below)

theorem div (range : Between low high x) (range' : Between low' high' y) (some : 0 < low')
    (bounded : nearestUnits (units high * unitsPerOne) (units low') < infinity) :
    Between (nearestUnits (units low * unitsPerOne) (units high'))
      (nearestUnits (units high * unitsPerOne) (units low')) (x / y) := by
  obtain ⟨sign, quotient⟩ := fields_div range.finite range'.finite (Nat.lt_of_lt_of_le some range'.above)
  refine ⟨?_, ?_, ?_, bounded⟩
  · rw [sign, range.positive, range'.positive]
    rfl
  · rw [quotient]
    calc nearestUnits (units low * unitsPerOne) (units high')
        ≤ nearestUnits (units low * unitsPerOne) (units (magnitude y)) :=
          nearestUnits_antitone (Nat.lt_of_lt_of_le (units_pos some) range'.units_above) range'.units_below
      _ ≤ nearestUnits (units (magnitude x) * unitsPerOne) (units (magnitude y)) :=
          nearestUnits_mono _ (Nat.mul_le_mul_right _ range.units_above)
  · rw [quotient]
    calc nearestUnits (units (magnitude x) * unitsPerOne) (units (magnitude y))
        ≤ nearestUnits (units high * unitsPerOne) (units (magnitude y)) :=
          nearestUnits_mono _ (Nat.mul_le_mul_right _ range.units_below)
      _ ≤ nearestUnits (units high * unitsPerOne) (units low') :=
          nearestUnits_antitone (units_pos some) range'.units_above

theorem add (range : Between low high x) (range' : Between low' high' y)
    (bounded : nearestUnits (units high + units high') 1 < infinity) :
    Between (nearestUnits (units low + units low') 1) (nearestUnits (units high + units high') 1) (x + y) := by
  obtain ⟨sign, sum⟩ := fields_add range.finite range'.finite
  have exact : signedUnits x + signedUnits y = (units (magnitude x) + units (magnitude y) : Nat) := by
    rw [range.signedUnits_eq, range'.signedUnits_eq]
    rfl
  rw [exact, Int.natAbs_natCast] at sum
  refine ⟨?_, ?_, ?_, bounded⟩
  · rw [sign, isNegativeSum, exact, range.positive]
    split
    · rfl
    · exact decide_eq_false (by omega)
  · rw [sum]
    exact nearestUnits_mono 1 (Nat.add_le_add range.units_above range'.units_above)
  · rw [sum]
    exact nearestUnits_mono 1 (Nat.add_le_add range.units_below range'.units_below)

/-- The difference to a smaller double. -/
theorem sub (range : Between low high x) (range' : Between low' high' y) (less : units high' < units low)
    (bounded : nearestUnits (units high - units low') 1 < infinity) :
    Between (nearestUnits (units low - units high') 1) (nearestUnits (units high - units low') 1) (x - y) := by
  have difference := magnitude_sub range.finite range'.finite
  have lower := range.units_above
  have higher := range.units_below
  have lower' := range'.units_above
  have higher' := range'.units_below
  rw [range.signedUnits_eq, range'.signedUnits_eq] at difference
  have exact : ((units (magnitude x) : Int) - units (magnitude y)).natAbs =
      units (magnitude x) - units (magnitude y) := by
    omega
  rw [exact] at difference
  refine ⟨?_, ?_, ?_, bounded⟩
  · rw [isNegative_sub range.finite range'.finite, range.signedUnits_eq, range'.signedUnits_eq]
    · exact decide_eq_false (by omega)
    · rw [range.signedUnits_eq, range'.signedUnits_eq]
      omega
  · rw [difference]
    exact nearestUnits_mono 1 (by omega)
  · rw [difference]
    exact nearestUnits_mono 1 (by omega)

/-- A difference of doubles that are not negative is finite: it is no larger than both. -/
theorem isFinite_sub (range : Between low high x) (range' : Between low' high' y) :
    (x - y).isFinite = true := by
  have higher := range.units_below
  have higher' := range'.units_below
  rw [isFinite_iff, magnitude_sub range.finite range'.finite, range.signedUnits_eq, range'.signedUnits_eq]
  rcases Nat.le_total (units (magnitude y)) (units (magnitude x)) with more | less
  · have smaller : ((units (magnitude x) : Int) - units (magnitude y)).natAbs ≤ units high := by omega
    refine Nat.lt_of_le_of_lt (nearestUnits_mono 1 smaller) ?_
    rw [nearestUnits_units range.bounded]
    exact range.bounded
  · have smaller : ((units (magnitude x) : Int) - units (magnitude y)).natAbs ≤ units high' := by omega
    refine Nat.lt_of_le_of_lt (nearestUnits_mono 1 smaller) ?_
    rw [nearestUnits_units range'.bounded]
    exact range'.bounded

end Between

end QuicksortStudy.Binary64
