import Mathlib
import QuicksortStudy.Proofs.Chart.Bounds

/-!
# Extent of an axis

Where all numbers of a column are the same, the axis goes one half to both sides of them.  Doubles near one are dense,
but from `2 ^ 52` on they are at least one apart, and one half is lost in the rounding, or rounded to the even
neighbour.  So the axis has extent unless all numbers are one number which is even and larger than `2 ^ 52`, or not
below `2 ^ 53`.
-/

namespace QuicksortStudy.Span

open Binary64

variable {column : List Float} {span : Span} {x : Float}

/-- Where the bounds have no extent, every number of the column is at the level of both. -/
theorem Fits.level_eq (fits : span.Fits column) (flat : ¬span.low < span.high) (inside : x ∈ column) :
    level span.low = level x ∧ level x = level span.high := by
  obtain ⟨numberLow, -, lowX⟩ := le_iff.mp (fits.low_le x inside)
  obtain ⟨-, numberHigh, highX⟩ := le_iff.mp (fits.le_high x inside)
  have flat := (le_iff.mp (le_of_not_lt numberLow numberHigh flat)).2.2
  omega

/-- Bounds without extent are widened to some extent if and only if one half moves the number they are at. -/
theorem Fits.widened_extends_iff (fits : span.Fits column) (finite : ∀ x ∈ column, magnitude x < infinity)
    (flat : ¬span.low < span.high) (inside : x ∈ column) :
    span.low - 0.5 < span.high + 0.5 ↔ FeelsHalf (magnitude x) := by
  have finiteLow := finite _ fits.low_mem
  have finiteHigh := finite _ fits.high_mem
  have finiteX := finite x inside
  obtain ⟨sameLow, sameHigh⟩ := fits.level_eq flat inside
  have lower : level (span.low - 0.5) = level (x - 0.5) := by
    rw [level_sub_half finiteLow, level_sub_half finiteX, signedUnits_eq_of_level_eq sameLow]
  have upper : level (span.high + 0.5) = level (x + 0.5) := by
    rw [level_add_half finiteHigh, level_add_half finiteX, signedUnits_eq_of_level_eq sameHigh]
  rw [← sub_half_lt_add_half_iff finiteX,
    lt_iff_level (Nat.le_of_lt (finite_sub_half finiteLow)) (Nat.le_of_lt (finite_add_half finiteHigh)),
    lt_iff_level (Nat.le_of_lt (finite_sub_half finiteX)) (Nat.le_of_lt (finite_add_half finiteX)), lower, upper]

theorem Fits.low_lt_high_iff (fits : span.Fits column) :
    span.low < span.high ↔ ∃ x ∈ column, ∃ y ∈ column, x < y := by
  constructor
  · exact fun extent => ⟨span.low, fits.low_mem, span.high, fits.high_mem, extent⟩
  · rintro ⟨x, insideX, y, insideY, less⟩
    refine fits.low_lt_high insideX insideY (Bool.eq_false_iff.mpr fun same => ?_)
    have levels := (lt_iff.mp less).2.2
    exact Int.ne_of_lt levels (beq_iff.mp same).2.2

/-- The axis of a column of finite numbers has extent if and only if two of them differ, or one half moves all. -/
theorem axis_extends_iff (filled : column ≠ []) (finite : ∀ x ∈ column, x.isFinite = true) :
    ∃ span, axis column = some span ∧
      (span.low < span.high ↔
        (∃ x ∈ column, ∃ y ∈ column, x < y) ∨ ∀ x ∈ column, FeelsHalf (magnitude x)) := by
  obtain ⟨_, hasAxis⟩ := exists_axis filled finite
  refine ⟨_, hasAxis, ?_⟩
  rw [axis_eq, Option.map_eq_some_iff] at hasAxis
  obtain ⟨span, hasBounds, rfl⟩ := hasAxis
  obtain ⟨finite, fits⟩ := fits_bounds hasBounds
  rw [← fits.low_lt_high_iff, widened]
  split_ifs with extent
  · exact iff_of_true extent (.inl extent)
  · rw [or_iff_right extent]
    constructor
    · exact fun moved x inside => (fits.widened_extends_iff finite extent inside).mp moved
    · exact fun moved => (fits.widened_extends_iff finite extent fits.low_mem).mpr (moved _ fits.low_mem)

/-- One half moves an odd number above `2 ^ 52`, down and up to its even neighbours. -/
theorem axis_extends_iff_odd : ∃ span, axis [-4503599627370497.0, -4503599627370497.0] = some span ∧
    span.low < span.high := by
  obtain ⟨span, hasAxis, extent⟩ := @axis_extends_iff [-4503599627370497.0, -4503599627370497.0]
    (List.cons_ne_nil _ _) (by decide +kernel)
  refine ⟨span, hasAxis, extent.mpr (.inr fun x inside => .inr ⟨4503599627370497, by decide, by decide, ?_⟩)⟩
  rw [List.mem_pair, or_self] at inside
  rw [inside]
  decide +kernel

/-- The even number `2 ^ 53` stays where it is when one half is taken from it or added to it. -/
theorem not_axis_extends : ¬∀ column : List Float, column ≠ [] → (∀ x ∈ column, x.isFinite = true) →
    ∃ span, axis column = some span ∧ span.low < span.high := by
  intro always
  obtain ⟨span, hasAxis, extent⟩ := always [9007199254740992.0] (List.cons_ne_nil _ _) (by decide +kernel)
  have collapsed : axis [9007199254740992.0] = some ⟨9007199254740992.0, 9007199254740992.0⟩ := by decide +kernel
  rw [collapsed, Option.some_inj] at hasAxis
  subst hasAxis
  exact absurd extent (by decide +kernel)

end QuicksortStudy.Span
