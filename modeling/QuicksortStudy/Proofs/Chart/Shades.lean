import Mathlib
import QuicksortStudy.Chart.Draw
import QuicksortStudy.Proofs.Chart.Bounds

/-!
# Shades of triangles

The place of a value in a span comes from a difference, a quotient and a clamp, and each of them keeps the order.  But a
span from far below zero to far above it has an extent that is not finite, and so can be the distance of a value from
the low end.  If both are infinite, their quotient is `NaN`, which the clamp lets through.
-/

namespace QuicksortStudy

open Binary64

namespace Span

/-! ## Clamping -/

section

variable {x : Float}

theorem clamp_of_isNaN (nan : infinity < magnitude x) : clamp x = x := by
  unfold clamp
  rw [if_neg fun less => Nat.not_le_of_lt nan (lt_iff.mp less).1,
    if_neg fun less => Nat.not_le_of_lt nan (lt_iff.mp less).2.1]

theorem level_clamp (number : magnitude x ≤ infinity) :
    magnitude (clamp x) ≤ infinity ∧ level (clamp x) = max 0 (min (level x) (level 1.0)) := by
  have one := level_one_pos
  simp only [clamp, lt_iff_level number number_zero, lt_iff_level number_one number, level_zero]
  split_ifs with below above
  · refine ⟨number_zero, ?_⟩
    rw [level_zero]
    omega
  · exact ⟨number_one, by omega⟩
  · exact ⟨number, by omega⟩

theorem number_clamp_iff : magnitude (clamp x) ≤ infinity ↔ magnitude x ≤ infinity := by
  constructor
  · intro number
    by_contra nan
    rw [clamp_of_isNaN (Nat.lt_of_not_le nan)] at number
    exact nan number
  · exact fun number => (level_clamp number).1

end

/-! ## Distance and extent -/

section

variable {span : Span} {v w : Float}

/-- A span of finite ends and some extent. -/
structure Wide (span : Span) : Prop where
  low : magnitude span.low < infinity
  high : magnitude span.high < infinity
  extent : span.low < span.high

/-- The share of a distance in the extent of a span. -/
def share (span : Span) (v : Float) : Float := (v - span.low) / (span.high - span.low)

theorem place_of_extent (extent : span.low < span.high) (v : Float) : span.place v = clamp (span.share v) :=
  if_pos extent

theorem place_of_flat (flat : ¬span.low < span.high) (v : Float) : span.place v = 0.0 := if_neg flat

namespace Wide

theorem units_lt (wide : span.Wide) : signedUnits span.low < signedUnits span.high :=
  (signedUnits_lt_iff wide.low wide.high).mpr (lt_iff.mp wide.extent).2.2

theorem extent_positive (wide : span.Wide) :
    isNegative (span.high - span.low) = false ∧ 0 < magnitude (span.high - span.low) := by
  have less := wide.units_lt
  constructor
  · rw [isNegative_sub wide.high wide.low (by omega), decide_eq_false_iff_not]
    omega
  · have least : nearestUnits 1 1 = 1 := by decide +kernel
    have rounded := nearestUnits_mono 1 (show 1 ≤ (signedUnits span.high - signedUnits span.low).natAbs by omega)
    rw [magnitude_sub wide.high wide.low]
    omega

theorem extent_number (wide : span.Wide) : magnitude (span.high - span.low) ≤ infinity :=
  number_sub (Nat.le_of_lt wide.high) wide.low

/-- The extent and the distance to a finite value below the span are not both infinite. -/
theorem finite_distance (wide : span.Wide) (finite : magnitude v < infinity) (below : level v ≤ level span.low)
    (infinite : magnitude (span.high - span.low) = infinity) : magnitude (v - span.low) < infinity := by
  have less := wide.units_lt
  have below := (signedUnits_le_iff finite wide.low).mpr below
  have largest := units_le_largest finite
  have largest' := units_le_largest wide.high
  have size := natAbs_signedUnits v
  have size' := natAbs_signedUnits span.high
  -- Only below a negative low end is there so much room, and from there a lower value is nearer than the least double.
  have negative : signedUnits span.low < 0 := by
    by_contra positive
    rw [magnitude_sub wide.high wide.low] at infinite
    exact Nat.ne_of_lt (finite_of_near (by omega)) infinite
  rw [magnitude_sub finite wide.low]
  exact finite_of_near (by omega)

/-! ## Shares -/

theorem number_share_iff (wide : span.Wide) (number : magnitude v ≤ infinity) :
    magnitude (span.share v) ≤ infinity ↔
      magnitude (span.high - span.low) < infinity ∨ magnitude (v - span.low) < infinity := by
  have distance := number_sub number wide.low
  rcases Nat.lt_or_eq_of_le wide.extent_number with finite | infinite
  · exact iff_of_true (number_div distance finite wide.extent_positive.2) (.inl finite)
  · rcases Nat.lt_or_eq_of_le distance with finite' | infinite'
    · have nothing := magnitude_div_infinite finite' infinite
      refine iff_of_true ?_ (.inr finite')
      rw [share, nothing]
      exact Nat.zero_le _
    · have nan := isNaN_infinite_div_infinite infinite' infinite
      refine iff_of_false (Nat.not_le_of_lt nan) ?_
      omega

theorem level_share_of_overflow (infinite : magnitude (span.high - span.low) = infinity)
    (finite : magnitude (v - span.low) < infinity) : level (span.share v) = 0 := by
  have nothing := magnitude_div_infinite finite infinite
  have size := natAbs_level (span.share v)
  rw [share] at size ⊢
  omega

theorem level_share_mono (wide : span.Wide) (finite : magnitude (span.high - span.low) < infinity)
    (number : magnitude v ≤ infinity) (number' : magnitude w ≤ infinity) (le : level v ≤ level w) :
    level (span.share v) ≤ level (span.share w) :=
  level_div_mono finite wide.extent_positive.1 wide.extent_positive.2 (number_sub number wide.low)
    (number_sub number' wide.low) (level_sub_mono wide.low number number' le)

theorem level_share_low (wide : span.Wide) (finite : magnitude (span.high - span.low) < infinity) :
    level (span.share span.low) = 0 := by
  have nothing : magnitude (span.low - span.low) = 0 := by
    rw [magnitude_sub wide.low wide.low, Int.sub_self]
    exact nearestUnits_zero 1
  rw [share, level_div (nothing ▸ by decide) finite wide.extent_positive.1 wide.extent_positive.2,
    signedUnits_of_zero nothing, Int.zero_mul]
  exact congrArg Nat.cast (nearestUnits_zero _)

theorem level_share_high (wide : span.Wide) (finite : magnitude (span.high - span.low) < infinity) :
    level (span.share span.high) = level 1.0 :=
  level_div_self finite wide.extent_positive.1 wide.extent_positive.2

/-! ## Places -/

theorem number_place_iff (wide : span.Wide) :
    magnitude (span.place v) ≤ infinity ↔ magnitude (span.share v) ≤ infinity := by
  rw [place_of_extent wide.extent, number_clamp_iff]

theorem level_place (wide : span.Wide) (number : magnitude (span.share v) ≤ infinity) :
    level (span.place v) = max 0 (min (level (span.share v)) (level 1.0)) := by
  rw [place_of_extent wide.extent, (level_clamp number).2]

theorem level_place_mono (wide : span.Wide) (le : v ≤ w) (number : magnitude (span.share v) ≤ infinity)
    (number' : magnitude (span.share w) ≤ infinity) : level (span.place v) ≤ level (span.place w) := by
  obtain ⟨numberV, numberW, le⟩ := le_iff.mp le
  have shares : level (span.share v) ≤ level (span.share w) := by
    rcases Nat.lt_or_eq_of_le wide.extent_number with finite | infinite
    · exact wide.level_share_mono finite numberV numberW le
    · have finite := ((wide.number_share_iff numberV).mp number).resolve_left (Nat.not_lt_of_le infinite.ge)
      have finite' := ((wide.number_share_iff numberW).mp number').resolve_left (Nat.not_lt_of_le infinite.ge)
      rw [level_share_of_overflow infinite finite, level_share_of_overflow infinite finite']
  rw [wide.level_place number, wide.level_place number']
  omega

theorem level_place_low (wide : span.Wide) (finite : magnitude v < infinity) (below : level v ≤ level span.low) :
    magnitude (span.place v) ≤ infinity ∧ level (span.place v) = 0 := by
  have shares : magnitude (span.share v) ≤ infinity ∧ level (span.share v) ≤ 0 := by
    rcases Nat.lt_or_eq_of_le wide.extent_number with finiteExtent | infinite
    · refine ⟨(wide.number_share_iff (Nat.le_of_lt finite)).mpr (.inl finiteExtent), ?_⟩
      rw [← wide.level_share_low finiteExtent]
      exact wide.level_share_mono finiteExtent (Nat.le_of_lt finite) (Nat.le_of_lt wide.low) below
    · have distance := wide.finite_distance finite below infinite
      refine ⟨(wide.number_share_iff (Nat.le_of_lt finite)).mpr (.inr distance), ?_⟩
      exact Int.le_of_eq (level_share_of_overflow infinite distance)
  refine ⟨wide.number_place_iff.mpr shares.1, ?_⟩
  rw [wide.level_place shares.1]
  omega

theorem level_place_high (wide : span.Wide) (finite : magnitude (span.high - span.low) < infinity)
    (number : magnitude v ≤ infinity) (above : level span.high ≤ level v) :
    magnitude (span.place v) ≤ infinity ∧ level (span.place v) = level 1.0 := by
  have one := level_one_pos
  have numberShare := (wide.number_share_iff number).mpr (.inl finite)
  have share := wide.level_share_mono finite (Nat.le_of_lt wide.high) number above
  rw [wide.level_share_high finite] at share
  refine ⟨wide.number_place_iff.mpr numberShare, ?_⟩
  rw [wide.level_place numberShare]
  omega

end Wide

end

/-- The places of values in a span are between zero and one, and in the order of the values.  A place is not a number
if and only if both the extent of the span and the distance of the value are too large for a double. -/
structure PlacesInOrder (span : Span) : Prop where
  isNaN_iff : ∀ v, v.isNaN = false → ((span.place v).isNaN = true ↔
    span.low < span.high ∧ (span.high - span.low).isFinite = false ∧ (v - span.low).isFinite = false)
  within : ∀ v, (span.place v).isNaN = false → 0.0 ≤ span.place v ∧ span.place v ≤ 1.0
  ordered : ∀ v w, v ≤ w → (span.place v).isNaN = false → (span.place w).isNaN = false → span.place v ≤ span.place w
  low_end : span.low < span.high → ∀ v, v.isFinite = true → v ≤ span.low → (span.place v == 0.0) = true
  high_end : span.low < span.high → (span.high - span.low).isFinite = true → ∀ v, span.high ≤ v →
    (span.place v == 1.0) = true

section

variable {span : Span}

theorem Wide.placesInOrder (wide : span.Wide) : span.PlacesInOrder where
  isNaN_iff v number := by
    rw [isNaN_eq_false_iff] at number
    rw [isNaN_iff, ← Nat.not_le, wide.number_place_iff, wide.number_share_iff number, not_or, Nat.not_lt, Nat.not_lt,
      isFinite_eq_false_iff, isFinite_eq_false_iff, and_iff_right wide.extent]
  within v number := by
    rw [isNaN_eq_false_iff] at number
    have one := level_one_pos
    have placed := wide.level_place (wide.number_place_iff.mp number)
    constructor
    · refine le_iff.mpr ⟨number_zero, number, ?_⟩
      rw [level_zero]
      omega
    · exact le_iff.mpr ⟨number, number_one, by omega⟩
  ordered v w le number number' := by
    rw [isNaN_eq_false_iff] at number number'
    exact le_iff.mpr ⟨number, number',
      wide.level_place_mono le (wide.number_place_iff.mp number) (wide.number_place_iff.mp number')⟩
  low_end _ v finite below := by
    obtain ⟨number, zero⟩ := wide.level_place_low ((isFinite_iff v).mp finite) (le_iff.mp below).2.2
    exact beq_iff.mpr ⟨number, number_zero, zero.trans level_zero.symm⟩
  high_end _ finite v above := by
    obtain ⟨-, numberV, above⟩ := le_iff.mp above
    obtain ⟨number, one⟩ := wide.level_place_high ((isFinite_iff _).mp finite) numberV above
    exact beq_iff.mpr ⟨number, number_one, one⟩

theorem placesInOrder_of_flat (flat : ¬span.low < span.high) : span.PlacesInOrder where
  isNaN_iff v _ := by
    rw [place_of_flat flat]
    exact iff_of_false (by decide +kernel) fun wide => flat wide.1
  within v _ := by
    rw [place_of_flat flat]
    decide +kernel
  ordered v w _ _ _ := by
    rw [place_of_flat flat, place_of_flat flat]
    decide +kernel
  low_end extent := absurd extent flat
  high_end extent := absurd extent flat

theorem placesInOrder_of_finite (low : span.low.isFinite = true) (high : span.high.isFinite = true) :
    span.PlacesInOrder := by
  by_cases extent : span.low < span.high
  · exact Wide.placesInOrder ⟨(isFinite_iff _).mp low, (isFinite_iff _).mp high, extent⟩
  · exact placesInOrder_of_flat extent

end

end Span

/-! ## Triangles -/

/-- The times of the corners are in a column. -/
def Triangle.TimedBy (column : List Float) (t : Triangle Point) : Prop := ∀ corner ∈ t.corners, corner.time ∈ column

/-- A mean of finite times is a number, if perhaps an infinite one. -/
theorem Triangle.isNaN_meanTime {column : List Float} {t : Triangle Point} (timed : t.TimedBy column)
    (finite : ∀ x ∈ column, magnitude x < infinity) : t.meanTime.isNaN = false := by
  have finite : ∀ corner ∈ t.corners, magnitude corner.time < infinity := fun corner inside =>
    finite _ (timed corner inside)
  simp only [corners, List.forall_mem_cons] at finite
  obtain ⟨first, second, third, -⟩ := finite
  have sum := number_add (number_add (Nat.le_of_lt first) second) third
  rw [isNaN_eq_false_iff]
  exact number_div sum (by decide +kernel) (by decide +kernel)

/-- The shades of some triangles on a time axis are between zero and one, and in the order of the mean times.  A shade
is not a number if and only if both the extent of the axis and the distance of the mean time are too large for a
double. -/
structure ShadesInOrder (time : Span) (Shown : Triangle Point → Prop) : Prop where
  isNaN_iff : ∀ t, Shown t → ((t.shade time).isNaN = true ↔
    time.low < time.high ∧ (time.high - time.low).isFinite = false ∧ (t.meanTime - time.low).isFinite = false)
  within : ∀ t, Shown t → (t.shade time).isNaN = false → 0.0 ≤ t.shade time ∧ t.shade time ≤ 1.0
  ordered : ∀ t t', Shown t → Shown t' → t.meanTime ≤ t'.meanTime → (t.shade time).isNaN = false →
    (t'.shade time).isNaN = false → t.shade time ≤ t'.shade time
  never_smaller : ∀ t t', Shown t → Shown t' → t.meanTime ≤ t'.meanTime → ¬t'.shade time < t.shade time

theorem ShadesInOrder.of_axis {column : List Float} {time : Span} (hasAxis : Span.axis column = some time) :
    ShadesInOrder time (Triangle.TimedBy column) := by
  rw [Span.axis_eq, Option.map_eq_some_iff] at hasAxis
  obtain ⟨bounds, hasBounds, rfl⟩ := hasAxis
  obtain ⟨finite, fits⟩ := Span.fits_bounds hasBounds
  obtain ⟨low, high, -, -⟩ := Span.encloses_widened finite fits
  have places := Span.placesInOrder_of_finite low high
  constructor
  · exact fun t timed => places.isNaN_iff _ (Triangle.isNaN_meanTime timed finite)
  · exact fun t _ => places.within _
  · exact fun t t' _ _ => places.ordered _ _
  · intro t t' _ _ le less
    obtain ⟨number', number, less⟩ := lt_iff.mp less
    have notLess := places.ordered _ _ le (isNaN_eq_false_iff.mpr number) (isNaN_eq_false_iff.mpr number')
    exact Int.not_lt.mpr (le_iff.mp notLess).2.2 less

/-- The places in a span of finite ends, and the shades of all triangles with times of the column of the axis. -/
theorem shades_in_order {span : Span} (low : span.low.isFinite = true) (high : span.high.isFinite = true) :
    span.PlacesInOrder ∧
      ∀ column, Span.axis column = some span → ShadesInOrder span (Triangle.TimedBy column) :=
  ⟨Span.placesInOrder_of_finite low high, fun _ => ShadesInOrder.of_axis⟩

/-- On the axis from 1 to 4 a mean time of 3 is not shaded below one of 5 / 3. -/
theorem shades_in_order_oneToFour :
    Triangle.shade ⟨⟨1.0, 1.0, 0.0⟩, ⟨1.0, 2.0, 1.0⟩, ⟨2.0, 2.0, 0.0⟩⟩ ⟨1.0, 4.0⟩ ≤
      Triangle.shade ⟨⟨1.0, 1.0, 0.0⟩, ⟨2.0, 4.0, 1.0⟩, ⟨2.0, 4.0, 0.0⟩⟩ ⟨1.0, 4.0⟩ := by
  have ends := @shades_in_order ⟨1.0, 4.0⟩ (by decide +kernel) (by decide +kernel)
  have shades := ends.2 [2.0, 4.0, 1.0] (by decide +kernel)
  refine shades.ordered _ _ ?_ ?_ ?_ ?_ ?_
  · simp [Triangle.TimedBy, Triangle.corners]
  · simp [Triangle.TimedBy, Triangle.corners]
  · decide +kernel
  · decide +kernel
  · decide +kernel

/-- From the least finite double to the greatest one the extent is infinite, and the high end has no place in it. -/
theorem not_place_number : ¬∀ (span : Span) (v : Float), span.low.isFinite = true → span.high.isFinite = true →
    v.isFinite = true → (span.place v).isNaN = false := by
  intro always
  have number := always ⟨-1.7976931348623157e308, 1.7976931348623157e308⟩ 1.7976931348623157e308 (by decide +kernel)
    (by decide +kernel) (by decide +kernel)
  exact absurd number (by decide +kernel)

end QuicksortStudy
