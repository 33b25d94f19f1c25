import Mathlib
import QuicksortStudy.Chart.Gallery
import QuicksortStudy.Proofs.Binary64.Fields
import QuicksortStudy.Proofs.Results.Rows
import QuicksortStudy.Proofs.Samples.Operations

/-!
# Checks before drawing

There are axes for some samples if and only if there are samples and all their values are finite.  The last
samples of such a list are such a list again, so a picture of the last samples passes the checks whenever a
picture of all of them does.
-/

namespace QuicksortStudy

/-! ## Axes -/

theorem Span.checked_eq_none_iff {column : List Float} {ends : Span} :
    checked column ends = none ↔ column = [] ∨ ∃ x ∈ column, x.isFinite = false := by
  unfold checked
  rw [ite_eq_left_iff, List.isEmpty_iff, Bool.not_eq_true', List.all_eq_false]
  simp only [reduceCtorEq, imp_false, not_not, Bool.not_eq_true]

theorem Span.axis_eq_none_iff {column : List Float} :
    axis column = none ↔ column = [] ∨ ∃ x ∈ column, x.isFinite = false :=
  Option.map_eq_none_iff.trans checked_eq_none_iff

theorem Span.exists_axis {column : List Float} (filled : column ≠ []) (finite : ∀ x ∈ column, x.isFinite = true) :
    ∃ span, Span.axis column = some span := by
  refine Option.ne_none_iff_exists'.mp fun none => ?_
  rcases axis_eq_none_iff.mp none with nothing | ⟨x, inside, bad⟩
  · exact filled nothing
  · exact Bool.false_ne_true (bad.symm.trans (finite x inside))

theorem Span.axis_of_not_finite {column : List Float} (bad : ∃ x ∈ column, ¬x.isFinite = true) :
    Span.axis column = none := by
  obtain ⟨x, inside, bad⟩ := bad
  exact axis_eq_none_iff.mpr (.inr ⟨x, inside, Bool.eq_false_of_not_eq_true bad⟩)

/-- Samples that can be shown. -/
structure Drawable (rows : List Sample) : Prop where
  filled : rows ≠ []
  finite : ∀ row ∈ rows, row.Finite

namespace Axes

theorem ofSamples_nil : ofSamples (.ofRows []) = .error .noSamples := rfl

theorem exists_ofSamples {rows : List Sample} (drawable : Drawable rows) :
    ∃ axes, ofSamples (.ofRows rows) = .ok axes := by
  have column (column : Sample.Column) : ∃ span, Span.axis (rows.map (Sample.value · column)) = some span := by
    refine Span.exists_axis (fun none => drawable.filled (List.map_eq_nil_iff.mp none)) fun x member => ?_
    obtain ⟨row, inRows, rfl⟩ := List.mem_map.mp member
    exact drawable.finite row inRows column
  obtain ⟨size, hasSize⟩ := column .size
  obtain ⟨time, hasTime⟩ := column .time
  obtain ⟨sortedness, hasSortedness⟩ := column .sortedness
  have hasSize : Span.axis (Samples.ofRows rows).sizes = some size := hasSize
  have hasTime : Span.axis (Samples.ofRows rows).times = some time := hasTime
  have hasSortedness : Span.axis (Samples.ofRows rows).sortedness = some sortedness := hasSortedness
  refine ⟨⟨size, time, sortedness⟩, ?_⟩
  unfold ofSamples
  rw [Samples.isEmpty_ofRows, List.isEmpty_eq_false_iff.mpr drawable.filled, if_neg Bool.false_ne_true, hasSize,
    hasTime, hasSortedness]

/-- One value that is not finite, in whichever column, is one too many. -/
theorem ofSamples_of_not_finite {rows : List Sample} (bad : ∃ row ∈ rows, ¬row.Finite) :
    ofSamples (.ofRows rows) = .error .notFinite := by
  obtain ⟨row, member, notFinite⟩ := bad
  obtain ⟨column, notFinite⟩ := not_forall.mp notFinite
  have noSpan : Span.axis (rows.map (Sample.value · column)) = none :=
    Span.axis_of_not_finite ⟨row.value column, List.mem_map_of_mem member, notFinite⟩
  unfold ofSamples
  rw [Samples.isEmpty_ofRows, List.isEmpty_eq_false_iff.mpr (List.ne_nil_of_mem member), if_neg Bool.false_ne_true]
  split
  · next size time sortedness hasSize hasTime hasSortedness =>
      cases column with
      | size => exact absurd (noSpan.symm.trans hasSize) nofun
      | sortedness => exact absurd (noSpan.symm.trans hasSortedness) nofun
      | time => exact absurd (noSpan.symm.trans hasTime) nofun
  · rfl

/-- The checks tell three kinds of samples apart. -/
theorem ofSamples_cases {samples : Samples} (aligned : samples.Aligned) :
    (samples.rows = [] ∧ ofSamples samples = .error .noSamples) ∨
      ((∃ row ∈ samples.rows, ¬row.Finite) ∧ ofSamples samples = .error .notFinite) ∨
      (Drawable samples.rows ∧ ∃ axes, ofSamples samples = .ok axes) := by
  have whole := Samples.ofRows_rows aligned
  by_cases none : samples.rows = []
  · have refused := ofSamples_nil
    rw [← none, whole] at refused
    exact .inl ⟨none, refused⟩
  · by_cases finite : ∀ row ∈ samples.rows, row.Finite
    · have drawable : Drawable samples.rows := ⟨none, finite⟩
      have checked := exists_ofSamples drawable
      rw [whole] at checked
      exact .inr (.inr ⟨drawable, checked⟩)
    · simp only [not_forall, exists_prop] at finite
      have refused := ofSamples_of_not_finite finite
      rw [whole] at refused
      exact .inr (.inl ⟨finite, refused⟩)

theorem drawable_of_ofSamples {samples : Samples} {axes : Axes} (aligned : samples.Aligned)
    (checked : ofSamples samples = .ok axes) : Drawable samples.rows := by
  rcases ofSamples_cases aligned with ⟨-, refused⟩ | ⟨-, refused⟩ | ⟨drawable, -⟩
  · cases checked.symm.trans refused
  · cases checked.symm.trans refused
  · exact drawable

end Axes

/-! ## The rows of a picture -/

namespace Gallery

/-- The last rows of some, all of them if there are fewer. -/
def lastRows (count : Nat) (rows : List Sample) : List Sample := rows.drop (rows.length - count)

/-- The rows that a picture shows. -/
def shownRows (picture : Picture) (rows : List Sample) : List Sample :=
  match picture with
  | .surface _ => rows
  | .scatter => lastRows 100 rows

theorem samples_shown (picture : Picture) {subject : Subject} {rows : List Sample}
    (whole : subject.samples = .ofRows rows) :
    (shown picture subject).samples = .ofRows (shownRows picture rows) := by
  cases picture with
  | surface camera => exact whole
  | scatter =>
      unfold shown
      dsimp only
      rw [whole, Samples.tail_ofRows scatterRows rows]
      rfl

theorem drawable_lastRows {rows : List Sample} (drawable : Drawable rows) {count : Nat} (positive : 0 < count) :
    Drawable (lastRows count rows) := by
  constructor
  · intro none
    have short := List.drop_eq_nil_iff.mp none
    have long := List.length_pos_iff.mpr drawable.filled
    omega
  · exact fun row member => drawable.finite row (List.mem_of_mem_drop member)

theorem drawable_shownRows {rows : List Sample} (drawable : Drawable rows) (picture : Picture) :
    Drawable (shownRows picture rows) := by
  cases picture with
  | surface camera => exact drawable
  | scatter => exact drawable_lastRows drawable (by decide)

/-- What is said about the rows of a picture: nothing but the rows without any sortedness. -/
def remarked (picture : Picture) (rows : List Sample) : List LogLine :=
  match picture with
  | .surface _ => []
  | .scatter => ((lastRows 100 rows).filter fun row =>
      decide (row.sortedness = 0.0 ∨ row.sortedness = -0.0)).map Drawing.zeroSortedness

theorem remarks_shownRows (picture : Picture) (rows : List Sample) :
    Drawing.remarks picture (.ofRows (shownRows picture rows)) = remarked picture rows := by
  cases picture with
  | surface camera => rfl
  | scatter =>
      unfold Drawing.remarks remarked shownRows
      rw [Samples.rows_ofRows]
      apply congrArg (List.map Drawing.zeroSortedness)
      apply List.filter_congr
      intro row _
      rw [Bool.eq_iff_iff, Binary64.beq_zero_iff, decide_eq_true_iff]

end Gallery

end QuicksortStudy
