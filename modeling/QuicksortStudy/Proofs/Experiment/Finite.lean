import Mathlib
import QuicksortStudy.Proofs.Experiment.Outcome
import QuicksortStudy.Proofs.Metric.Finite
import QuicksortStudy.Proofs.Results.Rows
import QuicksortStudy.Proofs.Sorting.Quicksort

/-!
# Measurements are finite

A trimmed mean that there is divides a sum that is a duration by a number of timings that fit into memory.
So all rows of a benchmark are finite, unless sortedness is recorded by Kendall's correlation.
-/

namespace QuicksortStudy

open Binary64

namespace Trimmed

/-- The most timings that a list in memory can have. -/
def longest : Nat := 1 <<< 59

theorem length_kept_le (times : List Nanoseconds) (percent : Nat) :
    (kept times percent).length ≤ times.length := by
  unfold kept
  rw [List.length_take]
  omega

theorem isFinite_milliseconds {times : List Nanoseconds} (some : 0 < times.length)
    (short : times.length ≤ longest)
    (duration : total times ≤ durationLimit) : (milliseconds times).isFinite = true := by
  have sum : Between (nearest 0 1) (nearest durationLimit 1) (Binary64.ofNat (total times)) :=
    .ofNat (Nat.zero_le _) duration (by decide +kernel)
  have million : Between (magnitude 1000000.0) (magnitude 1000000.0) 1000000.0 :=
    .literal (by decide +kernel) (by decide +kernel)
  have count : Between (nearest 1 1) (nearest longest 1) (Binary64.ofNat times.length) :=
    .ofNat some short (by decide +kernel)
  have scaled := sum.div million (by decide +kernel) (by decide +kernel)
  exact (scaled.div count (by decide +kernel) (by decide +kernel)).isFinite

theorem isFinite_mean {times : List Nanoseconds} {percent : Nat} {mean : Float} (short : times.length ≤ longest)
    (given : (ofTimes times percent).mean = .ok mean) : mean.isFinite = true := by
  unfold ofTimes at given
  split at given
  · cases given
  · dsimp only at given
    split at given
    · cases given
    · next some =>
        split at given
        · cases given
        · next duration =>
            cases given
            rw [List.isEmpty_iff, ← Ne, ← List.length_pos_iff] at some
            exact isFinite_milliseconds some (Nat.le_trans (length_kept_le times percent) short)
              (Nat.le_of_lt (Nat.lt_of_not_le duration))

end Trimmed

theorem length_orderedNumbers? {size : Nat} {ascending : Bool} {base : List Int}
    (given : orderedNumbers? size ascending = some base) : base.length ≤ Spearman.longest := by
  have most : Spearman.longest = 1152921504606846976 := rfl
  unfold orderedNumbers? at given
  split at given
  · next room =>
      cases given
      rw [length_orderedNumbers]
      unfold numbersBelow
      unfold Room.fits Room.numberWidth at room
      rw [decide_eq_true_eq, Nat.one_shiftLeft] at room
      rw [Nat.one_shiftLeft]
      split <;> omega
  · cases given

theorem Progression.lt_limit {p : Progression} {n : Nat} (member : n ∈ p.numbers) : n < p.limit := by
  unfold numbers count at member
  obtain ⟨i, inside, rfl⟩ := List.mem_map.mp member
  rw [List.mem_range] at inside
  split at inside
  · exact absurd inside (Nat.not_lt_zero i)
  · next some =>
      have whole := (Nat.le_div_iff_mul_le (Nat.pos_of_ne_zero some)).mp (Nat.succ_le_of_lt inside)
      rw [Nat.succ_mul] at whole
      omega

namespace BenchmarkPlan

variable {settings : Settings}

theorem finite_of_rowOf {size swaps : Nat} {base : List Int} {row : Sample} (rank : settings.metric ≠ .kendall)
    (short : base.length ≤ Spearman.longest) (word : size < UInt64.size) (word' : swaps < UInt64.size)
    (known : RowOf settings size base swaps row) : row.Finite := by
  obtain ⟨isSize, ⟨shuffled, measured⟩, ⟨times, length, mean⟩, room⟩ := known
  intro column
  cases column with
  | size =>
      change row.size.isFinite = true
      rw [isSize]
      exact isFinite_ofNat word
  | sortedness => exact Metric.isFinite_measure rank short word' measured
  | time =>
      refine Trimmed.isFinite_mean ?_ mean
      unfold Room.fits Room.durationWidth at room
      rw [decide_eq_true_eq, Nat.one_shiftLeft] at room
      have most : Trimmed.longest = 576460752303423488 := rfl
      omega

/-- All rows of a benchmark are finite: sizes and swaps are words, and all lists fit into memory. -/
theorem Layout.finite {plan : BenchmarkPlan} {samples : Samples} (layout : Layout plan samples)
    (rank : plan.settings.metric ≠ .kendall) (word : plan.grid.sizes.limit < UInt64.size)
    (word' : plan.grid.swaps.limit < UInt64.size) : ∀ row ∈ samples.rows, row.Finite := by
  intro row member
  obtain ⟨position, found⟩ := List.mem_iff_getElem?.mp member
  obtain ⟨size, number, base, isSize, isNumber, given, known⟩ := layout.row_at found
  have size_lt := Progression.lt_limit (List.mem_of_getElem? isSize)
  have number_lt := Progression.lt_limit (List.mem_of_getElem? isNumber)
  exact finite_of_rowOf rank (length_orderedNumbers? given) (Nat.lt_trans size_lt word)
    (Nat.lt_trans number_lt word') known

end BenchmarkPlan

end QuicksortStudy
