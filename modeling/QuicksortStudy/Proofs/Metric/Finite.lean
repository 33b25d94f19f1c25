import Mathlib
import QuicksortStudy.Proofs.Binary64.Ranges
import QuicksortStudy.Proofs.Metric.Ranks

/-!
# Sortedness is finite

The number of swaps is finite as long as it is a word.  For Spearman's correlation the lists have to be short
enough to be held in memory: then no rank distance is large, and their squares are absorbed by a bound that
their sum never crosses.
-/

namespace QuicksortStudy

open Binary64

/-! ## Rank distances -/

theorem mem_ranks {xs : List Int} {rank : Nat} (member : rank ∈ ranks xs) : 1 ≤ rank ∧ rank ≤ xs.length := by
  have inside := (ranks_perm xs).mem_iff.mp member
  rw [List.mem_range'_1] at inside
  omega

theorem mem_rankDistances {xs ys : List Int} {distance limit : Nat} (fits : xs.length ≤ limit)
    (fits' : ys.length ≤ limit) (member : distance ∈ rankDistances xs ys) : distance ≤ limit := by
  unfold rankDistances at member
  obtain ⟨⟨rank, rank'⟩, inside, rfl⟩ := List.mem_map.mp member
  obtain ⟨first, second⟩ := List.of_mem_zip inside
  have bounds := mem_ranks first
  have bounds' := mem_ranks second
  change rank - rank' + (rank' - rank) ≤ limit
  omega

/-! ## Spearman's correlation -/

namespace Spearman

/-- The most elements that a list of numbers in memory can have. -/
def longest : Nat := 1 <<< 60

/-- A bound on the sum of the squared distances that one more square does not cross. -/
def ceiling : Nat := nearest (1 <<< 200) 1

theorem between_square {distance : Nat} (short : distance ≤ longest) :
    Between 0 (nearest (1 <<< 120) 1) (Binary64.ofNat distance * Binary64.ofNat distance) := by
  have range : Between (nearest 0 1) (nearest longest 1) (Binary64.ofNat distance) :=
    .ofNat (Nat.zero_le _) short (by decide +kernel)
  exact (range.mul range (by decide +kernel)).weaken (Nat.zero_le _) (by decide +kernel) (by decide +kernel)

/-- The ceiling absorbs a square: a sum below it stays below it. -/
theorem between_sum {sum : Float} {distances : List Nat} (short : ∀ distance ∈ distances, distance ≤ longest)
    (below : Between 0 ceiling sum) :
    Between 0 ceiling (distances.foldl (fun sum d => let d := Binary64.ofNat d; sum + d * d) sum) := by
  induction distances generalizing sum with
  | nil => exact below
  | cons distance rest ih =>
      have square := between_square (short distance (List.mem_cons_self))
      have added := below.add square (by decide +kernel)
      exact ih (fun d member => short d (List.mem_cons_of_mem _ member))
        (added.weaken (Nat.zero_le _) (by decide +kernel) (by decide +kernel))

theorem isFinite_rho {xs ys : List Int} {rho : Float} (short : xs.length ≤ longest)
    (correlated : Spearman.rho xs ys = some rho) : rho.isFinite = true := by
  unfold Spearman.rho at correlated
  split at correlated
  · cases correlated
  · next long =>
      cases correlated
      rw [not_or, not_not] at long
      have zero : Between 0 ceiling 0.0 :=
        (Between.literal (by decide +kernel) (by decide +kernel)).weaken (Nat.zero_le _) (by decide +kernel)
          (by decide +kernel)
      have one : Between (magnitude 1.0) (magnitude 1.0) 1.0 := .literal (by decide +kernel) (by decide +kernel)
      have six : Between (magnitude 6.0) (magnitude 6.0) 6.0 := .literal (by decide +kernel) (by decide +kernel)
      have count : Between (nearest 2 1) (nearest longest 1) (Binary64.ofNat xs.length) :=
        .ofNat (by omega) short (by decide +kernel)
      have distance := between_sum (fun d member => mem_rankDistances short (long.1 ▸ short) member) zero
      have numerator := six.mul distance (by decide +kernel)
      have square := count.mul count (by decide +kernel)
      have lessOne := square.sub one (by decide +kernel) (by decide +kernel)
      have denominator := count.mul lessOne (by decide +kernel)
      have quotient := numerator.div denominator (by decide +kernel) (by decide +kernel)
      exact one.isFinite_sub quotient

end Spearman

/-! ## Recorded sortedness -/

theorem isFinite_ofNat {n : Nat} (word : n < UInt64.size) : (Binary64.ofNat n).isFinite = true :=
  (Between.ofNat (Nat.zero_le n) (Nat.le_of_lt word) (by decide +kernel)).isFinite

/-- Swaps and Spearman's correlation are recorded as finite numbers. -/
theorem Metric.isFinite_measure {metric : Metric} {base shuffled : List Int} {swaps : Nat} {value : Float}
    (rank : metric ≠ .kendall) (short : base.length ≤ Spearman.longest) (word : swaps < UInt64.size)
    (measured : metric.measure base shuffled swaps = .ok value) : value.isFinite = true := by
  cases metric with
  | swaps =>
      cases measured
      exact isFinite_ofNat word
  | spearman =>
      have one : (1.0 : Float).isFinite = true := by decide +kernel
      unfold Metric.measure at measured
      dsimp only at measured
      split at measured
      · cases measured
        exact one
      · cases measured
        cases correlated : Spearman.rho base shuffled with
        | none => exact one
        | some rho => exact Spearman.isFinite_rho short correlated
  | kendall => exact absurd rfl rank

end QuicksortStudy
