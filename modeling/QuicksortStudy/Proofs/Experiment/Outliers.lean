import Mathlib
import QuicksortStudy.Proofs.Experiment.OrderStatistics

/-!
# Outliers

A few timings can be off by any amount.  As many as are left out at each end of the sorted timings cannot take a trimmed
mean out of the range of the others: no longer than a timing that is kept are more timings than can be off, and no
shorter are more as well, so on either side is one that is not off.
-/

namespace QuicksortStudy

variable {times changed : List Nanoseconds} {replaced : Finset Nat} {rank percent : Nat} {time : Nanoseconds}
  {keep : Nanoseconds → Bool}

/-! ## Positions of timings -/

/-- The positions at which some of the timings stand. -/
def positionsOf (keep : Nanoseconds → Bool) (times : List Nanoseconds) : List Nat :=
  (times.zipIdx.filter fun entry => keep entry.1).map Prod.snd

theorem mem_positionsOf {position : Nat} :
    position ∈ positionsOf keep times ↔ ∃ time, times[position]? = some time ∧ keep time = true := by
  simp [positionsOf, List.mem_zipIdx_iff_getElem?]

theorem nodup_positionsOf (keep : Nanoseconds → Bool) (times : List Nanoseconds) : (positionsOf keep times).Nodup :=
  (List.nodup_zipIdx_map_snd times).sublist (List.filter_sublist.map Prod.snd)

theorem length_positionsOf (keep : Nanoseconds → Bool) (times : List Nanoseconds) :
    (positionsOf keep times).length = times.countP keep := by
  calc (positionsOf keep times).length = times.zipIdx.countP (keep ∘ Prod.fst) := by
        rw [positionsOf, List.length_map, List.countP_eq_length_filter]
        rfl
    _ = times.countP keep := by rw [← List.countP_map, List.zipIdx_map_fst]

/-! ## Timings that are replaced -/

/-- A list with other timings at some of its positions. -/
structure Replaces (replaced : Finset Nat) (times changed : List Nanoseconds) : Prop where
  length : changed.length = times.length
  elsewhere : ∀ position ∉ replaced, changed[position]? = times[position]?

/-- The timings at all other positions. -/
def unreplaced (replaced : Finset Nat) (times : List Nanoseconds) : Set Nanoseconds :=
  {time | ∃ position ∉ replaced, times[position]? = some time}

theorem bddAbove_unreplaced (replaced : Finset Nat) (times : List Nanoseconds) :
    BddAbove (unreplaced replaced times) := by
  refine (times.finite_toSet.subset ?_).bddAbove
  rintro time ⟨position, -, found⟩
  exact List.mem_of_getElem? found

namespace Replaces

/-- Of more timings than were replaced, one was not. -/
theorem exists_unreplaced (replaces : Replaces replaced times changed) (more : replaced.card < changed.countP keep) :
    ∃ time ∈ unreplaced replaced times, keep time = true := by
  have notAll : ¬(positionsOf keep changed).toFinset ⊆ replaced := by
    intro all
    have few := Finset.card_le_card all
    rw [List.toFinset_card_of_nodup (nodup_positionsOf keep changed), length_positionsOf] at few
    exact absurd more (not_lt.mpr few)
  obtain ⟨position, member, free⟩ := Finset.not_subset.mp notAll
  obtain ⟨time, found, kept⟩ := mem_positionsOf.mp (List.mem_toFinset.mp member)
  rw [replaces.elsewhere position free] at found
  exact ⟨time, ⟨position, free, found⟩, kept⟩

/-- A timing that enough others are shorter than and longer than is between two that were not replaced. -/
theorem between (replaces : Replaces replaced times changed) (statistic : OrderStatistic changed rank time)
    (front : replaced.card ≤ rank) (back : rank + replaced.card < times.length) :
    (∃ low ∈ unreplaced replaced times, low ≤ time) ∧ ∃ high ∈ unreplaced replaced times, time ≤ high := by
  constructor
  · have more : replaced.card < changed.countP (· ≤ time) := front.trans_lt statistic.notLonger
    simpa using replaces.exists_unreplaced more
  · have both := changed.length_eq_countP_add_countP (· < time)
    have more : replaced.card < changed.countP (¬· < time) := by
      have := statistic.shorter
      have := replaces.length
      simp at both ⊢
      omega
    simpa using replaces.exists_unreplaced more

/-- Some timings were not replaced, so one of these is the shortest and one the longest. -/
theorem exists_range (replaces : Replaces replaced times changed) (some : replaced.card < times.length) :
    ∃ low high, IsLeast (unreplaced replaced times) low ∧ IsGreatest (unreplaced replaced times) high := by
  have more : replaced.card < changed.countP fun _ => true := by simpa [replaces.length] using some
  obtain ⟨time, member, -⟩ := replaces.exists_unreplaced more
  have nonempty : (unreplaced replaced times).Nonempty := ⟨time, member⟩
  have bounded := bddAbove_unreplaced replaced times
  exact ⟨sInf (unreplaced replaced times), sSup (unreplaced replaced times),
    ⟨Nat.sInf_mem nonempty, fun _ => Nat.sInf_le⟩, ⟨Nat.sSup_mem nonempty bounded, fun _ => le_csSup bounded⟩⟩

end Replaces

namespace Trimmed

/-- The sum of timings between two others is between as many times the one and the other. -/
theorem total_between {low high : Nanoseconds} (bounds : ∀ time ∈ times, low ≤ time ∧ time ≤ high) :
    times.length * low ≤ total times ∧ total times ≤ times.length * high := by
  have lower : times.length • low ≤ total times :=
    times.card_nsmul_le_sum low fun time member => (bounds time member).1
  have upper : total times ≤ times.length • high :=
    times.sum_le_card_nsmul high fun time member => (bounds time member).2
  exact ⟨lower, upper⟩

theorem mem_kept_between (below : percent < 50) (filled : times ≠ []) (replaces : Replaces replaced times changed)
    (few : replaced.card ≤ trimmedCount times percent) (kept : time ∈ kept changed percent) :
    (∃ low ∈ unreplaced replaced times, low ≤ time) ∧ ∃ high ∈ unreplaced replaced times, time ≤ high := by
  have less := trimmedCount_lt below filled
  have same : trimmedCount changed percent = trimmedCount times percent := by
    unfold trimmedCount
    rw [replaces.length]
  obtain ⟨index, found⟩ := List.mem_iff_getElem?.mp kept
  obtain ⟨inside, statistic⟩ := getElem?_kept_iff.mp found
  rw [same, replaces.length] at inside
  rw [same] at statistic
  exact replaces.between statistic (by omega) (by omega)

/-- As many outliers as are left out at each end cannot take the timings that are kept out of the range of the
others. -/
theorem kept_in_range_of_others (below : percent < 50) (filled : times ≠ [])
    (replaces : Replaces replaced times changed) (few : replaced.card ≤ times.length * percent / 100)
    (duration : total changed < durationLimit) :
    ∃ low high, IsLeast (unreplaced replaced times) low ∧ IsGreatest (unreplaced replaced times) high ∧
      (∀ time ∈ kept changed percent, low ≤ time ∧ time ≤ high) ∧
      (times.length - 2 * (times.length * percent / 100)) * low ≤ total (kept changed percent) ∧
      total (kept changed percent) ≤ (times.length - 2 * (times.length * percent / 100)) * high ∧
      (ofTimes changed percent).mean = .ok (milliseconds (kept changed percent)) := by
  have less : 2 * (times.length * percent / 100) < times.length := trimmedCount_lt below filled
  have filled' : changed ≠ [] := by
    rw [← List.length_pos_iff, replaces.length]
    exact List.length_pos_iff.mpr filled
  have length : (kept changed percent).length = times.length - 2 * (times.length * percent / 100) := by
    rw [length_kept below filled', trimmedCount, replaces.length]
  obtain ⟨low, high, least, greatest⟩ := replaces.exists_range (by omega)
  have bounds : ∀ time ∈ kept changed percent, low ≤ time ∧ time ≤ high := by
    intro time member
    obtain ⟨⟨low', inside, le⟩, high', inside', le'⟩ := mem_kept_between below filled replaces few member
    exact ⟨(least.2 inside).trans le, le'.trans (greatest.2 inside')⟩
  have sums := total_between bounds
  rw [length] at sums
  exact ⟨low, high, least, greatest, bounds, sums.1, sums.2, mean_ofTimes below filled' duration⟩

theorem kept_in_range_of_others_twoLate :
    40 < 50 ∧ [5, 6, 7, 8, 9] ≠ ([] : List Nanoseconds) ∧
      Replaces {0, 4} [5, 6, 7, 8, 9] [1000, 6, 7, 8, 2000] ∧
      ({0, 4} : Finset Nat).card ≤ [5, 6, 7, 8, 9].length * 40 / 100 ∧
      total [1000, 6, 7, 8, 2000] < durationLimit ∧
      ∃ low high, IsLeast (unreplaced {0, 4} [5, 6, 7, 8, 9]) low ∧
        IsGreatest (unreplaced {0, 4} [5, 6, 7, 8, 9]) high ∧ low ≤ 8 ∧ 8 ≤ high ∧
        (ofTimes [1000, 6, 7, 8, 2000] 40).mean = .ok (milliseconds [8]) := by
  have filled : [5, 6, 7, 8, 9] ≠ ([] : List Nanoseconds) := by decide
  have replaces : Replaces {0, 4} [5, 6, 7, 8, 9] [1000, 6, 7, 8, 2000] := by
    refine ⟨rfl, fun position free => ?_⟩
    rcases position with _ | _ | _ | _ | _ | position <;> simp_all
  have few : ({0, 4} : Finset Nat).card ≤ [5, 6, 7, 8, 9].length * 40 / 100 := by decide
  have duration : total [1000, 6, 7, 8, 2000] < durationLimit := by decide
  have middle : kept [1000, 6, 7, 8, 2000] 40 = [8] := by cbv
  obtain ⟨low, high, least, greatest, bounds, -, -, mean⟩ :=
    kept_in_range_of_others (by decide : 40 < 50) filled replaces few duration
  rw [middle] at bounds mean
  obtain ⟨lower, upper⟩ := bounds 8 (List.mem_singleton_self 8)
  exact ⟨by decide, filled, replaces, few, duration, low, high, least, greatest, lower, upper, mean⟩

end Trimmed

end QuicksortStudy
