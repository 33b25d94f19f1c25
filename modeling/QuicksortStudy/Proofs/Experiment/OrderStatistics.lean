import Mathlib
import QuicksortStudy.Experiment.TrimmedMean

/-!
# Order statistics

The timing of a rank is told by counting: at most that many timings are shorter, and more than that many are not
longer.  No order of the list has a part in this.  A sorted list has at each index the timing of that rank, so a
trimmed mean is the mean over the ranks in the middle, however the timings were arranged.  Less than half of the timings
is left out at each end, so of some timings at least one is left.
-/

namespace QuicksortStudy

variable {times other : List Nanoseconds} {rank rank' percent : Nat} {time time' : Nanoseconds}

/-- The timing of a rank, counted from zero for the shortest one. -/
structure OrderStatistic (times : List Nanoseconds) (rank : Nat) (time : Nanoseconds) : Prop where
  shorter : times.countP (· < time) ≤ rank
  notLonger : rank < times.countP (· ≤ time)

namespace OrderStatistic

theorem rank_lt (statistic : OrderStatistic times rank time) : rank < times.length :=
  statistic.notLonger.trans_le List.countP_le_length

theorem mono (statistic : OrderStatistic times rank time) (statistic' : OrderStatistic times rank' time')
    (le : rank ≤ rank') : time ≤ time' := by
  by_contra less
  have fewer : times.countP (· ≤ time') ≤ times.countP (· < time) :=
    List.countP_mono_left fun x _ small => decide_eq_true (lt_of_le_of_lt (of_decide_eq_true small) (not_le.mp less))
  exact absurd (le.trans_lt statistic'.notLonger) (not_lt.mpr (fewer.trans statistic.shorter))

theorem unique (statistic : OrderStatistic times rank time) (statistic' : OrderStatistic times rank time') :
    time = time' := le_antisymm (statistic.mono statistic' le_rfl) (statistic'.mono statistic le_rfl)

theorem of_perm (perm : other.Perm times) (statistic : OrderStatistic other rank time) :
    OrderStatistic times rank time :=
  ⟨perm.countP_eq _ ▸ statistic.shorter, perm.countP_eq _ ▸ statistic.notLonger⟩

/-- In a sorted list the timing of a rank stands where the rank says. -/
theorem of_sorted (sorted : times.Pairwise (· ≤ ·)) (found : times[rank]? = some time) :
    OrderStatistic times rank time := by
  induction times generalizing rank with
  | nil => cases found
  | cons first rest ih =>
      rw [List.pairwise_cons] at sorted
      cases rank with
      | zero =>
          cases found
          have none : rest.countP (· < time) = 0 := by simpa [List.countP_eq_zero] using sorted.1
          constructor <;> simp [none]
      | succ rank =>
          rw [List.getElem?_cons_succ] at found
          have statistic := ih sorted.2 found
          have below : first ≤ time := sorted.1 time (List.mem_of_getElem? found)
          constructor
          · have := statistic.shorter
            rw [List.countP_cons]
            split <;> omega
          · simpa [List.countP_cons, below] using statistic.notLonger

end OrderStatistic

namespace Trimmed

/-! ## The timings that are kept -/

theorem trimmedCount_lt (below : percent < 50) (filled : times ≠ []) :
    2 * trimmedCount times percent < times.length := by
  have positive := List.length_pos_iff.mpr filled
  have product : times.length * percent ≤ times.length * 49 := Nat.mul_le_mul_left _ (Nat.le_of_lt_succ below)
  unfold trimmedCount
  omega

theorem sorted_perm (times : List Nanoseconds) : (sorted times).Perm times := List.mergeSort_perm ..

theorem length_kept (below : percent < 50) (filled : times ≠ []) :
    (kept times percent).length = times.length - 2 * trimmedCount times percent := by
  have less := trimmedCount_lt below filled
  unfold kept
  rw [List.length_take, List.length_drop, (sorted_perm times).length_eq]
  omega

theorem kept_ne_nil (below : percent < 50) (filled : times ≠ []) :
    kept times percent ≠ [] := by
  rw [← List.length_pos_iff, length_kept below filled]
  exact Nat.sub_pos_of_lt (trimmedCount_lt below filled)

theorem total_kept_le (times : List Nanoseconds) (percent : Nat) : total (kept times percent) ≤ total times := by
  have part : (kept times percent).Sublist (sorted times) := (List.take_sublist _ _).trans (List.drop_sublist _ _)
  calc total (kept times percent) ≤ total (sorted times) := part.sum_le_sum fun time _ => Nat.zero_le time
    _ = total times := (sorted_perm times).sum_eq

/-- Some timings that are a duration together have a trimmed mean, unless too much is to be left out. -/
theorem mean_ofTimes (below : percent < 50) (filled : times ≠ [])
    (duration : total times < durationLimit) :
    (ofTimes times percent).mean = .ok (milliseconds (kept times percent)) := by
  have some : (kept times percent).isEmpty = false := by
    rw [List.isEmpty_eq_false_iff]
    exact kept_ne_nil below filled
  have short : ¬durationLimit ≤ total (kept times percent) :=
    Nat.not_le.mpr (Nat.lt_of_le_of_lt (total_kept_le times percent) duration)
  unfold ofTimes
  rw [if_neg (Nat.not_le.mpr below)]
  dsimp only
  rw [some, if_neg Bool.false_ne_true, if_neg short]

/-! ## The ranks of the timings -/

theorem pairwise_sorted (times : List Nanoseconds) : (sorted times).Pairwise (· ≤ ·) := by
  have ordered : (sorted times).Pairwise fun a b => decide (a ≤ b) = true :=
    List.pairwise_mergeSort (fun a b c => by simpa using le_trans) (fun a b => by simpa using le_total a b) times
  exact ordered.imp of_decide_eq_true

/-- The sorted timings list the order statistics rank by rank. -/
theorem getElem?_sorted_iff : (sorted times)[rank]? = some time ↔ OrderStatistic times rank time := by
  have statistic {time : Nanoseconds} (found : (sorted times)[rank]? = some time) : OrderStatistic times rank time :=
    (OrderStatistic.of_sorted (pairwise_sorted times) found).of_perm (sorted_perm times)
  refine ⟨statistic, fun given => ?_⟩
  have inside : rank < (sorted times).length := (sorted_perm times).length_eq ▸ given.rank_lt
  have found := List.getElem?_eq_getElem inside
  rw [found, (statistic found).unique given]

theorem sorted_eq_of_perm (perm : other.Perm times) : sorted other = sorted times := by
  apply List.ext_getElem?
  intro rank
  apply Option.ext
  intro time
  rw [getElem?_sorted_iff, getElem?_sorted_iff]
  exact ⟨.of_perm perm, .of_perm perm.symm⟩

/-- The timings that are kept are those of the ranks in the middle. -/
theorem getElem?_kept_iff {index : Nat} : (kept times percent)[index]? = some time ↔
    index < times.length - 2 * trimmedCount times percent ∧
      OrderStatistic times (trimmedCount times percent + index) time := by
  simp [kept, List.getElem?_take, List.getElem?_drop, getElem?_sorted_iff]

theorem ofTimes_of_below (below : percent < 50) : (ofTimes times percent).times = sorted times := by
  simp [ofTimes, Nat.not_le.mpr below]

theorem exists_error_of_nil (percent : Nat) : ∃ error, (ofTimes [] percent).mean = .error error := by
  unfold ofTimes
  split
  · exact ⟨_, rfl⟩
  · simp [kept, sorted]

theorem mean_eq_of_perm (perm : other.Perm times) (percent : Nat) :
    (ofTimes other percent).mean = (ofTimes times percent).mean := by
  simp only [ofTimes, kept, trimmedCount, sorted_eq_of_perm perm, perm.length_eq]
  split <;> rfl

/-- Counted in machine words, the timings that are left out at each end are as many. -/
theorem trimmedCount_words (below : percent < 50) (room : times.length * 50 < UInt64.size) :
    (UInt64.ofNat times.length * UInt64.ofNat percent / 100).toNat = trimmedCount times percent := by
  have product : times.length * percent ≤ times.length * 50 := Nat.mul_le_mul_left _ below.le
  have size : UInt64.size = 2 ^ 64 := rfl
  have length : times.length % 2 ^ 64 = times.length := Nat.mod_eq_of_lt (by omega)
  have share : percent % 2 ^ 64 = percent := Nat.mod_eq_of_lt (by omega)
  rw [UInt64.toNat_div, UInt64.toNat_mul, UInt64.toNat_ofNat', UInt64.toNat_ofNat', length, share,
    Nat.mod_eq_of_lt (by omega)]
  rfl

/-- What a trimmed mean of some timings is. -/
structure MeansMiddle (times : List Nanoseconds) (percent : Nat) (outcome : Trimmed) : Prop where
  fails : (∃ error, outcome.mean = .error error) ↔ 50 ≤ percent ∨ times = []
  refused : 50 ≤ percent → outcome.times = times
  sorted : percent < 50 → outcome.times.Pairwise (· ≤ ·) ∧ outcome.times.Perm times
  count : percent < 50 → (UInt64.ofNat times.length * UInt64.ofNat percent / 100).toNat = times.length * percent / 100
  /-- At least one timing is left. -/
  left : percent < 50 → times ≠ [] → 2 * (times.length * percent / 100) < times.length
  kept : ∀ index time, (Trimmed.kept times percent)[index]? = some time ↔
    index < times.length - 2 * (times.length * percent / 100) ∧
      OrderStatistic times (times.length * percent / 100 + index) time
  mean : percent < 50 → times ≠ [] → outcome.mean = .ok (Binary64.ofNat (total (Trimmed.kept times percent)) /
    1000000.0 / Binary64.ofNat (times.length - 2 * (times.length * percent / 100)))
  rearranged : ∀ other : List Nanoseconds, other.Perm times → (ofTimes other percent).mean = outcome.mean

/-- There is a trimmed mean unless too much is left out of the timings or there are none, and then it is the mean of the
timings of the middle ranks. -/
theorem ofTimes_means_middle (percent : Nat) (duration : total times < durationLimit)
    (room : times.length * 50 < UInt64.size) : MeansMiddle times percent (ofTimes times percent) := by
  constructor
  case fails =>
      constructor
      · rintro ⟨error, failed⟩
        by_contra fine
        obtain ⟨below, filled⟩ := not_or.mp fine
        rw [mean_ofTimes (not_le.mp below) filled duration] at failed
        cases failed
      · rintro (much | rfl)
        · exact ⟨_, by rw [ofTimes_tooMuch times much]⟩
        · exact exists_error_of_nil percent
  case refused => exact fun much => by rw [ofTimes_tooMuch times much]
  case sorted =>
      intro below
      rw [ofTimes_of_below below]
      exact ⟨pairwise_sorted times, sorted_perm times⟩
  case count => exact fun below => trimmedCount_words below room
  case left => exact trimmedCount_lt
  case kept => exact fun index time => getElem?_kept_iff
  case mean =>
      intro below filled
      rw [mean_ofTimes below filled duration, milliseconds, length_kept below filled]
      rfl
  case rearranged => exact fun other perm => mean_eq_of_perm perm percent

theorem ofTimes_means_middle_oneLate :
    total [40, 10, 1000, 20, 30] < durationLimit ∧ [40, 10, 1000, 20, 30].length * 50 < UInt64.size ∧
      OrderStatistic [40, 10, 1000, 20, 30] 1 20 ∧ OrderStatistic [40, 10, 1000, 20, 30] 3 40 ∧
      (ofTimes [40, 10, 1000, 20, 30] 20).mean = .ok (Binary64.ofNat 90 / 1000000.0 / Binary64.ofNat 3) ∧
      (ofTimes [1000, 40, 30, 20, 10] 20).mean = .ok (Binary64.ofNat 90 / 1000000.0 / Binary64.ofNat 3) ∧
      (∃ error, (ofTimes [40, 10, 1000, 20, 30] 50).mean = .error error) := by
  have duration : total [40, 10, 1000, 20, 30] < durationLimit := by decide
  have room : [40, 10, 1000, 20, 30].length * 50 < UInt64.size := by decide
  have middle : kept [40, 10, 1000, 20, 30] 20 = [20, 30, 40] := by cbv
  have perm : [1000, 40, 30, 20, 10].Perm [40, 10, 1000, 20, 30] := by decide
  have outcome := ofTimes_means_middle 20 duration room
  have refused := ofTimes_means_middle 50 duration room
  have mean := outcome.mean (by decide) (by decide)
  have ranks := outcome.kept
  rw [middle] at mean ranks
  exact ⟨duration, room, ((ranks 0 20).mp rfl).2, ((ranks 2 40).mp rfl).2, mean,
    (outcome.rearranged _ perm).trans mean, refused.fails.mpr (.inl le_rfl)⟩

end Trimmed

end QuicksortStudy
