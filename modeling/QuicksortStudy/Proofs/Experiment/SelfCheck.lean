import Mathlib
import QuicksortStudy.Proofs.Experiment.Ending

/-!
# How a measurement ends

A measurement of any list at all, and not only of numbers in order.  A shuffle has the elements of the list that was
shuffled, and so has what it is sorted into.  So the first timed run tells already whether the list holds the numbers
from zero on, and later runs find the same: which positions were drawn makes no difference.
-/

namespace QuicksortStudy

/-- The elements of a list are the numbers from zero up to but not including its length, in any order. -/
def Numbered (xs : List Int) : Prop := xs.Perm ((List.range xs.length).map Int.ofNat)

instance (xs : List Int) : Decidable (Numbered xs) := inferInstanceAs (Decidable (List.Perm _ _))

theorem Numbered.of_perm {xs ys : List Int} (perm : xs.Perm ys) (numbered : Numbered xs) : Numbered ys := by
  unfold Numbered at numbered ⊢
  rw [← perm.length_eq]
  exact perm.symm.trans numbered

/-- A list that there is room for is short enough to be numbered by signed words. -/
theorem numbersBelow_of_fits {size : Nat} (room : Room.fits Room.numberWidth size = true) :
    numbersBelow size = size := by
  unfold Room.fits Room.numberWidth at room
  rw [decide_eq_true_eq] at room
  unfold numbersBelow
  rw [if_pos (by omega)]

theorem numbered_iff {xs : List Int} (room : Room.fits Room.numberWidth xs.length = true) :
    Numbered xs ↔ xs.Perm (orderedNumbers xs.length true) := by
  rw [orderedNumbers_true, numbersBelow_of_fits room]
  exact Iff.rfl

/-- The check accepts what was sorted exactly if the list holds the numbers from zero on. -/
theorem quicksort_eq_orderedNumbers_iff {xs : List Int} (room : Room.fits Room.numberWidth xs.length = true) :
    quicksort xs = orderedNumbers xs.length true ↔ Numbered xs := by
  rw [numbered_iff room]
  constructor
  · intro accepted
    rw [← accepted]
    exact (quicksort_perm xs).symm
  · exact quicksort_of_perm

/-- After one shuffle it no longer matters what was there before, so the warm-up and the timed runs are one row of
shuffles. -/
theorem recorded_eq_reshuffled {α : Type} (warmup : Nat) {timed : Nat} (some : timed ≠ 0) (base : List α) (swaps : Nat)
    (s : RandomStream) : recorded warmup timed base swaps s = reshuffled base swaps (warmup + timed) (base, s) := by
  obtain ⟨later, rfl⟩ := Nat.exists_eq_succ_of_ne_zero some
  unfold recorded
  rw [reshuffled_add]
  exact congrArg _ (funext fun warmed => rfl)

namespace Measurement

variable {settings : Settings} {base : List Int} {swaps : Nat} {s : RandomStream} {clock : Nat → Nanoseconds}
  {taken : Nat}

theorem ofProgress_untimed {percent : Nat} (below : percent < 50) (value : Float) :
    ofProgress percent ⟨value, []⟩ = .error (.trim (.nothingLeft 0)) := by
  have nothing : Trimmed.ofTimes [] percent = ⟨.error (.nothingLeft 0), []⟩ := by
    simp [Trimmed.ofTimes, Nat.not_le.mpr below, Trimmed.kept, Trimmed.sorted, Trimmed.trimmedCount]
  simp [ofProgress, nothing]

/-- The first timed run of anything else than numbers stops the measurement, whatever it draws. -/
theorem timedRuns_unsorted {count : Nat} (some : count ≠ 0)
    (room : Room.fits Room.numberWidth base.length = true) (other : ¬Numbered base) {progress : Progress}
    {outcome : Drawn Measurement}
    (ended : (timedRuns settings base swaps count s progress).runFrom clock taken = .some outcome) :
    outcome.result = .error (.unsorted base.length swaps) := by
  obtain ⟨later, rfl⟩ := Nat.exists_eq_succ_of_ne_zero some
  cases once : shuffle base swaps s with
  | none =>
      rw [timedRuns, once] at ended
      cases ended
  | some shuffled =>
      have perm : shuffled.1.Perm base := shuffle_perm once
      obtain ⟨value, measured⟩ := settings.metric.exists_measure perm.length_eq swaps
      have refused : quicksort shuffled.1 ≠ orderedNumbers base.length true := by
        rw [← perm.length_eq, Ne, quicksort_eq_orderedNumbers_iff (perm.length_eq ▸ room)]
        exact fun numbered => other (numbered.of_perm perm)
      rw [timedRuns, once] at ended
      dsimp only at ended
      rw [measured] at ended
      dsimp only at ended
      rw [Bench.runFrom, if_neg refused] at ended
      cases ended
      rfl

/-- The result is an error, and these are the words for it. -/
def FailsWith (outcome : Drawn Measurement) (error : BenchmarkError) (words : String) : Prop :=
  outcome.result = .error error ∧ error.message = words

/-- How a measurement ends: the first of these that holds decides. -/
structure Ends (settings : Settings) (base : List Int) (swaps : Nat) (s : RandomStream) (times : List Nanoseconds)
    (outcome : Drawn Measurement) : Prop where
  /-- The check finds any list that does not hold the numbers from zero on, as soon as it is made. -/
  unsorted : settings.timed ≠ 0 → ¬Numbered base →
    FailsWith outcome (.unsorted base.length swaps) ("quicksort did not sort an array of " ++
      toString base.length ++ " elements (" ++ toString swaps ++ " swaps)")
  tooMuch : settings.timed = 0 ∨ Numbered base → 50 ≤ settings.trimPercent →
    FailsWith outcome (.trim (.tooMuch settings.trimPercent)) ("trim must be below 50%, got " ++
      toString settings.trimPercent ++ "%")
  untimed : settings.timed = 0 → settings.trimPercent < 50 →
    FailsWith outcome (.trim (.nothingLeft 0)) "no timings left after trimming 0 from each end"
  /-- The sortedness is that of the last of all shuffles, those of the warm-up included. -/
  measured : settings.timed ≠ 0 → Numbered base → settings.trimPercent < 50 → ∃ last sortedness,
    reshuffled base swaps (settings.warmup + settings.timed) (base, s) = some last ∧
    settings.metric.measure base last.1 swaps = .ok sortedness ∧
    outcome.result = .ok ⟨Trimmed.milliseconds (Trimmed.kept times settings.trimPercent), sortedness⟩

/-- A measurement of any list ends in one of four ways, and neither the draws nor the clock decide in which.  It does
end if the stream yields for the length of the list, so that no draw goes on for ever. -/
theorem take_ends (settings : Settings) (base : List Int) (swaps : Nat) (s : RandomStream)
    {clock : Nat → Nanoseconds} (room : Room.fits Room.numberWidth base.length = true)
    (timingsRoom : Room.fits Room.durationWidth settings.timed = true)
    (duration : Trimmed.total (timings clock 0 settings.timed) < Trimmed.durationLimit) :
    (s.Yields base.length → ∃ outcome, (take settings base swaps s).run clock = some outcome) ∧
      ∀ outcome, (take settings base swaps s).run clock = some outcome →
        Ends settings base swaps s (timings clock 0 settings.timed) outcome := by
  refine ⟨fun yields => ?_, fun outcome ended => ?_⟩
  · obtain ⟨outcome, -, ended, -⟩ := finishes_take settings yields swaps 0
    exact ⟨outcome, ended⟩
  obtain ⟨warmed, first, -, known, runs, -⟩ := take_warmed timingsRoom ended
  have untimed (none : settings.timed = 0) : outcome.result = ofProgress settings.trimPercent ⟨first, []⟩ := by
    rw [none] at runs
    cases runs
    rfl
  constructor
  case unsorted =>
      intro some other
      exact ⟨timedRuns_unsorted some room other runs, rfl⟩
  case tooMuch =>
      intro accepted much
      refine ⟨?_, rfl⟩
      rcases accepted with none | numbered
      · rw [untimed none, ofProgress_tooMuch much]
      · obtain ⟨last, value, -, -, rfl, -⟩ := take_eq ((numbered_iff room).mp numbered) timingsRoom ended
        exact ofProgress_tooMuch much
  case untimed =>
      intro none below
      refine ⟨?_, rfl⟩
      rw [untimed none, ofProgress_untimed below]
  case measured =>
      intro some numbered below
      obtain ⟨last, value, isLast, measured, rfl, -⟩ := take_eq ((numbered_iff room).mp numbered) timingsRoom ended
      rw [recorded_eq_reshuffled settings.warmup some] at isLast
      exact ⟨last, value, isLast, measured, ofProgress_timings below some duration value⟩

/-- One warm-up run and three timed runs, of which the middle one counts. -/
def middleOfThree : Settings := ⟨1, 3, 40, true, .spearman⟩

theorem take_ends_middleOfThree :
    Room.fits Room.numberWidth ([1, 0, 1] : List Int).length = true ∧
      Room.fits Room.numberWidth ([2, 0, 1] : List Int).length = true ∧
      Room.fits Room.durationWidth middleOfThree.timed = true ∧
      Trimmed.total (timings (fun taken => 1000 * (taken + 1)) 0 middleOfThree.timed) < Trimmed.durationLimit ∧
      refusedFirst.Yields 3 ∧ ¬Numbered [1, 0, 1] ∧ Numbered [2, 0, 1] ∧
      (∃ outcome, (take middleOfThree [1, 0, 1] 5 refusedFirst).run (fun taken => 1000 * (taken + 1)) = some outcome ∧
        outcome.result = .error (.unsorted 3 5)) ∧
      ∃ last sortedness outcome, reshuffled [2, 0, 1] 5 4 ([2, 0, 1], refusedFirst) = some last ∧
        Metric.spearman.measure [2, 0, 1] last.1 5 = .ok sortedness ∧
        (take middleOfThree [2, 0, 1] 5 refusedFirst).run (fun taken => 1000 * (taken + 1)) = some outcome ∧
        outcome.result = .ok ⟨Trimmed.milliseconds [2000], sortedness⟩ := by
  have room : Room.fits Room.numberWidth 3 = true := by decide
  have timingsRoom : Room.fits Room.durationWidth middleOfThree.timed = true := by decide
  have duration : Trimmed.total (timings (fun taken => 1000 * (taken + 1)) 0 middleOfThree.timed) <
      Trimmed.durationLimit := by decide
  have yields : refusedFirst.Yields 3 := RandomStream.yields_ofWords _ 3
  have repeated : ¬Numbered [1, 0, 1] := by decide
  have numbered : Numbered [2, 0, 1] := by decide
  have middle : Trimmed.kept (timings (fun taken => 1000 * (taken + 1)) 0 middleOfThree.timed)
      middleOfThree.trimPercent = [2000] := by cbv
  obtain ⟨ends, refused⟩ := take_ends middleOfThree [1, 0, 1] 5 refusedFirst room timingsRoom duration
  obtain ⟨ends', accepted⟩ := take_ends middleOfThree [2, 0, 1] 5 refusedFirst room timingsRoom duration
  obtain ⟨outcome, ended⟩ := ends yields
  obtain ⟨outcome', ended'⟩ := ends' yields
  obtain ⟨last, sortedness, isLast, known, ok⟩ := (accepted outcome' ended').measured (by decide) numbered (by decide)
  rw [middle] at ok
  exact ⟨room, room, timingsRoom, duration, yields, repeated, numbered,
    ⟨outcome, ended, ((refused outcome ended).unsorted (by decide) repeated).1⟩, last, sortedness, outcome', isLast,
    known, ended', ok⟩

end Measurement

end QuicksortStudy
