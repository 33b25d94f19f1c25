import Mathlib
import QuicksortStudy.Proofs.Experiment.Outcome
import QuicksortStudy.Proofs.Metric.Ranks
import QuicksortStudy.Proofs.Sorting.Positions

/-!
# What a benchmark draws

A measurement of numbers in order always sorts what it shuffles, so it shuffles as often as its settings say,
takes that many timings, and records the sortedness of the last shuffle, as long as its draws end.  Which positions
were drawn is known without the numbers, the clock and the metric: they are computed here from the array sizes, the
numbers of swaps and the numbers of runs alone, and a benchmark that does not fail has recorded exactly these draws.
-/

namespace QuicksortStudy

/-! ## One measurement -/

/-- Some durations in the order in which they are taken. -/
def timings (clock : Nat → Nanoseconds) (taken count : Nat) : List Nanoseconds :=
  (List.range count).map fun i => clock (taken + i)

theorem timings_succ (clock : Nat → Nanoseconds) (taken count : Nat) :
    timings clock taken (count + 1) = clock taken :: timings clock (taken + 1) count := by
  unfold timings
  rw [List.range_succ_eq_map, List.map_cons, List.map_map]
  congr 1
  apply List.map_congr_left
  intro i _
  rw [Function.comp_apply, Nat.succ_eq_add_one, Nat.add_assoc, Nat.add_comm 1]

/-- The shuffle that a measurement records, which is the last one, and the stream after it. -/
def recorded {α : Type} (warmup timed : Nat) (base : List α) (swaps : Nat) (s : RandomStream) :
    Option (List α × RandomStream) :=
  (reshuffled base swaps warmup (base, s)).bind fun warmed => reshuffled base swaps timed (base, warmed.2)

theorem recorded_map {α β : Type} (f : α → β) (warmup timed : Nat) (base : List α) (swaps : Nat)
    (s : RandomStream) : recorded warmup timed (base.map f) swaps s =
      (recorded warmup timed base swaps s).map fun last => (last.1.map f, last.2) := by
  unfold recorded
  rw [reshuffled_map f base swaps warmup (base, s)]
  cases reshuffled base swaps warmup (base, s) with
  | none => rfl
  | some warmed => exact reshuffled_map f base swaps timed (base, warmed.2)

theorem recorded_perm {α : Type} {warmup timed : Nat} {base : List α} {swaps : Nat} {s : RandomStream}
    {last : List α × RandomStream} (ended : recorded warmup timed base swaps s = some last) : last.1.Perm base := by
  obtain ⟨warmed, -, rest⟩ := Option.bind_eq_some_iff.mp ended
  exact reshuffled_perm (List.Perm.refl base) rest

theorem Metric.exists_measure (metric : Metric) {base shuffled : List Int} (same : shuffled.length = base.length)
    (swaps : Nat) : ∃ value, metric.measure base shuffled swaps = .ok value := by
  cases metric with
  | swaps => exact ⟨_, rfl⟩
  | spearman => exact ⟨_, rfl⟩
  | kendall =>
      unfold Metric.measure Kendall.tau
      dsimp only
      rw [if_neg (not_not.mpr same.symm)]
      split <;> exact ⟨_, rfl⟩

namespace Measurement

variable {settings : Settings} {base : List Int} {swaps : Nat}

theorem warmUp_eq (base : List Int) (swaps : Nat) (clock : Nat → Nanoseconds) (taken count : Nat)
    (last : List Int × RandomStream) :
    (warmUp base swaps count last.2).runFrom clock taken = (reshuffled base swaps count last).map Prod.snd ∧
      (warmUp base swaps count last.2).after clock taken = taken := by
  induction count generalizing last with
  | zero => exact ⟨rfl, rfl⟩
  | succ count ih =>
      unfold warmUp reshuffled
      cases shuffle base swaps last.2 with
      | none => exact ⟨rfl, rfl⟩
      | some drawn => exact ih drawn

/-- A timed run of numbers in order never stops early, since every shuffle is sorted. -/
theorem timedRuns_succ (clock : Nat → Nanoseconds) (taken count : Nat) {size : Nat} {ascending : Bool}
    (numbers : base.Perm (orderedNumbers size ascending)) (progress : Progress) {s : RandomStream}
    {shuffled : List Int × RandomStream} (once : shuffle base swaps s = some shuffled) :
    ∃ value, settings.metric.measure base shuffled.1 swaps = .ok value ∧
      (timedRuns settings base swaps (count + 1) s progress).runFrom clock taken =
        (timedRuns settings base swaps count shuffled.2 ⟨value, clock taken :: progress.times⟩).runFrom clock
          (taken + 1) ∧
      (timedRuns settings base swaps (count + 1) s progress).after clock taken =
        (timedRuns settings base swaps count shuffled.2 ⟨value, clock taken :: progress.times⟩).after clock
          (taken + 1) := by
  have perm : shuffled.1.Perm base := shuffle_perm once
  obtain ⟨value, measured⟩ := settings.metric.exists_measure perm.length_eq swaps
  have sorted := quicksort_of_perm (perm.trans numbers)
  rw [perm.length_eq] at sorted
  refine ⟨value, measured, ?_, ?_⟩
  · rw [timedRuns, once]
    dsimp only
    rw [measured]
    dsimp only
    rw [Bench.runFrom, if_pos sorted]
  · rw [timedRuns, once]
    dsimp only
    rw [measured]
    dsimp only
    rw [Bench.after, if_pos sorted]

/-- Timed runs of numbers in order end with what is known from their last shuffle and from all timings. -/
theorem timedRuns_eq {clock : Nat → Nanoseconds} {taken count : Nat} {size : Nat} {ascending : Bool}
    (numbers : base.Perm (orderedNumbers size ascending)) {last : List Int × RandomStream} {progress : Progress}
    {outcome : Drawn Measurement} (known : settings.metric.measure base last.1 swaps = .ok progress.sortedness)
    (ended : (timedRuns settings base swaps count last.2 progress).runFrom clock taken = some outcome) :
    ∃ last' value, reshuffled base swaps count last = some last' ∧
      settings.metric.measure base last'.1 swaps = .ok value ∧
      outcome = ⟨ofProgress settings.trimPercent ⟨value, (timings clock taken count).reverse ++ progress.times⟩,
        last'.2⟩ ∧
      (timedRuns settings base swaps count last.2 progress).after clock taken = taken + count := by
  induction count generalizing taken last progress with
  | zero =>
      cases ended
      exact ⟨last, progress.sortedness, rfl, known, rfl, rfl⟩
  | succ count ih =>
      cases once : shuffle base swaps last.2 with
      | none =>
          rw [timedRuns, once] at ended
          cases ended
      | some shuffled =>
          obtain ⟨value, measured, ran, after⟩ := timedRuns_succ clock taken count numbers progress once
          have known' : settings.metric.measure base shuffled.1 swaps =
              .ok (Progress.mk value (clock taken :: progress.times)).sortedness := measured
          rw [ran] at ended
          obtain ⟨last', value', more, measured', same, after'⟩ := ih known' ended
          refine ⟨last', value', ?_, measured', ?_, ?_⟩
          · rw [reshuffled, once, Option.bind_some, more]
          · rw [same, timings_succ, List.reverse_cons, List.append_assoc]
            rfl
          · rw [after, after']
            omega

/-- As far as there is room for its timings, a measurement that ends is its timed runs with the stream that the warm-up
has left. -/
theorem take_warmed {clock : Nat → Nanoseconds} {taken : Nat}
    (room : Room.fits Room.durationWidth settings.timed = true) {base : List Int} {swaps : Nat} {s : RandomStream}
    {outcome : Drawn Measurement} (ended : (take settings base swaps s).runFrom clock taken = some outcome) :
    ∃ warmed first, reshuffled base swaps settings.warmup (base, s) = some warmed ∧
      settings.metric.measure base base swaps = .ok first ∧
      (timedRuns settings base swaps settings.timed warmed.2 ⟨first, []⟩).runFrom clock taken = some outcome ∧
      (take settings base swaps s).after clock taken =
        (timedRuns settings base swaps settings.timed warmed.2 ⟨first, []⟩).after clock taken := by
  obtain ⟨warms, unmoved⟩ := warmUp_eq base swaps clock taken settings.warmup (base, s)
  obtain ⟨first, known⟩ := settings.metric.exists_measure (Eq.refl base.length) swaps
  unfold take at ended ⊢
  obtain ⟨s', ran, rest⟩ := Bench.exists_of_bind ended
  rw [Bench.after_bind ran]
  rw [unmoved, if_pos room, known] at rest
  rw [unmoved, if_pos room, known]
  rw [warms] at ran
  obtain ⟨warmed, isWarmed, rfl⟩ := Option.map_eq_some_iff.mp ran
  exact ⟨warmed, first, isWarmed, rfl, rest, rfl⟩

/-- A measurement of numbers in order, as far as there is room for its timings: where it ends, it is with what is
known from the last shuffle and from all timings. -/
theorem take_eq {clock : Nat → Nanoseconds} {taken : Nat} {size : Nat} {ascending : Bool}
    (numbers : base.Perm (orderedNumbers size ascending))
    (room : Room.fits Room.durationWidth settings.timed = true) {s : RandomStream} {outcome : Drawn Measurement}
    (ended : (take settings base swaps s).runFrom clock taken = some outcome) :
    ∃ last value, recorded settings.warmup settings.timed base swaps s = some last ∧
      settings.metric.measure base last.1 swaps = .ok value ∧
      outcome = ⟨ofProgress settings.trimPercent ⟨value, (timings clock taken settings.timed).reverse⟩, last.2⟩ ∧
      (take settings base swaps s).after clock taken = taken + settings.timed := by
  obtain ⟨warmed, first, isWarmed, known, rest, after⟩ := take_warmed room ended
  have known' : settings.metric.measure base (base, warmed.2).1 swaps = .ok (Progress.mk first []).sortedness := known
  obtain ⟨last, value, isLast, measured, same, after'⟩ := timedRuns_eq numbers known' rest
  rw [List.append_nil] at same
  refine ⟨last, value, ?_, measured, same, after.trans after'⟩
  unfold recorded
  rw [isWarmed, Option.bind_some, isLast]

end Measurement

/-! ## A whole benchmark -/

/-- What is drawn for one row: where each of the numbers that were sorted last had come from. -/
structure Draw where
  size : Nat
  swaps : Nat
  positions : List Nat

/-- The sortedness of a draw. -/
def Draw.measure (settings : Settings) (draw : Draw) : Except MetricError Float :=
  settings.metric.measure (orderedNumbers draw.size settings.ascending)
    (draw.positions.map (numberAt settings.ascending (numbersBelow draw.size))) draw.swaps

namespace BenchmarkPlan

/-- The draws for an array size, and the stream after them. -/
def drawSize (warmup timed size : Nat) : List Nat → RandomStream → Option (List Draw × RandomStream)
  | [], s => some ([], s)
  | swaps :: rest, s => do
    let (positions, s) ← recorded warmup timed (List.range (numbersBelow size)) swaps s
    let (others, s) ← drawSize warmup timed size rest s
    return (⟨size, swaps, positions⟩ :: others, s)

/-- The draws for some array sizes, and the stream after them. -/
def drawSizes (warmup timed : Nat) (swaps : List Nat) : List Nat → RandomStream → Option (List Draw × RandomStream)
  | [], s => some ([], s)
  | size :: rest, s => do
    let (draws, s) ← drawSize warmup timed size swaps s
    let (others, s) ← drawSizes warmup timed swaps rest s
    return (draws ++ others, s)

/-- The draws of a benchmark, and the stream after them, where all of them end.  Neither the clock nor the metric, the
order of the numbers or the trimming has a part in them. -/
def draws (plan : BenchmarkPlan) (s : RandomStream) : Option (List Draw × RandomStream) :=
  drawSizes plan.settings.warmup plan.settings.timed plan.grid.swaps.numbers plan.grid.sizes.numbers s

theorem drawSize_cons {warmup timed size swaps : Nat} {rest : List Nat} {s s' t : RandomStream}
    {positions : List Nat} {others : List Draw}
    (first : recorded warmup timed (List.range (numbersBelow size)) swaps s = some (positions, s'))
    (later : drawSize warmup timed size rest s' = some (others, t)) :
    drawSize warmup timed size (swaps :: rest) s = some (⟨size, swaps, positions⟩ :: others, t) := by
  simp [drawSize, first, later]

theorem drawSizes_cons {warmup timed size : Nat} {swaps rest : List Nat} {s s' t : RandomStream}
    {draws others : List Draw} (first : drawSize warmup timed size swaps s = some (draws, s'))
    (later : drawSizes warmup timed swaps rest s' = some (others, t)) :
    drawSizes warmup timed swaps (size :: rest) s = some (draws ++ others, t) := by
  simp [drawSizes, first, later]

/-- A row records a draw. -/
structure Records (settings : Settings) (draw : Draw) (row : Sample) : Prop where
  perm : draw.positions.Perm (List.range (numbersBelow draw.size))
  size : row.size = Binary64.ofNat draw.size
  sortedness : draw.measure settings = .ok row.sortedness

variable {settings : Settings} {clock : Nat → Nanoseconds} {taken : Nat} {s : RandomStream}

/-- A measurement that does not fail records its draw. -/
theorem records_of_take {size swaps : Nat} {outcome : Drawn Measurement} {measured : Measurement}
    (ended : (Measurement.take settings (orderedNumbers size settings.ascending) swaps s).runFrom clock taken =
      some outcome) (ok : outcome.result = .ok measured) :
    ∃ positions, recorded settings.warmup settings.timed (List.range (numbersBelow size)) swaps s =
        some (positions, outcome.stream) ∧
      Records settings ⟨size, swaps, positions⟩ ⟨Binary64.ofNat size, measured.sortedness, measured.time⟩ := by
  have room := (Measurement.take_ok ended ok).room
  obtain ⟨last, value, isLast, known, same, -⟩ := Measurement.take_eq
    (List.Perm.refl (orderedNumbers size settings.ascending)) room ended
  subst same
  obtain ⟨recorded, -⟩ := Measurement.ofProgress_ok ok
  have isRecorded : value = measured.sortedness := recorded
  rw [orderedNumbers_eq, recorded_map] at isLast
  obtain ⟨⟨positions, s'⟩, drawn, rfl⟩ := Option.map_eq_some_iff.mp isLast
  rw [isRecorded] at known
  exact ⟨positions, drawn, recorded_perm drawn, rfl, known⟩

theorem orderedNumbers?_eq_some {size : Nat} {ascending : Bool} {base : List Int}
    (given : orderedNumbers? size ascending = some base) : base = orderedNumbers size ascending := by
  unfold orderedNumbers? at given
  split at given
  · exact (Option.some.inj given).symm
  · cases given

theorem records_of_measureSize {size : Nat} {swaps : List Nat} {samples rows : List Sample}
    {outcome : Drawn (List Sample)}
    (ended : (measureSize settings size (orderedNumbers size settings.ascending) swaps s samples).runFrom clock
      taken = some outcome) (ok : outcome.result = .ok rows) :
    ∃ draws block, drawSize settings.warmup settings.timed size swaps s = some (draws, outcome.stream) ∧
      rows.reverse = samples.reverse ++ block ∧ List.Forall₂ (Records settings) draws block := by
  induction swaps generalizing taken s samples with
  | nil =>
      cases ended
      cases ok
      exact ⟨[], [], rfl, (List.append_nil _).symm, .nil⟩
  | cons first rest ih =>
      obtain ⟨drawn, found, later⟩ := Bench.exists_of_bind ended
      split at later
      · cases later
        cases ok
      · next measured isMeasured =>
          obtain ⟨positions, once, records⟩ := records_of_take found isMeasured
          obtain ⟨draws, block, more, added, each⟩ := ih later
          refine ⟨_, _, drawSize_cons once more, ?_, .cons records each⟩
          rw [added, List.reverse_cons, List.append_assoc, List.singleton_append]

theorem records_of_measureSizes {swaps : Progression} {sizes : List Nat} {rows : List Sample} {log : List LogLine}
    {outcome : BenchmarkRun} {samples : Samples}
    (ended : (measureSizes settings swaps sizes s rows log).runFrom clock taken = some outcome)
    (ok : outcome.result = .ok samples) :
    ∃ draws others, drawSizes settings.warmup settings.timed swaps.numbers sizes s = some (draws, outcome.stream) ∧
      samples = .ofRows (rows.reverse ++ others) ∧ List.Forall₂ (Records settings) draws others := by
  induction sizes generalizing taken s rows log with
  | nil =>
      cases ended
      cases ok
      exact ⟨[], [], rfl, by rw [List.append_nil], .nil⟩
  | cons size rest ih =>
      unfold measureSizes at ended
      split at ended
      · cases ended
        cases ok
      · next base given =>
          cases orderedNumbers?_eq_some given
          obtain ⟨drawn, found, later⟩ := Bench.exists_of_bind ended
          split at later
          · cases later
            cases ok
          · next longer isLonger =>
              obtain ⟨draws, block, once, added, each⟩ := records_of_measureSize found isLonger
              obtain ⟨draws', others, more, all, those⟩ := ih later
              refine ⟨_, block ++ others, drawSizes_cons once more, ?_, List.rel_append each those⟩
              rw [all, added, List.append_assoc]

/-- A benchmark that does not fail leaves the stream where its draws leave it, and its rows record them. -/
theorem records_of_run {plan : BenchmarkPlan} {outcome : BenchmarkRun} {samples : Samples}
    (ended : (plan.run s).run clock = some outcome) (ok : outcome.result = .ok samples) :
    ∃ draws rows, plan.draws s = some (draws, outcome.stream) ∧ samples = .ofRows rows ∧
      List.Forall₂ (Records plan.settings) draws rows := by
  unfold run Bench.run at ended
  split at ended
  · cases ended
    cases ok
  · split at ended
    · cases ended
      cases ok
    · split at ended
      · next sizes _ given room =>
          rw [Progression.values_eq given] at ended
          exact records_of_measureSizes ended ok
      · cases ended
        cases ok

end BenchmarkPlan

end QuicksortStudy
