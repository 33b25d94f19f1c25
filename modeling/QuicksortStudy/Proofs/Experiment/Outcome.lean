import Mathlib
import QuicksortStudy.Experiment.Benchmark

/-!
# What a benchmark gives

A benchmark that ends and does not fail gives a block of rows for every array size, and a row for every swap count in
it, in the order of the grid.  What is known about each row does not depend on the random stream or on the
durations: they only decide which shuffles were sorted and which times were taken.
-/

namespace QuicksortStudy

namespace Bench

variable {α β : Type}

/-- The position in the sequence of durations after a computation. -/
def after (clock : Nat → Nanoseconds) : Nat → Bench α → Nat
  | taken, done _ => taken
  | taken, endless => taken
  | taken, warmUp _ next => after clock taken (next ())
  | taken, timed input next => after clock (taken + 1) (next (quicksort input) (clock taken))

/-- A computation that follows another one starts where that one has ended. -/
theorem runFrom_bind (clock : Nat → Nanoseconds) (taken : Nat) (bench : Bench α) (next : α → Bench β) :
    (bench.bind next).runFrom clock taken = (bench.runFrom clock taken).bind fun result =>
      (next result).runFrom clock (bench.after clock taken) := by
  induction bench generalizing taken with
  | done result => rfl
  | endless => rfl
  | warmUp input rest ih => exact ih () taken
  | timed input rest ih => exact ih (quicksort input) (clock taken) (taken + 1)

theorem after_bind {clock : Nat → Nanoseconds} {taken : Nat} {bench : Bench α} {result : α}
    (ended : bench.runFrom clock taken = some result) (next : α → Bench β) :
    (bench.bind next).after clock taken = (next result).after clock (bench.after clock taken) := by
  induction bench generalizing taken with
  | done result =>
      cases ended
      rfl
  | endless => cases ended
  | warmUp input rest ih => exact ih () ended
  | timed input rest ih => exact ih (quicksort input) (clock taken) ended

/-- A computation that ends after another one has a result of that one to go on with. -/
theorem exists_of_bind {clock : Nat → Nanoseconds} {taken : Nat} {bench : Bench α} {next : α → Bench β} {result : β}
    (ended : (bench.bind next).runFrom clock taken = some result) :
    ∃ first, bench.runFrom clock taken = some first ∧
      (next first).runFrom clock (bench.after clock taken) = some result := by
  rw [runFrom_bind] at ended
  exact Option.bind_eq_some_iff.mp ended

end Bench

/-! ## One measurement -/

namespace Measurement

variable {settings : Settings} {base : List Int} {swaps : Nat}

/-- What is known about a measurement: its sortedness is that of a list that was shuffled by the swaps, and its
time is the trimmed mean of as many timings as the settings ask for. -/
structure Taken (settings : Settings) (base : List Int) (swaps : Nat) (measured : Measurement) : Prop where
  sortedness : ∃ shuffled, settings.metric.measure base shuffled swaps = .ok measured.sortedness
  time : ∃ times : List Nanoseconds, times.length = settings.timed ∧
    (Trimmed.ofTimes times settings.trimPercent).mean = .ok measured.time
  room : Room.fits Room.durationWidth settings.timed = true

theorem ofProgress_ok {percent : Nat} {progress : Progress} {measured : Measurement}
    (ok : ofProgress percent progress = .ok measured) : progress.sortedness = measured.sortedness ∧
      (Trimmed.ofTimes progress.times.reverse percent).mean = .ok measured.time := by
  unfold ofProgress at ok
  cases mean : (Trimmed.ofTimes progress.times.reverse percent).mean with
  | error error =>
      rw [mean] at ok
      cases ok
  | ok time =>
      rw [mean] at ok
      cases ok
      exact ⟨rfl, rfl⟩

/-- Each run records the sortedness of its own shuffle and adds one timing. -/
theorem timedRuns_ok {clock : Nat → Nanoseconds} {taken count : Nat} {s : RandomStream} {progress : Progress}
    {outcome : Drawn Measurement} {measured : Measurement}
    (known : ∃ shuffled, settings.metric.measure base shuffled swaps = .ok progress.sortedness)
    (ended : (timedRuns settings base swaps count s progress).runFrom clock taken = some outcome)
    (ok : outcome.result = .ok measured) :
    (∃ shuffled, settings.metric.measure base shuffled swaps = .ok measured.sortedness) ∧
      ∃ times : List Nanoseconds, times.length = progress.times.length + count ∧
        (Trimmed.ofTimes times settings.trimPercent).mean = .ok measured.time := by
  induction count generalizing taken s progress with
  | zero =>
      cases ended
      obtain ⟨same, mean⟩ := ofProgress_ok ok
      rw [← same]
      exact ⟨known, _, List.length_reverse, mean⟩
  | succ count ih =>
      unfold timedRuns at ended
      split at ended
      · cases ended
      · next shuffled s' _ =>
          split at ended
          · cases ended
            cases ok
          · next value measures =>
              rw [Bench.runFrom] at ended
              split at ended
              · obtain ⟨sortedness, times, length, mean⟩ := ih ⟨_, measures⟩ ended
                refine ⟨sortedness, times, ?_, mean⟩
                rw [length, List.length_cons]
                omega
              · cases ended
                cases ok

theorem take_ok {clock : Nat → Nanoseconds} {taken : Nat} {s : RandomStream} {outcome : Drawn Measurement}
    {measured : Measurement} (ended : (take settings base swaps s).runFrom clock taken = some outcome)
    (ok : outcome.result = .ok measured) : Taken settings base swaps measured := by
  unfold take at ended
  obtain ⟨s', -, rest⟩ := Bench.exists_of_bind ended
  split at rest
  · next room =>
      split at rest
      · cases rest
        cases ok
      · next value known =>
          obtain ⟨sortedness, times, length, mean⟩ := timedRuns_ok ⟨_, known⟩ rest ok
          rw [List.length_nil, Nat.zero_add] at length
          exact ⟨sortedness, ⟨times, length, mean⟩, room⟩
  · cases rest
    cases ok

end Measurement

/-! ## Blocks of rows -/

namespace Progression

theorem values_eq {p : Progression} {numbers : List Nat} (given : p.values = some numbers) :
    numbers = p.numbers := by
  unfold values at given
  obtain ⟨count, -, kept⟩ := Option.bind_eq_some_iff.mp given
  split at kept
  · cases kept
    rfl
  · cases kept

end Progression

namespace BenchmarkPlan

variable {settings : Settings} {clock : Nat → Nanoseconds} {taken : Nat} {s : RandomStream}

/-- What is known about the row for an array size and a number of swaps. -/
def RowOf (settings : Settings) (size : Nat) (base : List Int) (swaps : Nat) (row : Sample) : Prop :=
  row.size = Binary64.ofNat size ∧ Measurement.Taken settings base swaps ⟨row.time, row.sortedness⟩

/-- What is known about the rows for an array size: there is one for each number of swaps. -/
def BlockOf (settings : Settings) (swaps : Progression) (size : Nat) (block : List Sample) : Prop :=
  ∃ base, orderedNumbers? size settings.ascending = some base ∧
    List.Forall₂ (RowOf settings size base) swaps.numbers block

theorem measureSize_ok {size : Nat} {base : List Int} {swaps : List Nat} {samples rows : List Sample}
    {outcome : Drawn (List Sample)}
    (ended : (measureSize settings size base swaps s samples).runFrom clock taken = some outcome)
    (ok : outcome.result = .ok rows) :
    ∃ block, rows.reverse = samples.reverse ++ block ∧ List.Forall₂ (RowOf settings size base) swaps block := by
  induction swaps generalizing taken s samples with
  | nil =>
      cases ended
      cases ok
      exact ⟨[], (List.append_nil _).symm, .nil⟩
  | cons first rest ih =>
      obtain ⟨drawn, found, later⟩ := Bench.exists_of_bind ended
      split at later
      · cases later
        cases ok
      · next measured isMeasured =>
          obtain ⟨block, added, each⟩ := ih later
          rw [List.reverse_cons, List.append_assoc] at added
          exact ⟨_, added, .cons ⟨rfl, Measurement.take_ok found isMeasured⟩ each⟩

theorem measureSizes_ok {swaps : Progression} {sizes : List Nat} {rows : List Sample} {log : List LogLine}
    {outcome : BenchmarkRun} {samples : Samples}
    (ended : (measureSizes settings swaps sizes s rows log).runFrom clock taken = some outcome)
    (ok : outcome.result = .ok samples) :
    ∃ blocks, samples = .ofRows (rows.reverse ++ blocks.flatten) ∧
      List.Forall₂ (BlockOf settings swaps) sizes blocks := by
  induction sizes generalizing taken s rows log with
  | nil =>
      cases ended
      cases ok
      exact ⟨[], by rw [List.flatten_nil, List.append_nil], .nil⟩
  | cons size rest ih =>
      unfold measureSizes at ended
      split at ended
      · cases ended
        cases ok
      · next base given =>
          obtain ⟨drawn, found, later⟩ := Bench.exists_of_bind ended
          split at later
          · cases later
            cases ok
          · next longer isLonger =>
              obtain ⟨block, added, each⟩ := measureSize_ok found isLonger
              obtain ⟨blocks, all, others⟩ := ih later
              refine ⟨block :: blocks, ?_, .cons ⟨base, given, each⟩ others⟩
              rw [all, added, List.flatten_cons, List.append_assoc]

theorem run_blocks {plan : BenchmarkPlan} {outcome : BenchmarkRun} {samples : Samples}
    (ended : (plan.run s).run clock = some outcome) (ok : outcome.result = .ok samples) :
    ∃ blocks, samples = .ofRows blocks.flatten ∧
      List.Forall₂ (BlockOf plan.settings plan.grid.swaps) plan.grid.sizes.numbers blocks := by
  unfold run Bench.run at ended
  split at ended
  · cases ended
    cases ok
  · split at ended
    · cases ended
      cases ok
    · split at ended
      · next sizes _ given _ =>
          rw [Progression.values_eq given] at ended
          exact measureSizes_ok ended ok
      · cases ended
        cases ok

/-! ## Rows by position -/

theorem length_blocks {swaps : Progression} {sizes : List Nat} {blocks : List (List Sample)}
    (each : List.Forall₂ (BlockOf settings swaps) sizes blocks) :
    blocks.flatten.length = sizes.length * swaps.numbers.length := by
  induction each with
  | nil => exact (Nat.zero_mul _).symm
  | cons known others ih =>
      obtain ⟨base, -, rows⟩ := known
      rw [List.flatten_cons, List.length_append, List.length_cons, ih, ← rows.length_eq, Nat.succ_mul, Nat.add_comm]

theorem getElem?_blocks {swaps : Progression} {sizes : List Nat} {blocks : List (List Sample)}
    (each : List.Forall₂ (BlockOf settings swaps) sizes blocks) {block index size number : Nat}
    (isSize : sizes[block]? = some size) (isNumber : swaps.numbers[index]? = some number) :
    ∃ base row, blocks.flatten[block * swaps.numbers.length + index]? = some row ∧
      orderedNumbers? size settings.ascending = some base ∧ RowOf settings size base number row := by
  induction each generalizing block with
  | nil => cases isSize
  | cons known others ih =>
      obtain ⟨base, given, rows⟩ := known
      have length := rows.length_eq
      cases block with
      | zero =>
          cases isSize
          obtain ⟨inside, rfl⟩ := List.getElem?_eq_some_iff.mp isNumber
          have inside' := length ▸ inside
          refine ⟨base, _, ?_, given, rows.get inside inside'⟩
          rw [List.flatten_cons, Nat.zero_mul, Nat.zero_add, List.getElem?_append_left inside']
          exact List.getElem?_eq_getElem inside'
      | succ block =>
          obtain ⟨base, row, found, known⟩ := ih isSize
          refine ⟨base, row, ?_, known⟩
          rw [List.flatten_cons, List.getElem?_append_right (by rw [Nat.succ_mul]; omega), ← length, ← found]
          congr 1
          rw [Nat.succ_mul]
          omega

/-- The samples of a grid: there is a row for each pair of an array size and a number of swaps, and its position
tells the pair. -/
structure Layout (plan : BenchmarkPlan) (samples : Samples) : Prop where
  aligned : samples.Aligned
  length : samples.rows.length = plan.grid.sizes.numbers.length * plan.grid.swaps.numbers.length
  row : ∀ {block index size number : Nat}, plan.grid.sizes.numbers[block]? = some size →
    plan.grid.swaps.numbers[index]? = some number →
    ∃ base row, samples.rows[block * plan.grid.swaps.numbers.length + index]? = some row ∧
      orderedNumbers? size plan.settings.ascending = some base ∧ RowOf plan.settings size base number row

/-- A benchmark that does not fail fills its grid, whatever the random stream and the durations are. -/
theorem run_layout {plan : BenchmarkPlan} {outcome : BenchmarkRun} {samples : Samples}
    (ended : (plan.run s).run clock = some outcome) (ok : outcome.result = .ok samples) : Layout plan samples := by
  obtain ⟨blocks, rfl, each⟩ := run_blocks ended ok
  refine ⟨Samples.aligned_ofRows _, ?_, ?_⟩
  · rw [Samples.rows_ofRows]
    exact length_blocks each
  · intro block index size number isSize isNumber
    rw [Samples.rows_ofRows]
    exact getElem?_blocks each isSize isNumber

/-- Every position belongs to a pair. -/
theorem Layout.row_at {plan : BenchmarkPlan} {samples : Samples} (layout : Layout plan samples) {position : Nat}
    {row : Sample} (found : samples.rows[position]? = some row) :
    ∃ size number base, plan.grid.sizes.numbers[position / plan.grid.swaps.numbers.length]? = some size ∧
      plan.grid.swaps.numbers[position % plan.grid.swaps.numbers.length]? = some number ∧
      orderedNumbers? size plan.settings.ascending = some base ∧ RowOf plan.settings size base number row := by
  have inside := (List.getElem?_eq_some_iff.mp found).1
  rw [layout.length] at inside
  have positive : 0 < plan.grid.swaps.numbers.length :=
    Nat.pos_of_ne_zero fun zero => Nat.not_lt_zero _ (by rwa [zero, Nat.mul_zero] at inside)
  have isSize := List.getElem?_eq_getElem ((Nat.div_lt_iff_lt_mul positive).mpr inside)
  have isNumber := List.getElem?_eq_getElem (Nat.mod_lt position positive)
  obtain ⟨base, row', found', given, known⟩ := layout.row isSize isNumber
  rw [Nat.mul_comm, Nat.div_add_mod, found] at found'
  cases found'
  exact ⟨_, _, base, isSize, isNumber, given, known⟩

end BenchmarkPlan

end QuicksortStudy
