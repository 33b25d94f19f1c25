import Mathlib
import QuicksortStudy.Proofs.Experiment.Draws
import QuicksortStudy.Proofs.Experiment.Finite
import QuicksortStudy.Proofs.Experiment.OrderStatistics

/-!
# How a benchmark ends

A plan that cannot work is refused before anything is drawn.  All others sort every shuffle, so they only fail
where memory ends, where the timings of a row are too long together, or at the first row when too much is to be
trimmed.  With room for all lists and with timings that can be summed, a plan that trims less than half of the
timings at each end succeeds, and its rows are its grid.  All this is about benchmarks that end, which is what they do
on every stream on which no draw goes on for ever.
-/

namespace QuicksortStudy

/-! ## Progressions -/

namespace Progression

/-- How many numbers a progression has; none if its step is zero. -/
def length (p : Progression) : Nat := (p.limit - p.first) ⌈/⌉ p.step

theorem count_eq {p : Progression} (step : p.step ≠ 0) : p.count = some p.length := by
  unfold count length
  rw [if_neg step, Nat.ceilDiv_eq_add_pred_div]

theorem length_numbers (p : Progression) : p.numbers.length = p.length := by
  unfold numbers
  rw [List.length_map, List.length_range]
  by_cases step : p.step = 0
  · unfold count length
    rw [if_pos step, step, ceilDiv_zero]
    rfl
  · rw [count_eq step, Option.getD_some]

/-- The index of a number tells the number, which is below the limit. -/
theorem number_of_getElem? {p : Progression} {index number : Nat} (found : p.numbers[index]? = some number) :
    number = p.first + index * p.step ∧ number < p.limit := by
  refine ⟨?_, lt_limit (List.mem_of_getElem? found)⟩
  unfold numbers at found
  rw [List.getElem?_map] at found
  obtain ⟨index', isIndex, isNumber⟩ := Option.map_eq_some_iff.mp found
  obtain ⟨inside, same⟩ := List.getElem?_eq_some_iff.mp isIndex
  rw [List.getElem_range] at same
  rw [← isNumber, same]

/-- A step beyond the largest word does not start again from zero. -/
example : (Progression.mk (UInt64.size - 6) (UInt64.size - 1) 4).numbers = [UInt64.size - 6, UInt64.size - 2] := by
  decide +kernel

theorem values_eq_some {p : Progression} (step : p.step ≠ 0)
    (room : Room.fits Room.numberWidth p.length = true) : p.values = some p.numbers := by
  unfold values
  rw [count_eq step, Option.bind_some, if_pos room]

end Progression

/-! ## One measurement -/

namespace Measurement

variable {settings : Settings} {base : List Int} {size : Nat} {ascending : Bool} {progress : Progress} {percent : Nat}

theorem ofProgress_tooMuch (much : 50 ≤ percent) :
    ofProgress percent progress = .error (.trim (.tooMuch percent)) := by
  unfold ofProgress
  rw [Trimmed.ofTimes_tooMuch _ much]

theorem ofProgress_error {error : BenchmarkError} (failed : ofProgress percent progress = .error error) :
    ∃ trim, error = .trim trim := by
  unfold ofProgress at failed
  cases mean : (Trimmed.ofTimes progress.times.reverse percent).mean with
  | error trim =>
      rw [mean] at failed
      exact ⟨trim, (Except.error.inj failed).symm⟩
  | ok time =>
      rw [mean] at failed
      cases failed

/-- Some timings that are a duration together give their trimmed mean. -/
theorem ofProgress_timings {clock : Nat → Nanoseconds} {taken count : Nat} (below : percent < 50)
    (some : count ≠ 0) (duration : Trimmed.total (timings clock taken count) < Trimmed.durationLimit) (value : Float) :
    ofProgress percent ⟨value, (timings clock taken count).reverse⟩ =
      .ok ⟨Trimmed.milliseconds (Trimmed.kept (timings clock taken count) percent), value⟩ := by
  have filled : timings clock taken count ≠ [] := by
    unfold timings
    rw [Ne, List.map_eq_nil_iff, List.range_eq_nil]
    exact some
  unfold ofProgress
  rw [List.reverse_reverse, Trimmed.mean_ofTimes below filled duration]

theorem result_of_no_room {clock : Nat → Nanoseconds} {taken swaps : Nat} {s : RandomStream}
    {outcome : Drawn Measurement} (full : ¬Room.fits Room.durationWidth settings.timed = true)
    (ended : (take settings base swaps s).runFrom clock taken = some outcome) : outcome.result = .error .noRoom := by
  obtain ⟨s', -, rest⟩ := Bench.exists_of_bind ended
  rw [if_neg full] at rest
  cases rest
  rfl

/-- Numbers in order are never found unsorted. -/
theorem error_of_take {clock : Nat → Nanoseconds} {taken swaps : Nat} {s : RandomStream}
    {outcome : Drawn Measurement} {error : BenchmarkError} (numbers : base.Perm (orderedNumbers size ascending))
    (ended : (take settings base swaps s).runFrom clock taken = some outcome)
    (failed : outcome.result = .error error) : error = .noRoom ∨ ∃ trim, error = .trim trim := by
  by_cases room : Room.fits Room.durationWidth settings.timed = true
  · obtain ⟨last, value, -, -, same, -⟩ := take_eq numbers room ended
    rw [same] at failed
    exact .inr (ofProgress_error failed)
  · rw [result_of_no_room room ended] at failed
    exact .inl (Except.error.inj failed).symm

end Measurement

/-! ## Coming to an end -/

/-- A computation on a stream comes to an end, wherever in the sequence of durations it starts, and leaves a later part
of the stream. -/
def Bench.Finishes {α : Type} (s : RandomStream) (stream : α → RandomStream) (clock : Nat → Nanoseconds)
    (bench : Bench α) : Prop :=
  ∀ taken, ∃ result words, bench.runFrom clock taken = some result ∧ stream result = s.skip words

namespace Bench.Finishes

variable {α β : Type} {s : RandomStream} {stream : α → RandomStream} {stream' : β → RandomStream}
  {clock : Nat → Nanoseconds}

theorem done {result : α} (left : stream result = s) : Finishes s stream clock (.done result) :=
  fun _ => ⟨result, 0, rfl, left⟩

theorem of_skip {bench : Bench α} {words : Nat} (finishes : Finishes (s.skip words) stream clock bench) :
    Finishes s stream clock bench := by
  intro taken
  obtain ⟨result, more, ended, left⟩ := finishes taken
  exact ⟨result, words + more, ended, left.trans (RandomStream.skip_skip s words more)⟩

theorem bind {bench : Bench α} {next : α → Bench β} (finishes : Finishes s stream clock bench)
    (later : ∀ result words, stream result = s.skip words → Finishes (s.skip words) stream' clock (next result)) :
    Finishes s stream' clock (bench.bind next) := by
  intro taken
  obtain ⟨result, words, ended, left⟩ := finishes taken
  rw [runFrom_bind, ended]
  exact (later result words left).of_skip _

end Bench.Finishes

namespace Measurement

variable {clock : Nat → Nanoseconds} {base : List Int} {s : RandomStream}

theorem finishes_warmUp (yields : s.Yields base.length) (swaps count : Nat) :
    Bench.Finishes s id clock (warmUp base swaps count s) := by
  induction count generalizing s with
  | zero => exact .done rfl
  | succ count ih =>
      obtain ⟨shuffled, words, once⟩ := yields.exists_shuffle swaps
      rw [warmUp, once]
      exact (ih (yields.skip words)).of_skip

theorem finishes_timedRuns (settings : Settings) (yields : s.Yields base.length) (swaps count : Nat)
    (progress : Progress) :
    Bench.Finishes s Drawn.stream clock (timedRuns settings base swaps count s progress) := by
  induction count generalizing s progress with
  | zero => exact .done rfl
  | succ count ih =>
      obtain ⟨shuffled, words, once⟩ := yields.exists_shuffle swaps
      rw [timedRuns, once]
      dsimp only
      apply Bench.Finishes.of_skip
      split
      · exact .done rfl
      · next value _ =>
          intro taken
          rw [Bench.runFrom]
          split
          · exact ih (yields.skip words) _ _
          · exact Bench.Finishes.done rfl _

theorem finishes_take (settings : Settings) (yields : s.Yields base.length) (swaps : Nat) :
    Bench.Finishes s Drawn.stream clock (take settings base swaps s) := by
  refine (finishes_warmUp yields swaps settings.warmup).bind fun warmed words left => ?_
  cases left
  split
  · split
    · exact .done rfl
    · exact finishes_timedRuns settings (yields.skip words) swaps settings.timed _
  · exact .done rfl

end Measurement

namespace BenchmarkPlan

variable {clock : Nat → Nanoseconds} {s : RandomStream}

theorem finishes_measureSize (settings : Settings) (size : Nat) {base : List Int} (yields : s.Yields base.length)
    (swaps : List Nat) (samples : List Sample) :
    Bench.Finishes s Drawn.stream clock (measureSize settings size base swaps s samples) := by
  induction swaps generalizing s samples with
  | nil => exact .done rfl
  | cons first rest ih =>
      refine (Measurement.finishes_take settings yields first).bind fun measured words left => ?_
      split
      · exact .done left
      · rw [left]
        exact ih (yields.skip words) _

theorem finishes_measureSizes (settings : Settings) (swaps : Progression) {sizes : List Nat}
    (yields : ∀ size ∈ sizes, s.Yields (numbersBelow size)) (rows : List Sample) (log : List LogLine) :
    Bench.Finishes s BenchmarkRun.stream clock (measureSizes settings swaps sizes s rows log) := by
  induction sizes generalizing s rows log with
  | nil => exact .done rfl
  | cons size rest ih =>
      obtain ⟨here, others⟩ := List.forall_mem_cons.mp yields
      unfold measureSizes
      split
      · exact .done rfl
      · next base given =>
          have yields : s.Yields base.length := by
            rw [orderedNumbers?_eq_some given, length_orderedNumbers]
            exact here
          refine (finishes_measureSize settings size yields swaps.numbers rows).bind fun measured words left => ?_
          split
          · exact .done left
          · rw [left]
            exact ih (fun other member => (others other member).skip words) _ _

/-- No draw from an array of a benchmark goes on for ever. -/
def DrawsEnd (plan : BenchmarkPlan) (s : RandomStream) : Prop :=
  ∀ size ∈ plan.grid.sizes.numbers, s.Yields (numbersBelow size)

/-- A benchmark comes to an end, with or without samples, if its draws do. -/
theorem finishes_run {plan : BenchmarkPlan} (draws : plan.DrawsEnd s) :
    Bench.Finishes s BenchmarkRun.stream clock (plan.run s) := by
  unfold run
  split
  · exact .done rfl
  · split
    · exact .done rfl
    · split
      · next sizes _ given _ =>
          rw [Progression.values_eq given]
          exact finishes_measureSizes plan.settings plan.grid.swaps draws [] []
      · exact .done rfl

variable {settings : Settings} {taken : Nat}

/-! ## Errors -/

theorem error_of_measureSize {size : Nat} {swaps : List Nat} {samples : List Sample}
    {outcome : Drawn (List Sample)} {error : BenchmarkError}
    (ended : (measureSize settings size (orderedNumbers size settings.ascending) swaps s samples).runFrom clock
      taken = some outcome) (failed : outcome.result = .error error) :
    error = .noRoom ∨ ∃ trim, error = .trim trim := by
  induction swaps generalizing taken s samples with
  | nil =>
      cases ended
      cases failed
  | cons first rest ih =>
      obtain ⟨drawn, found, later⟩ := Bench.exists_of_bind ended
      split at later
      · next isError =>
          cases later
          cases failed
          exact Measurement.error_of_take .rfl found isError
      · exact ih later

theorem error_of_measureSizes {swaps : Progression} {sizes : List Nat} {rows : List Sample} {log : List LogLine}
    {outcome : BenchmarkRun} {error : BenchmarkError}
    (ended : (measureSizes settings swaps sizes s rows log).runFrom clock taken = some outcome)
    (failed : outcome.result = .error error) : error = .noRoom ∨ ∃ trim, error = .trim trim := by
  induction sizes generalizing taken s rows log with
  | nil =>
      cases ended
      cases failed
  | cons size rest ih =>
      unfold measureSizes at ended
      split at ended
      · cases ended
        cases failed
        exact .inl rfl
      · next base given =>
          cases orderedNumbers?_eq_some given
          obtain ⟨drawn, found, later⟩ := Bench.exists_of_bind ended
          split at later
          · next isError =>
              cases later
              cases failed
              exact error_of_measureSize found isError
          · exact ih later

/-- All reasons for which a benchmark can fail. -/
theorem error_of_run {plan : BenchmarkPlan} {outcome : BenchmarkRun} {error : BenchmarkError}
    (ended : (plan.run s).run clock = some outcome) (failed : outcome.result = .error error) :
    error = .zeroStep ∨ error = .nothingTimed ∨ error = .noRoom ∨ ∃ trim, error = .trim trim := by
  unfold run Bench.run at ended
  split at ended
  · cases ended
    cases failed
    exact .inl rfl
  · split at ended
    · cases ended
      cases failed
      exact .inr (.inl rfl)
    · split at ended
      · exact .inr (.inr (error_of_measureSizes ended failed))
      · cases ended
        cases failed
        exact .inr (.inr (.inl rfl))

/-! ## Success -/

/-- With room for the timings, and as long as they are a duration for every row, the rows for an array size are
measured, unless too much is to be trimmed from them. -/
theorem ok_of_measureSize {size : Nat} {swaps : List Nat} {samples : List Sample} {outcome : Drawn (List Sample)}
    (able : swaps ≠ [] → Room.fits Room.durationWidth settings.timed = true ∧ settings.trimPercent < 50)
    (timed : settings.timed ≠ 0)
    (durations : ∀ row < swaps.length,
      Trimmed.total (timings clock (taken + row * settings.timed) settings.timed) < Trimmed.durationLimit)
    (ended : (measureSize settings size (orderedNumbers size settings.ascending) swaps s samples).runFrom clock
      taken = some outcome) :
    (∃ rows, outcome.result = .ok rows) ∧
      (measureSize settings size (orderedNumbers size settings.ascending) swaps s samples).after clock taken =
        taken + swaps.length * settings.timed := by
  induction swaps generalizing taken s samples with
  | nil =>
      cases ended
      exact ⟨⟨samples, rfl⟩, by rw [List.length_nil, Nat.zero_mul]; rfl⟩
  | cons first rest ih =>
      obtain ⟨room, below⟩ := able (List.cons_ne_nil first rest)
      have here := durations 0 (Nat.succ_pos rest.length)
      rw [Nat.zero_mul, Nat.add_zero] at here
      have later : ∀ row < rest.length, Trimmed.total
          (timings clock (taken + settings.timed + row * settings.timed) settings.timed) < Trimmed.durationLimit := by
        intro row inside
        have next := durations (row + 1) (Nat.succ_lt_succ inside)
        rwa [Nat.succ_mul, Nat.add_comm (row * settings.timed), ← Nat.add_assoc] at next
      obtain ⟨drawn, found, others⟩ := Bench.exists_of_bind ended
      obtain ⟨last, value, -, -, same, after⟩ := Measurement.take_eq
        (List.Perm.refl (orderedNumbers size settings.ascending)) room found
      rw [Measurement.ofProgress_timings below timed here] at same
      subst same
      rw [after] at others
      obtain ⟨done, ended'⟩ := ih (fun _ => ⟨room, below⟩) later others
      refine ⟨done, ?_⟩
      unfold measureSize
      rw [Bench.after_bind found, after]
      refine ended'.trans ?_
      rw [List.length_cons, Nat.succ_mul]
      omega

theorem ok_of_measureSizes {swaps : Progression} {sizes : List Nat} {rows : List Sample} {log : List LogLine}
    {outcome : BenchmarkRun}
    (able : sizes ≠ [] → swaps.numbers ≠ [] →
      Room.fits Room.durationWidth settings.timed = true ∧ settings.trimPercent < 50)
    (timed : settings.timed ≠ 0)
    (bases : ∀ size ∈ sizes, orderedNumbers? size settings.ascending = some (orderedNumbers size settings.ascending))
    (durations : ∀ row < sizes.length * swaps.numbers.length,
      Trimmed.total (timings clock (taken + row * settings.timed) settings.timed) < Trimmed.durationLimit)
    (ended : (measureSizes settings swaps sizes s rows log).runFrom clock taken = some outcome) :
    ∃ samples, outcome.result = .ok samples := by
  induction sizes generalizing taken s rows log with
  | nil =>
      cases ended
      exact ⟨_, rfl⟩
  | cons size rest ih =>
      have able' := able (List.cons_ne_nil size rest)
      rw [List.length_cons, Nat.succ_mul] at durations
      have here : ∀ row < swaps.numbers.length,
          Trimmed.total (timings clock (taken + row * settings.timed) settings.timed) < Trimmed.durationLimit :=
        fun row inside => durations row (by omega)
      have later : ∀ row < rest.length * swaps.numbers.length, Trimmed.total
          (timings clock (taken + swaps.numbers.length * settings.timed + row * settings.timed) settings.timed) <
            Trimmed.durationLimit := by
        intro row inside
        have next := durations (row + swaps.numbers.length) (by omega)
        rwa [Nat.add_mul, Nat.add_comm (row * settings.timed), ← Nat.add_assoc] at next
      unfold measureSizes at ended
      rw [bases size (List.mem_cons_self ..)] at ended
      obtain ⟨drawn, found, others⟩ := Bench.exists_of_bind ended
      obtain ⟨⟨longer, isLonger⟩, after⟩ := ok_of_measureSize able' timed here found
      rw [isLonger, after] at others
      exact ih (fun _ => able') (fun other member => bases other (List.mem_cons_of_mem size member)) later others

/-! ## Too much to trim -/

theorem measureSize_tooMuch {size first : Nat} {rest : List Nat} {samples : List Sample}
    {outcome : Drawn (List Sample)} (room : Room.fits Room.durationWidth settings.timed = true)
    (much : 50 ≤ settings.trimPercent)
    (ended : (measureSize settings size (orderedNumbers size settings.ascending) (first :: rest) s samples).runFrom
      clock taken = some outcome) : outcome.result = .error (.trim (.tooMuch settings.trimPercent)) := by
  obtain ⟨drawn, found, later⟩ := Bench.exists_of_bind ended
  obtain ⟨last, value, -, -, same, -⟩ := Measurement.take_eq
    (List.Perm.refl (orderedNumbers size settings.ascending)) room found
  rw [Measurement.ofProgress_tooMuch much] at same
  subst same
  cases later
  rfl

/-- The first pair is refused when its timings have been taken. -/
theorem measureSizes_tooMuch {swaps : Progression} {sizes : List Nat} {rows : List Sample} {log : List LogLine}
    {outcome : BenchmarkRun} (room : Room.fits Room.durationWidth settings.timed = true)
    (much : 50 ≤ settings.trimPercent) (filled : sizes ≠ []) (filled' : swaps.numbers ≠ [])
    (bases : ∀ size ∈ sizes, orderedNumbers? size settings.ascending = some (orderedNumbers size settings.ascending))
    (ended : (measureSizes settings swaps sizes s rows log).runFrom clock taken = some outcome) :
    outcome.result = .error (.trim (.tooMuch settings.trimPercent)) := by
  cases sizes with
  | nil => exact absurd rfl filled
  | cons size rest =>
      cases numbers : swaps.numbers with
      | nil => exact absurd numbers filled'
      | cons first others =>
          unfold measureSizes at ended
          rw [bases size (List.mem_cons_self ..), numbers] at ended
          obtain ⟨drawn, found, later⟩ := Bench.exists_of_bind ended
          rw [measureSize_tooMuch room much found] at later
          cases later
          rfl

/-! ## Whole benchmarks -/

variable {plan : BenchmarkPlan}

/-- How many pairs of an array size and a number of swaps there are. -/
def pairCount (plan : BenchmarkPlan) : Nat := plan.grid.sizes.length * plan.grid.swaps.length

/-- Neither range of a grid has a step of zero. -/
def Steps (plan : BenchmarkPlan) : Prop := plan.grid.sizes.step ≠ 0 ∧ plan.grid.swaps.step ≠ 0

instance : Decidable plan.Steps := inferInstanceAs (Decidable (_ ∧ _))

/-- There is room for all lists of a benchmark. -/
structure HasRoom (plan : BenchmarkPlan) : Prop where
  sizes : Room.fits Room.numberWidth plan.grid.sizes.length = true
  rows : Room.fits Room.numberWidth plan.pairCount = true
  numbers : ∀ size ∈ plan.grid.sizes.numbers, Room.fits Room.numberWidth (numbersBelow size) = true
  timings : plan.pairCount ≠ 0 → Room.fits Room.durationWidth plan.settings.timed = true

/-- The timings of every row are a duration together. -/
def DurationsFit (plan : BenchmarkPlan) (clock : Nat → Nanoseconds) : Prop :=
  ∀ row < plan.pairCount,
    Trimmed.total (timings clock (row * plan.settings.timed) plan.settings.timed) < Trimmed.durationLimit

theorem pairs_eq_none (stuck : ¬plan.Steps) : plan.pairs = none := by
  unfold pairs Progression.count
  unfold Steps at stuck
  by_cases sizes : plan.grid.sizes.step = 0
  · rw [if_pos sizes]
    rfl
  · have swaps : plan.grid.swaps.step = 0 := by
      by_contra swaps
      exact stuck ⟨sizes, swaps⟩
    rw [if_neg sizes, if_pos swaps]
    rfl

theorem pairs_eq (steps : plan.Steps) : plan.pairs = some (plan.pairCount % UInt64.size) := by
  unfold pairs
  rw [Progression.count_eq steps.1, Progression.count_eq steps.2]
  rfl

/-- With room for a row for each pair, the number of pairs is a word. -/
theorem HasRoom.pairs_eq (room : plan.HasRoom) (steps : plan.Steps) : plan.pairs = some plan.pairCount := by
  have rows := room.rows
  have small : plan.pairCount < UInt64.size := by
    unfold Room.fits Room.numberWidth at rows
    rw [decide_eq_true_eq, Nat.one_shiftLeft] at rows
    have word : UInt64.size = 2 ^ 64 := rfl
    omega
  rw [BenchmarkPlan.pairs_eq steps, Nat.mod_eq_of_lt small]

/-- A size that no signed word can be gives no numbers. -/
theorem orderedNumbers?_of_large {size : Nat} (large : 2 ^ 63 ≤ size) (ascending : Bool) :
    orderedNumbers? size ascending = some [] := by
  rw [← Nat.one_shiftLeft] at large
  unfold orderedNumbers? orderedNumbers
  rw [if_pos (.inr large), if_neg (Nat.not_lt.mpr large)]
  cases ascending <;> rfl

theorem HasRoom.orderedNumbers?_eq (room : plan.HasRoom) {size : Nat} (member : size ∈ plan.grid.sizes.numbers)
    (ascending : Bool) : orderedNumbers? size ascending = some (orderedNumbers size ascending) := by
  have fits := room.numbers size member
  unfold orderedNumbers?
  unfold numbersBelow at fits
  by_cases large : 1 <<< 63 ≤ size
  · exact if_pos (.inr large)
  · rw [if_pos (Nat.lt_of_not_le large)] at fits
    exact if_pos (.inl fits)

/-- A plan that is not refused measures its sizes one after another. -/
theorem HasRoom.run_eq (room : plan.HasRoom) (steps : plan.Steps) (timed : plan.settings.timed ≠ 0) :
    plan.run s = measureSizes plan.settings plan.grid.swaps plan.grid.sizes.numbers s [] [] := by
  unfold run Samples.withRoom
  rw [room.pairs_eq steps, Progression.values_eq_some steps.1 room.sizes]
  dsimp only
  rw [if_neg timed, if_pos room.rows]

/-- Timings that are all short enough are a duration together. -/
theorem durationsFit_of_le {longest : Nanoseconds} (each : ∀ taken, clock taken ≤ longest)
    (duration : plan.settings.timed * longest < Trimmed.durationLimit) : plan.DurationsFit clock := by
  intro row _
  have bound := List.sum_le_card_nsmul (timings clock (row * plan.settings.timed) plan.settings.timed) longest
  unfold timings at bound ⊢
  rw [List.length_map, List.length_range, smul_eq_mul] at bound
  refine Nat.lt_of_le_of_lt (bound fun time member => ?_) duration
  obtain ⟨i, -, rfl⟩ := List.mem_map.mp member
  exact each _

/-- A benchmark with a pair has an array size and a number of swaps. -/
theorem pairCount_ne_zero_iff :
    plan.pairCount ≠ 0 ↔ plan.grid.sizes.numbers ≠ [] ∧ plan.grid.swaps.numbers ≠ [] := by
  unfold pairCount
  rw [Ne, Nat.mul_eq_zero, not_or, ← Progression.length_numbers, ← Progression.length_numbers, List.length_eq_zero_iff,
    List.length_eq_zero_iff]

/-- A plan with steps that trims less than half of some timings at each end succeeds. -/
theorem HasRoom.ok_of_run (room : plan.HasRoom) (durations : plan.DurationsFit clock) (steps : plan.Steps)
    (timed : plan.settings.timed ≠ 0) (below : plan.pairCount ≠ 0 → plan.settings.trimPercent < 50)
    {outcome : BenchmarkRun} (ended : (plan.run s).run clock = some outcome) :
    ∃ samples, outcome.result = .ok samples := by
  rw [room.run_eq steps timed] at ended
  refine ok_of_measureSizes (fun sizes swaps => ?_) timed (fun size member => room.orderedNumbers?_eq member _) ?_ ended
  · have pair := pairCount_ne_zero_iff.mpr ⟨sizes, swaps⟩
    exact ⟨room.timings pair, below pair⟩
  · rw [Progression.length_numbers, Progression.length_numbers]
    intro row inside
    rw [Nat.zero_add]
    exact durations row inside

/-- The rows of a grid are its pairs, array size by array size and within a size with the fewest swaps first.  All
numbers are below the limits of their ranges, so a range that ends at the largest word does not start again. -/
structure FillsGrid (plan : BenchmarkPlan) (samples : Samples) : Prop where
  aligned : samples.Aligned
  length : samples.length = plan.grid.sizes.length * plan.grid.swaps.length
  pairs : plan.pairs = some samples.length
  row : ∀ position < samples.length, ∃ row, samples.rows[position]? = some row ∧
    row.size = Binary64.ofNat
      (plan.grid.sizes.first + position / plan.grid.swaps.length * plan.grid.sizes.step) ∧
    (plan.settings.metric = .swaps → row.sortedness = Binary64.ofNat
      (plan.grid.swaps.first + position % plan.grid.swaps.length * plan.grid.swaps.step)) ∧
    plan.grid.sizes.first + position / plan.grid.swaps.length * plan.grid.sizes.step < plan.grid.sizes.limit ∧
    plan.grid.swaps.first + position % plan.grid.swaps.length * plan.grid.swaps.step < plan.grid.swaps.limit

theorem HasRoom.fillsGrid (room : plan.HasRoom) (steps : plan.Steps) {outcome : BenchmarkRun} {samples : Samples}
    (ended : (plan.run s).run clock = some outcome) (ok : outcome.result = .ok samples) : plan.FillsGrid samples := by
  have layout := run_layout ended ok
  obtain ⟨blocks, rfl, -⟩ := run_blocks ended ok
  have length := layout.length
  rw [Samples.rows_ofRows, ← Samples.length_ofRows, Progression.length_numbers, Progression.length_numbers] at length
  refine ⟨layout.aligned, length, ?_, fun position inside => ?_⟩
  · rw [length]
    exact room.pairs_eq steps
  · rw [Samples.length_ofRows, ← Samples.rows_ofRows blocks.flatten] at inside
    have found := List.getElem?_eq_getElem inside
    obtain ⟨size, number, base, isSize, isNumber, -, known, ⟨shuffled, measured⟩, -, -⟩ := layout.row_at found
    rw [Progression.length_numbers] at isSize isNumber
    obtain ⟨rfl, size_lt⟩ := Progression.number_of_getElem? isSize
    obtain ⟨rfl, number_lt⟩ := Progression.number_of_getElem? isNumber
    refine ⟨_, found, known, fun bySwaps => ?_, size_lt, number_lt⟩
    rw [bySwaps] at measured
    exact (Except.ok.inj measured).symm

/-- How a benchmark ends: the first of these that holds decides.  The first two need no room, since nothing is
stored or drawn before them. -/
structure Ends (plan : BenchmarkPlan) (s : RandomStream) (clock : Nat → Nanoseconds) (outcome : BenchmarkRun) :
    Prop where
  zeroStep : ¬plan.Steps → outcome.result = .error .zeroStep ∧ outcome.stream = s
  nothingTimed : plan.Steps → plan.settings.timed = 0 → outcome.result = .error .nothingTimed ∧ outcome.stream = s
  tooMuch : plan.HasRoom → plan.Steps → plan.settings.timed ≠ 0 → 50 ≤ plan.settings.trimPercent →
    plan.pairCount ≠ 0 → outcome.result = .error (.trim (.tooMuch plan.settings.trimPercent))
  filled : plan.HasRoom → plan.DurationsFit clock → plan.Steps → plan.settings.timed ≠ 0 →
    (plan.pairCount ≠ 0 → plan.settings.trimPercent < 50) →
    ∃ samples, outcome.result = .ok samples ∧ plan.FillsGrid samples
  /-- No shuffle is ever found unsorted, not even one of an array that is too long to be numbered. -/
  sorted : ∀ size swaps, outcome.result ≠ .error (.unsorted size swaps)
  tooLong : ∀ size ∈ plan.grid.sizes.numbers, 2 ^ 63 ≤ size →
    orderedNumbers? size plan.settings.ascending = some []

theorem run_zeroStep (stuck : ¬plan.Steps) (s : RandomStream) : plan.run s = .done ⟨.error .zeroStep, s, []⟩ := by
  unfold run
  rw [pairs_eq_none stuck]

theorem run_nothingTimed (steps : plan.Steps) (untimed : plan.settings.timed = 0) (s : RandomStream) :
    plan.run s = .done ⟨.error .nothingTimed, s, []⟩ := by
  unfold run
  rw [pairs_eq steps]
  exact if_pos untimed

/-- A benchmark fails only for a bad plan, and its rows are its grid.  It always ends if nothing has to be drawn, and
otherwise if no draw goes on for ever. -/
theorem run_ends (plan : BenchmarkPlan) (s : RandomStream) (clock : Nat → Nanoseconds) :
    (¬plan.Steps ∨ plan.settings.timed = 0 ∨ plan.DrawsEnd s → ∃ outcome, (plan.run s).run clock = some outcome) ∧
      ∀ outcome, (plan.run s).run clock = some outcome → plan.Ends s clock outcome := by
  refine ⟨fun able => ?_, fun outcome ended => ?_⟩
  · by_cases steps : plan.Steps
    · rcases able with stuck | untimed | draws
      · exact absurd steps stuck
      · exact ⟨_, by rw [run_nothingTimed steps untimed]; rfl⟩
      · obtain ⟨outcome, -, ended, -⟩ := finishes_run draws 0
        exact ⟨outcome, ended⟩
    · exact ⟨_, by rw [run_zeroStep steps]; rfl⟩
  constructor
  case zeroStep =>
      intro stuck
      rw [run_zeroStep stuck] at ended
      cases ended
      exact ⟨rfl, rfl⟩
  case nothingTimed =>
      intro steps untimed
      rw [run_nothingTimed steps untimed] at ended
      cases ended
      exact ⟨rfl, rfl⟩
  case tooMuch =>
      intro room steps timed much pair
      obtain ⟨sizes, swaps⟩ := pairCount_ne_zero_iff.mp pair
      rw [room.run_eq steps timed] at ended
      exact measureSizes_tooMuch (room.timings pair) much sizes swaps
        (fun size member => room.orderedNumbers?_eq member _) ended
  case filled =>
      intro room durations steps timed below
      obtain ⟨samples, ok⟩ := room.ok_of_run durations steps timed below ended
      exact ⟨samples, ok, room.fillsGrid steps ended ok⟩
  case sorted =>
      intro size swaps failed
      rcases error_of_run ended failed with impossible | impossible | impossible | ⟨trim, impossible⟩ <;>
        cases impossible
  case tooLong =>
      intro size _ large
      exact orderedNumbers?_of_large large _

/-- Arrays of two and of five elements with three numbers of swaps each, where the steps lead beyond both ranges.  The
timings are trimmed to the middle one. -/
def trimmedPlan : BenchmarkPlan :=
  ⟨⟨⟨2, 7, 3⟩, ⟨0, 5, 2⟩, ⟨0, 1, 0, true, .swaps⟩⟩, ⟨1, 3, 49, true, .swaps⟩⟩

theorem hasRoom_trimmedPlan : trimmedPlan.HasRoom := by
  constructor <;> decide +kernel

/-- The first word is refused for two elements and for five, and zeros follow the last one. -/
def someWords : RandomStream :=
  .ofWords [0xf000000000000000, 0x8000000000000000, 0x2000000000000000, 0xc000000000000000]

theorem run_ends_trimmedPlan : trimmedPlan.DrawsEnd someWords ∧ trimmedPlan.HasRoom ∧
    trimmedPlan.DurationsFit (fun _ => 1000) ∧ trimmedPlan.Steps ∧ trimmedPlan.settings.timed ≠ 0 ∧
    trimmedPlan.settings.trimPercent < 50 ∧
    trimmedPlan.grid.sizes.numbers = [2, 5] ∧ trimmedPlan.grid.swaps.numbers = [0, 2, 4] ∧
    ∃ outcome samples, (trimmedPlan.run someWords).run (fun _ => 1000) = some outcome ∧
      outcome.result = .ok samples ∧ trimmedPlan.FillsGrid samples := by
  have draws : trimmedPlan.DrawsEnd someWords := fun _ _ => RandomStream.yields_ofWords _ _
  have steps : trimmedPlan.Steps := by decide
  have timed : trimmedPlan.settings.timed ≠ 0 := by decide
  have below : trimmedPlan.settings.trimPercent < 50 := by decide
  have durations : trimmedPlan.DurationsFit fun _ => 1000 :=
    durationsFit_of_le (fun _ => Nat.le_refl 1000) (by decide)
  obtain ⟨ends, each⟩ := run_ends trimmedPlan someWords fun _ => 1000
  obtain ⟨outcome, ended⟩ := ends (.inr (.inr draws))
  obtain ⟨samples, ok, filled⟩ := (each outcome ended).filled hasRoom_trimmedPlan durations steps timed fun _ => below
  exact ⟨draws, hasRoom_trimmedPlan, durations, steps, timed, below, by decide +kernel, by decide +kernel, outcome,
    samples, ended, ok, filled⟩

end BenchmarkPlan

end QuicksortStudy
