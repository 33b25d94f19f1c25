import Mathlib
import QuicksortStudy.Proofs.Chart.Curves
import QuicksortStudy.Proofs.Experiment.Finite
import QuicksortStudy.Proofs.Results.RoundTrip
import QuicksortStudy.Proofs.Sorting.Shuffle

/-!
# From the benchmark to the charts

The benchmark, the results file, the curves and the surface agree on the layout of the rows by position alone.
What is recorded can be written and loaded again, and cut into blocks of as many rows as there are swap
counts: one block for each array size, with the fewest swaps first.
-/

namespace QuicksortStudy

namespace BenchmarkPlan

variable {plan : BenchmarkPlan} {samples : Samples}

/-! ## Curves -/

/-- The rows at one index of all blocks are the rows for one number of swaps, a row for each array size. -/
theorem Layout.column (layout : Layout plan samples) {curve : List Sample} {index number : Nat}
    (isNumber : plan.grid.swaps.numbers[index]? = some number)
    (picked : ∀ block, curve[block]? = samples.rows[block * plan.grid.swaps.numbers.length + index]?) :
    List.Forall₂ (fun size row => ∃ base, RowOf plan.settings size base number row) plan.grid.sizes.numbers curve := by
  have length : plan.grid.sizes.numbers.length = curve.length := by
    apply Nat.le_antisymm
    · by_contra more
      have present := List.getElem?_eq_getElem (Nat.lt_of_not_le more)
      obtain ⟨base, row, found, -⟩ := layout.row present isNumber
      rw [← picked, List.getElem?_eq_none (Nat.le_refl _)] at found
      cases found
    · by_contra less
      have present := List.getElem?_eq_getElem (Nat.lt_of_not_le less)
      rw [picked] at present
      have inside := (List.getElem?_eq_some_iff.mp present).1
      rw [layout.length] at inside
      omega
  rw [List.forall₂_iff_get]
  refine ⟨length, fun block inside inside' => ?_⟩
  obtain ⟨base, row, found, -, known⟩ := layout.row (List.getElem?_eq_getElem inside) isNumber
  rw [← picked, List.getElem?_eq_getElem inside'] at found
  cases found
  exact ⟨base, known⟩

theorem sizes_of_column {number : Nat} {sizes : List Nat} {curve : List Sample}
    (column : List.Forall₂ (fun size row => ∃ base, RowOf plan.settings size base number row) sizes curve) :
    curve.map Sample.size = sizes.map Binary64.ofNat := by
  induction column with
  | nil => rfl
  | cons known others ih =>
      obtain ⟨base, isSize, -⟩ := known
      rw [List.map_cons, List.map_cons, isSize, ih]

theorem sortedness_of_column {number : Nat} {sizes : List Nat} {curve : List Sample}
    (bySwaps : plan.settings.metric = .swaps)
    (column : List.Forall₂ (fun size row => ∃ base, RowOf plan.settings size base number row) sizes curve) :
    curve.map Sample.sortedness = List.replicate sizes.length (Binary64.ofNat number) := by
  induction column with
  | nil => rfl
  | cons known others ih =>
      obtain ⟨base, -, ⟨shuffled, measured⟩, -, -⟩ := known
      rw [bySwaps] at measured
      have recorded := Except.ok.inj measured
      rw [List.map_cons, List.length_cons, List.replicate_succ, ih, recorded]

/-- The curves of a benchmark have a row for each array size, in order.  Where sortedness is the number of swaps,
one curve has the first of these numbers throughout and the other one the last. -/
structure CurvesOf (plan : BenchmarkPlan) (curves : Envelopes) : Prop where
  worst_rows : curves.worst.rows.length = plan.grid.sizes.numbers.length
  best_rows : curves.best.rows.length = plan.grid.sizes.numbers.length
  worst_sizes : curves.worst.sizes = plan.grid.sizes.numbers.map Binary64.ofNat
  best_sizes : curves.best.sizes = plan.grid.sizes.numbers.map Binary64.ofNat
  worst_sortedness : plan.settings.metric = .swaps → ∀ first, plan.grid.swaps.numbers.head? = some first →
    curves.worst.sortedness = List.replicate plan.grid.sizes.numbers.length (Binary64.ofNat first)
  best_sortedness : plan.settings.metric = .swaps → ∀ last, plan.grid.swaps.numbers.getLast? = some last →
    curves.best.sortedness = List.replicate plan.grid.sizes.numbers.length (Binary64.ofNat last)

theorem Layout.curves (layout : Layout plan samples) (positive : 0 < plan.grid.swaps.numbers.length) :
    ∃ curves, samples.envelopes plan.grid.swaps.numbers.length = .ok curves ∧ CurvesOf plan curves := by
  have final : plan.grid.swaps.numbers.length - 1 < plan.grid.swaps.numbers.length :=
    Nat.sub_lt positive Nat.one_pos
  have worst := layout.column (List.getElem?_eq_getElem positive) (Blocks.getElem?_firsts positive samples.rows)
  have best := layout.column (List.getElem?_eq_getElem final) (Blocks.getElem?_lasts positive samples.rows)
  refine ⟨_, if_neg (Nat.pos_iff_ne_zero.mp positive), ?_, ?_, sizes_of_column worst, sizes_of_column best, ?_, ?_⟩
  · rw [Samples.rows_ofRows]
    exact worst.length_eq.symm
  · rw [Samples.rows_ofRows]
    exact best.length_eq.symm
  · intro bySwaps first isFirst
    rw [List.head?_eq_getElem?, List.getElem?_eq_getElem positive] at isFirst
    rw [Option.some.inj isFirst] at worst
    exact sortedness_of_column bySwaps worst
  · intro bySwaps last isLast
    rw [List.getLast?_eq_getElem?, List.getElem?_eq_getElem final] at isLast
    rw [Option.some.inj isLast] at best
    exact sortedness_of_column bySwaps best

/-! ## Triangles -/

/-- A triangle joins the rows of two neighbouring array sizes and no others. -/
structure JoinsSizes (plan : BenchmarkPlan) (samples : Samples) (t : Triangle Nat)
    (block near far : Nat) : Prop where
  near_size : plan.grid.sizes.numbers[block]? = some near
  far_size : plan.grid.sizes.numbers[block + 1]? = some far
  joins : Mesh.Joins plan.grid.swaps.numbers.length t block
  rows : ∀ corner ∈ t.corners, ∃ row, samples.rows[corner]? = some row ∧
    (corner / plan.grid.swaps.numbers.length = block → row.size = Binary64.ofNat near) ∧
    (corner / plan.grid.swaps.numbers.length = block + 1 → row.size = Binary64.ofNat far)

theorem Layout.length_surface (layout : Layout plan samples) (positive : 0 < plan.grid.swaps.numbers.length) :
    (Mesh.positions plan.grid.swaps.numbers.length samples.rows.length).length =
      2 * (plan.grid.sizes.numbers.length - 1) * (plan.grid.swaps.numbers.length - 1) := by
  rw [Mesh.length_positions positive, layout.length, Nat.mul_div_cancel _ positive, Nat.mul_mod_left]
  split <;> rfl

theorem Layout.joinsSizes (layout : Layout plan samples) (positive : 0 < plan.grid.swaps.numbers.length)
    {t : Triangle Nat} (member : t ∈ Mesh.positions plan.grid.swaps.numbers.length samples.rows.length) :
    ∃ block near far, JoinsSizes plan samples t block near far := by
  obtain ⟨block, present, joins⟩ := Mesh.joins_of_mem positive member
  rw [Blocks.lt_count_iff positive, layout.length] at present
  have far := Nat.lt_of_mul_lt_mul_right present
  have near := Nat.lt_of_succ_lt far
  refine ⟨block, _, _, List.getElem?_eq_getElem near, List.getElem?_eq_getElem far, joins, fun corner inside => ?_⟩
  have above : corner < samples.rows.length := by
    rw [layout.length, ← Nat.div_lt_iff_lt_mul positive]
    rcases joins.between corner inside with here | there
    · rwa [here]
    · rwa [there]
  have found := List.getElem?_eq_getElem above
  obtain ⟨size, number, base, isSize, -, -, known, -⟩ := layout.row_at found
  refine ⟨_, found, fun here => ?_, fun there => ?_⟩
  · rw [here, List.getElem?_eq_getElem near] at isSize
    rw [known, Option.some.inj isSize]
  · rw [there, List.getElem?_eq_getElem far] at isSize
    rw [known, Option.some.inj isSize]

/-! ## What the charts rely on -/

/-- Samples that come back from their results file and are laid out as the charts read them.  Corners of triangles
are named by the positions of their rows. -/
structure Plottable (plan : BenchmarkPlan) (samples : Samples) : Prop where
  /-- Every pattern that matches nothing but the file that was written loads the samples. -/
  loaded : ∀ schedule path folder written pattern parsed place, samples.write path folder = .ok written →
    PathPattern.parse pattern = .ok parsed → written.walk parsed = [.ok place] →
    written.locate place.path = written.locate path → (Samples.load schedule written pattern).result = .ok samples
  /-- The path of the file is such a pattern, if it has no metacharacters and the walk along it can be taken. -/
  loaded_path : ∀ schedule path folder written, Unmarked path.toList →
    Folder.emptyAfterHere (Split.text '/' path) = false →
    samples.write path folder = .ok written → (Samples.load schedule written path).result = .ok samples
  curves : ∃ curves, samples.envelopes plan.grid.swaps.numbers.length = .ok curves ∧ CurvesOf plan curves
  /-- There are two triangles for two neighbouring numbers of swaps at two neighbouring array sizes. -/
  surface : ∃ surface, samples.surface plan.grid.swaps.numbers.length = .ok surface ∧
    surface.length = 2 * (plan.grid.sizes.numbers.length - 1) * (plan.grid.swaps.numbers.length - 1) ∧
    surface.map (Triangle.map some) = (Mesh.positions plan.grid.swaps.numbers.length samples.rows.length).map
      (Triangle.map fun position => samples.rows[position]?.map Sample.point) ∧
    ∀ t ∈ Mesh.positions plan.grid.swaps.numbers.length samples.rows.length,
      ∃ block near far, JoinsSizes plan samples t block near far

/-- A benchmark that does not fail gives samples that the charts can rely on, whatever the random stream and the
durations are. -/
theorem run_plottable {stream : RandomStream} {clock : Nat → Nanoseconds} {outcome : BenchmarkRun}
    (rank : plan.settings.metric ≠ .kendall)
    (word : plan.grid.sizes.limit < UInt64.size) (word' : plan.grid.swaps.limit < UInt64.size)
    (swaps : plan.grid.swaps.numbers ≠ []) (ended : (plan.run stream).run clock = some outcome)
    (ok : outcome.result = .ok samples) : Plottable plan samples := by
  have layout := run_layout ended ok
  have finite := layout.finite rank word word'
  have positive : 0 < plan.grid.swaps.numbers.length := List.length_pos_iff.mpr swaps
  constructor
  · intro schedule path folder written pattern parsed place wrote isParsed only leads
    exact Samples.load_only layout.aligned finite wrote isParsed only leads
  · intro schedule path folder written unmarked free wrote
    exact Samples.load_of_finite layout.aligned finite unmarked wrote free
  · exact layout.curves positive
  · obtain ⟨surface, built, named⟩ := samples.surface_eq_positions positive
    have length := congrArg List.length named
    rw [List.length_map, List.length_map, layout.length_surface positive] at length
    exact ⟨surface, built, length, named, fun t member => layout.joinsSizes positive member⟩

/-! ## A small benchmark -/

/-- Two array sizes and two numbers of swaps, both from ranges that their step does not divide. -/
def unevenPlan : BenchmarkPlan := ⟨⟨⟨1, 4, 2⟩, ⟨0, 3, 2⟩, ⟨0, 1, 0, true, .swaps⟩⟩, ⟨1, 1, 0, true, .swaps⟩⟩

/-- Zeros shuffle nothing, and each sort takes a microsecond longer than the one before it. -/
theorem run_unevenPlan : ∃ outcome samples,
    (unevenPlan.run (.zeros 0)).run (fun taken => 1000 * (taken + 1)) = some outcome ∧
      outcome.result = .ok samples := by
  have one : quicksort [0] = [0] := by cbv
  have three : quicksort [0, 1, 2] = [0, 1, 2] := by cbv
  simp [unevenPlan, run, pairs, Progression.count, Progression.values, Progression.numbers, List.range_succ, Room.fits,
    Room.numberWidth, Room.durationWidth, Samples.withRoom, UInt64.size, Bench.run, Bench.runFrom, Bench.bind,
    measureSizes, measureSize, orderedNumbers?, orderedNumbers, Measurement.take, Measurement.warmUp,
    Measurement.timedRuns, shuffle_zeros, one, three, Metric.measure, Measurement.ofProgress, Trimmed.ofTimes,
    Trimmed.kept, Trimmed.sorted, Trimmed.trimmedCount, Trimmed.total, Trimmed.durationLimit]

theorem run_plottable_unevenPlan :
    unevenPlan.settings.metric ≠ .kendall ∧ unevenPlan.grid.sizes.limit < UInt64.size ∧
      unevenPlan.grid.swaps.limit < UInt64.size ∧ unevenPlan.grid.swaps.numbers ≠ [] ∧
      ∃ outcome samples, (unevenPlan.run (.zeros 0)).run (fun taken => 1000 * (taken + 1)) = some outcome ∧
        outcome.result = .ok samples ∧ Plottable unevenPlan samples := by
  have rank : unevenPlan.settings.metric ≠ .kendall := by decide
  have word : unevenPlan.grid.sizes.limit < UInt64.size := by decide
  have word' : unevenPlan.grid.swaps.limit < UInt64.size := by decide
  have swaps : unevenPlan.grid.swaps.numbers ≠ [] := by decide
  obtain ⟨outcome, samples, ended, ok⟩ := run_unevenPlan
  exact ⟨rank, word, word', swaps, outcome, samples, ended, ok, run_plottable rank word word' swaps ended ok⟩

end BenchmarkPlan

end QuicksortStudy
