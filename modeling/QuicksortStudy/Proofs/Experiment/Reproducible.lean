import Mathlib
import QuicksortStudy.Proofs.Experiment.Ending

/-!
# Benchmarks can be repeated

Two benchmarks that draw alike from the same stream record the same draws, so what they record differs only where
their metrics or the orders of their numbers make a difference.  The order of the numbers makes none for swaps and
for Spearman's correlation.
-/

namespace QuicksortStudy

/-! ## Recording the same draws -/

/-- Two settings record all draws alike. -/
def Settings.RecordAlike (settings settings' : Settings) : Prop :=
  ∀ draw : Draw, draw.positions.Perm (List.range (numbersBelow draw.size)) →
    draw.measure settings = draw.measure settings'

theorem Settings.recordAlike_of_eq {settings settings' : Settings} (metric : settings.metric = settings'.metric)
    (ascending : settings.ascending = settings'.ascending) : settings.RecordAlike settings' := by
  intro draw _
  unfold Draw.measure
  rw [metric, ascending]

/-- Swaps and Spearman's correlation are recorded alike for numbers in both orders. -/
theorem Settings.recordAlike_of_order {settings settings' : Settings} (metric : settings.metric = settings'.metric)
    (rank : settings.metric ≠ .kendall) (rising : settings.ascending = true)
    (falling : settings'.ascending = false) : settings.RecordAlike settings' := by
  intro draw perm
  unfold Draw.measure
  rw [← metric, rising, falling, orderedNumbers_eq, orderedNumbers_eq]
  exact Metric.measure_rearranged rank perm draw.swaps

namespace BenchmarkPlan

variable {settings settings' : Settings} {draws : List Draw} {rows rows' : List Sample}

theorem sizes_of_records (each : List.Forall₂ (Records settings) draws rows) :
    rows.map Sample.size = draws.map fun draw => Binary64.ofNat draw.size := by
  induction each with
  | nil => rfl
  | cons record others ih => rw [List.map_cons, List.map_cons, record.size, ih]

theorem sortedness_of_records (alike : settings.RecordAlike settings')
    (each : List.Forall₂ (Records settings) draws rows) (each' : List.Forall₂ (Records settings') draws rows') :
    rows.map Sample.sortedness = rows'.map Sample.sortedness := by
  induction each generalizing rows' with
  | nil =>
      cases each'
      rfl
  | cons record others ih =>
      cases each' with
      | cons record' others' =>
          have same := (record.sortedness.symm.trans (alike _ record.perm)).trans record'.sortedness
          rw [List.map_cons, List.map_cons, Except.ok.inj same, ih others']

/-! ## Drawing alike -/

/-- Plans that draw alike.  They may differ in the metric, in the order of the numbers, in the trimming, and in the
settings that are usual for their grids. -/
structure DrawAlike (plan plan' : BenchmarkPlan) : Prop where
  sizes : plan.grid.sizes = plan'.grid.sizes
  swaps : plan.grid.swaps = plan'.grid.swaps
  warmup : plan.settings.warmup = plan'.settings.warmup
  timed : plan.settings.timed = plan'.settings.timed

variable {plan plan' : BenchmarkPlan} {s : RandomStream} {clock clock' : Nat → Nanoseconds}
  {outcome outcome' : BenchmarkRun} {samples samples' : Samples}

theorem DrawAlike.draws_eq (alike : plan.DrawAlike plan') (s : RandomStream) : plan.draws s = plan'.draws s := by
  unfold draws
  rw [alike.sizes, alike.swaps, alike.warmup, alike.timed]

theorem DrawAlike.pairCount_eq (alike : plan.DrawAlike plan') : plan.pairCount = plan'.pairCount := by
  unfold pairCount
  rw [alike.sizes, alike.swaps]

/-- Plans that draw alike need the same room. -/
theorem DrawAlike.hasRoom (alike : plan.DrawAlike plan') (room : plan.HasRoom) : plan'.HasRoom := by
  constructor
  · rw [← alike.sizes]
    exact room.sizes
  · rw [← alike.pairCount_eq]
    exact room.rows
  · rw [← alike.sizes]
    exact room.numbers
  · rw [← alike.pairCount_eq, ← alike.timed]
    exact room.timings

/-- Benchmarks that draw alike and do not fail have the same sizes and leave the same stream, and where they record
alike, they have the same sortedness. -/
theorem DrawAlike.run_eq (alike : plan.DrawAlike plan') (ended : (plan.run s).run clock = some outcome)
    (ended' : (plan'.run s).run clock' = some outcome') (ok : outcome.result = .ok samples)
    (ok' : outcome'.result = .ok samples') :
    samples.sizes = samples'.sizes ∧ outcome.stream = outcome'.stream ∧
      (plan.settings.RecordAlike plan'.settings → samples.sortedness = samples'.sortedness) := by
  obtain ⟨draws, rows, drawn, rfl, each⟩ := records_of_run ended ok
  obtain ⟨draws', rows', drawn', rfl, each'⟩ := records_of_run ended' ok'
  rw [alike.draws_eq s, drawn'] at drawn
  obtain ⟨rfl, stream⟩ := Prod.mk.inj (Option.some.inj drawn)
  refine ⟨?_, stream.symm, fun recorded => sortedness_of_records recorded each each'⟩
  exact (sizes_of_records each).trans (sizes_of_records each').symm

/-- A seed fixes the sizes and the stream that a benchmark leaves, with as many words drawn, whatever the clock says
and whatever is recorded.  With the metric and the order of the numbers it also fixes the sortedness. -/
theorem run_repeated {plan plan' : BenchmarkPlan} {s : RandomStream} {clock clock' : Nat → Nanoseconds}
    {outcome outcome' : BenchmarkRun} {samples samples' : Samples} (alike : plan.DrawAlike plan')
    (ended : (plan.run s).run clock = some outcome) (ended' : (plan'.run s).run clock' = some outcome')
    (ok : outcome.result = .ok samples) (ok' : outcome'.result = .ok samples') :
    samples.sizes = samples'.sizes ∧ outcome.stream = outcome'.stream ∧
      (plan.settings.metric = plan'.settings.metric → plan.settings.ascending = plan'.settings.ascending →
        samples.sortedness = samples'.sortedness) := by
  obtain ⟨sizes, stream, sortedness⟩ := alike.run_eq ended ended' ok ok'
  exact ⟨sizes, stream, fun metric ascending => sortedness (Settings.recordAlike_of_eq metric ascending)⟩

/-- Two array sizes with three numbers of swaps each, ranked from falling numbers. -/
def rankedPlan : BenchmarkPlan :=
  ⟨⟨⟨2, 8, 3⟩, ⟨0, 3, 1⟩, ⟨1, 3, 20, false, .spearman⟩⟩, ⟨1, 3, 20, false, .spearman⟩⟩

/-- The same without any trimming, on a grid for which other settings are usual. -/
def untrimmedPlan : BenchmarkPlan :=
  ⟨{ rankedPlan.grid with usual := ⟨9, 0, 60, true, .kendall⟩ }, { rankedPlan.settings with trimPercent := 0 }⟩

theorem hasRoom_rankedPlan : rankedPlan.HasRoom := by
  constructor <;> decide +kernel

/-- What draws like the plan succeeds with timings of up to a second, unless too much is to be trimmed. -/
theorem exists_run_rankedPlan {plan : BenchmarkPlan} (alike : rankedPlan.DrawAlike plan)
    (below : plan.settings.trimPercent < 50) {clock : Nat → Nanoseconds} (each : ∀ taken, clock taken ≤ 1000000000) :
    ∃ outcome samples, (plan.run someWords).run clock = some outcome ∧ outcome.result = .ok samples := by
  have timed : plan.settings.timed = 3 := alike.timed.symm
  have steps : plan.Steps := by
    unfold Steps
    rw [← alike.sizes, ← alike.swaps]
    decide
  have durations : plan.DurationsFit clock := durationsFit_of_le each (by rw [timed]; decide)
  have draws : plan.DrawsEnd someWords := fun _ _ => RandomStream.yields_ofWords _ _
  obtain ⟨outcome, -, ended, -⟩ := finishes_run draws 0
  obtain ⟨samples, ok⟩ := (alike.hasRoom hasRoom_rankedPlan).ok_of_run durations steps (by rw [timed]; decide)
    (fun _ => below) ended
  exact ⟨outcome, samples, ended, ok⟩

theorem run_repeated_rankedPlan : ∃ outcome outcome' samples samples',
    (rankedPlan.run someWords).run (fun taken => 1000 * (taken % 5)) = some outcome ∧
      (untrimmedPlan.run someWords).run (fun _ => 250) = some outcome' ∧
      outcome.result = .ok samples ∧ outcome'.result = .ok samples' ∧
      samples.sizes = samples'.sizes ∧ samples.sortedness = samples'.sortedness ∧
      outcome.stream = outcome'.stream := by
  have itself : rankedPlan.DrawAlike rankedPlan := ⟨rfl, rfl, rfl, rfl⟩
  have alike : rankedPlan.DrawAlike untrimmedPlan := ⟨rfl, rfl, rfl, rfl⟩
  have short : ∀ taken, 1000 * (taken % 5) ≤ 1000000000 := fun taken => by omega
  have short' : Nat → 250 ≤ 1000000000 := fun _ => by decide
  obtain ⟨outcome, samples, ended, ok⟩ := exists_run_rankedPlan itself (by decide) short
  obtain ⟨outcome', samples', ended', ok'⟩ := exists_run_rankedPlan alike (by decide) short'
  obtain ⟨sizes, stream, sortedness⟩ := run_repeated alike ended ended' ok ok'
  exact ⟨outcome, outcome', samples, samples', ended, ended', ok, ok', sizes, sortedness rfl rfl, stream⟩

/-! ## Both orders -/

/-- The plan with its numbers in one of the two orders. -/
def inOrder (plan : BenchmarkPlan) (ascending : Bool) : BenchmarkPlan :=
  { plan with settings := { plan.settings with ascending } }

/-- A plan draws alike in both orders. -/
theorem drawAlike_inOrder (plan : BenchmarkPlan) (ascending ascending' : Bool) :
    (plan.inOrder ascending).DrawAlike (plan.inOrder ascending') := ⟨rfl, rfl, rfl, rfl⟩

/-- Swaps and Spearman's correlation come out the same whether the numbers rise or fall. -/
theorem run_either_order {plan : BenchmarkPlan} (rank : plan.settings.metric ≠ .kendall) {s : RandomStream}
    {clock clock' : Nat → Nanoseconds} {outcome outcome' : BenchmarkRun} {rising falling : Samples}
    (ended : ((plan.inOrder true).run s).run clock = some outcome)
    (ended' : ((plan.inOrder false).run s).run clock' = some outcome')
    (ok : outcome.result = .ok rising) (ok' : outcome'.result = .ok falling) :
    rising.sizes = falling.sizes ∧ rising.sortedness = falling.sortedness ∧ outcome.stream = outcome'.stream := by
  obtain ⟨sizes, stream, sortedness⟩ := (drawAlike_inOrder plan true false).run_eq ended ended' ok ok'
  exact ⟨sizes, sortedness (Settings.recordAlike_of_order rfl rank rfl rfl), stream⟩

theorem run_either_order_rankedPlan : rankedPlan.settings.metric ≠ .kendall ∧ ∃ outcome outcome' rising falling,
    ((rankedPlan.inOrder true).run someWords).run (fun _ => 250) = some outcome ∧
      ((rankedPlan.inOrder false).run someWords).run (fun _ => 1000) = some outcome' ∧
      outcome.result = .ok rising ∧ outcome'.result = .ok falling ∧
      rising.sizes = falling.sizes ∧ rising.sortedness = falling.sortedness ∧ outcome.stream = outcome'.stream := by
  have rank : rankedPlan.settings.metric ≠ .kendall := by decide
  have short : Nat → 250 ≤ 1000000000 := fun _ => by decide
  have short' : Nat → 1000 ≤ 1000000000 := fun _ => by decide
  have rises : rankedPlan.DrawAlike (rankedPlan.inOrder true) := ⟨rfl, rfl, rfl, rfl⟩
  have falls : rankedPlan.DrawAlike (rankedPlan.inOrder false) := ⟨rfl, rfl, rfl, rfl⟩
  obtain ⟨outcome, rising, ended, ok⟩ := exists_run_rankedPlan rises (by decide) short
  obtain ⟨outcome', falling, ended', ok'⟩ := exists_run_rankedPlan falls (by decide) short'
  exact ⟨rank, outcome, outcome', rising, falling, ended, ended', ok, ok', run_either_order rank ended ended' ok ok'⟩

end BenchmarkPlan

end QuicksortStudy
