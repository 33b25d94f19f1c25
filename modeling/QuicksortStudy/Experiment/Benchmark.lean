import QuicksortStudy.Experiment.Measurement
import QuicksortStudy.Log
import QuicksortStudy.Samples

/-!
# A whole benchmark

Every pair of a grid is measured, array size by array size and within a size with the fewest swaps first.
So the samples come in blocks, one for each size.  A plan that cannot work is refused before anything is
drawn, room for all sizes and all samples is set aside, and the first measurement that fails ends the
benchmark.
-/

namespace QuicksortStudy

/-- The samples of a benchmark, or why there are none, the random stream afterwards, and the log. -/
structure BenchmarkRun where
  result : Except BenchmarkError Samples
  stream : RandomStream
  log : List LogLine

namespace BenchmarkPlan

def sizeDone (size : Nat) : LogLine :=
  ⟨.debug, .recording, "array size " ++ toString size ++ " done"⟩

/-- Measure an array size with some swap counts.  The samples so far are kept in reverse. -/
def measureSize (settings : Settings) (size : Nat) (base : List Int) :
    List Nat → RandomStream → List Sample → Bench (Drawn (List Sample))
  | [], s, samples => .done ⟨.ok samples, s⟩
  | swaps :: rest, s, samples =>
    (Measurement.take settings base swaps s).bind fun measured =>
      match measured.result with
      | .error error => .done ⟨.error error, measured.stream⟩
      | .ok measurement =>
        measureSize settings size base rest measured.stream
          (⟨Binary64.ofNat size, measurement.sortedness, measurement.time⟩ :: samples)

/-- Measure some array sizes.  The samples and the log so far are kept in reverse. -/
def measureSizes (settings : Settings) (swaps : Progression) :
    List Nat → RandomStream → List Sample → List LogLine → Bench BenchmarkRun
  | [], s, samples, log => .done ⟨.ok (.ofRows samples.reverse), s, log.reverse⟩
  | size :: rest, s, samples, log =>
    match orderedNumbers? size settings.ascending with
    | none => .done ⟨.error .noRoom, s, log.reverse⟩
    | some base =>
      (measureSize settings size base swaps.numbers s samples).bind fun measured =>
        match measured.result with
        | .error error => .done ⟨.error error, measured.stream, log.reverse⟩
        | .ok samples =>
          measureSizes settings swaps rest measured.stream samples (sizeDone size :: log)

def run (plan : BenchmarkPlan) (s : RandomStream) : Bench BenchmarkRun :=
  match plan.pairs with
  | none => .done ⟨.error .zeroStep, s, []⟩
  | some pairs =>
    if plan.settings.timed = 0 then .done ⟨.error .nothingTimed, s, []⟩
    else match plan.grid.sizes.values, Samples.withRoom pairs with
      | some sizes, some _ => measureSizes plan.settings plan.grid.swaps sizes s [] []
      | _, _ => .done ⟨.error .noRoom, s, []⟩

end BenchmarkPlan

end QuicksortStudy
