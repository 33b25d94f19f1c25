import QuicksortStudy.CommandLine.Arguments
import QuicksortStudy.Experiment.Benchmark
import QuicksortStudy.Results.Row

/-!
# The benchmark command

Runs the benchmark of a profile, with some settings changed, and writes the results to a file.
-/

namespace QuicksortStudy

structure RecordingOptions where
  profile : Profile
  output : String
  seed : Option Nat
  metric : Option Metric
  warmup : Option Nat
  timed : Option Nat
  deriving Repr, DecidableEq

inductive RecordingError where
  | benchmark (error : BenchmarkError)
  | write (error : WriteError)
  deriving Repr, DecidableEq

def RecordingError.message : RecordingError → String
  | benchmark error => error.message
  | write error => error.message

def RecordingError.isFatal : RecordingError → Bool
  | benchmark error => error.isFatal
  | write _ => false

namespace RecordingOptions

def standard : RecordingOptions := ⟨.standard, resultsFile, none, none, none, none⟩

def specs : List (OptionSpec RecordingOptions) :=
  [⟨"profile", fun text o => do
      return { o with profile := ← OptionSpec.named? Profile.name Profile.all text }⟩,
    ⟨"output", fun text o => do return { o with output := ← OptionSpec.path? text }⟩,
    ⟨"seed", fun text o => do return { o with seed := some (← OptionSpec.word? text) }⟩,
    ⟨"metric", fun text o => do
      return { o with metric := some (← OptionSpec.named? Metric.name Metric.all text) }⟩,
    ⟨"warmup", fun text o => do return { o with warmup := some (← OptionSpec.word? text) }⟩,
    ⟨"timed", fun text o => do return { o with timed := some (← OptionSpec.word? text) }⟩]

def parse (arguments : List String) : Except UsageError RecordingOptions :=
  ArgumentReader.read specs standard arguments

def plan (o : RecordingOptions) : BenchmarkPlan :=
  let plan := o.profile.plan
  { plan with settings := { plan.settings with
      metric := o.metric.getD plan.settings.metric
      warmup := o.warmup.getD plan.settings.warmup
      timed := o.timed.getD plan.settings.timed } }

def announcement (o : RecordingOptions) : LogLine :=
  ⟨.info, .recording, "running " ++ toString (o.plan.pairs.getD 0) ++ " benchmarks (" ++ o.profile.title ++
    ", " ++ toString o.plan.settings.timed ++ " timed runs each)..."⟩

def conclude (o : RecordingOptions) (folder : Folder) (run : BenchmarkRun) : Report RecordingError :=
  match run.result with
  | .error error => ⟨.error (.benchmark error), folder, run.log⟩
  | .ok samples =>
    match samples.write o.output folder with
    | .error error => ⟨.error (.write error), folder, run.log⟩
    | .ok written =>
      ⟨.ok (toString samples.length ++ " results written to " ++ o.output), written, run.log⟩

/-- The report of a benchmark after what is logged before it. -/
def announced (o : RecordingOptions) (report : Report RecordingError) : Report RecordingError :=
  { report with log := o.announcement :: report.log }

def run (o : RecordingOptions) (stream : RandomStream) (folder : Folder) : Bench (Report RecordingError) :=
  (o.plan.run stream).map fun run => o.announced (o.conclude folder run)

end RecordingOptions

end QuicksortStudy
