import QuicksortStudy.Experiment.TrimmedMean
import QuicksortStudy.Metric.Sortedness
import QuicksortStudy.Random.Stream
import QuicksortStudy.Sorting.Quicksort

/-!
# One measurement

Every run sorts a freshly shuffled copy of the same list.  The first runs only warm up; of the others the
time is taken and the result is compared with what it should be.  The sortedness is that of the last run.

A measurement is a `Bench`, a computation that can ask for a list to be sorted, either to warm up or while the time is
taken.  It is a tree of such requests, so it can be run with a real clock or with any given sequence of durations, and
what it asks for next can depend on the durations only through the answers it was given.  It has no end where a shuffle
has none.
-/

namespace QuicksortStudy

/-- A computation with timed sorts. -/
inductive Bench (α : Type) where
  | done (result : α)
  | endless
  /-- Sort and forget the result. -/
  | warmUp (input : List Int) (next : Unit → Bench α)
  /-- Sort and go on with the result and the time that it took. -/
  | timed (input : List Int) (next : List Int → Nanoseconds → Bench α)

namespace Bench

variable {α β : Type}

def bind : Bench α → (α → Bench β) → Bench β
  | done result, next => next result
  | endless, _ => endless
  | warmUp input rest, next => warmUp input fun _ => (rest ()).bind next
  | timed input rest, next => timed input fun output duration => (rest output duration).bind next

/-- The result when the sorts take the durations of a sequence, from a position on; none without an end. -/
def runFrom (clock : Nat → Nanoseconds) : Nat → Bench α → Option α
  | _, done result => some result
  | _, endless => none
  | taken, warmUp _ next => runFrom clock taken (next ())
  | taken, timed input next => runFrom clock (taken + 1) (next (quicksort input) (clock taken))

def run (clock : Nat → Nanoseconds) (bench : Bench α) : Option α := bench.runFrom clock 0

def map (f : α → β) (bench : Bench α) : Bench β := bench.bind fun result => done (f result)

end Bench

inductive BenchmarkError where
  | zeroStep
  | nothingTimed
  | metric (error : MetricError)
  | unsorted (size swaps : Nat)
  | trim (error : TrimError)
  /-- A list would be too long for memory. -/
  | noRoom
  deriving Repr, DecidableEq

def BenchmarkError.message : BenchmarkError → String
  | zeroStep => "array size and swap steps must be at least 1"
  | nothingTimed => "need at least one timed iteration"
  | metric error => error.message
  | unsorted size swaps =>
    "quicksort did not sort an array of " ++ toString size ++ " elements (" ++ toString swaps ++ " swaps)"
  | trim error => error.message
  | noRoom => "capacity overflow"

def BenchmarkError.isFatal : BenchmarkError → Bool
  | trim .overflow => true
  | noRoom => true
  | _ => false

structure Measurement where
  time : Float
  sortedness : Float
  deriving Repr, DecidableEq

/-- A result, or why there is none, and the random stream afterwards. -/
structure Drawn (α : Type) where
  result : Except BenchmarkError α
  stream : RandomStream

namespace Measurement

def warmUp (base : List Int) (swaps : Nat) : Nat → RandomStream → Bench RandomStream
  | 0, s => .done s
  | count + 1, s =>
    match shuffle base swaps s with
    | none => .endless
    | some (shuffled, s) => .warmUp shuffled fun _ => warmUp base swaps count s

/-- What is known between timed runs. -/
structure Progress where
  sortedness : Float
  times : List Nanoseconds

def ofProgress (trimPercent : Nat) (progress : Progress) : Except BenchmarkError Measurement :=
  match (Trimmed.ofTimes progress.times.reverse trimPercent).mean with
  | .error error => .error (.trim error)
  | .ok time => .ok ⟨time, progress.sortedness⟩

/-- Sort and take the time a number of times. -/
def timedRuns (settings : Settings) (base : List Int) (swaps : Nat) :
    Nat → RandomStream → Progress → Bench (Drawn Measurement)
  | 0, s, progress => .done ⟨ofProgress settings.trimPercent progress, s⟩
  | count + 1, s, progress =>
    match shuffle base swaps s with
    | none => .endless
    | some (shuffled, s) =>
      match settings.metric.measure base shuffled swaps with
      | .error error => .done ⟨.error (.metric error), s⟩
      | .ok value =>
        .timed shuffled fun sorted duration =>
          if sorted = orderedNumbers base.length true then
            timedRuns settings base swaps count s ⟨value, duration :: progress.times⟩
          else .done ⟨.error (.unsorted base.length swaps), s⟩

/-- The measurement for a list that is shuffled by a number of swaps.  After the warm-up, room is set aside
for all timings. -/
def take (settings : Settings) (base : List Int) (swaps : Nat) (s : RandomStream) :
    Bench (Drawn Measurement) :=
  (warmUp base swaps settings.warmup s).bind fun s =>
    if Room.fits Room.durationWidth settings.timed then
      match settings.metric.measure base base swaps with
      | .error error => .done ⟨.error (.metric error), s⟩
      | .ok value => timedRuns settings base swaps settings.timed s ⟨value, []⟩
    else .done ⟨.error .noRoom, s⟩

end Measurement

end QuicksortStudy
