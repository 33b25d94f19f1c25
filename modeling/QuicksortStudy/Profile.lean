/-!
# Profiles

A profile is one of the two setups of the study: which arrays are sorted and how often, how sortedness is recorded, and
which pictures show the results.

A list that is kept in one piece needs a number of bytes for each element.  All of them together have to be fewer than
`2 ^ 63`, the number of bytes that one piece of memory can have.
-/

namespace QuicksortStudy

namespace Room

/-- Whether there can be room for a number of elements of some bytes each. -/
def fits (width count : Nat) : Bool := decide (width * count < 1 <<< 63)

def numberWidth : Nat := 8

/-- The bytes that a length of time takes: its seconds, its nanoseconds, and padding. -/
def durationWidth : Nat := 16

end Room

inductive Profile where
  /-- Descending arrays; sortedness is the number of swaps. -/
  | editDistance
  /-- Ascending arrays; sortedness is a rank correlation with the sorted array. -/
  | swaps
  deriving Repr, DecidableEq

/-- How sortedness is recorded. -/
inductive Metric where
  | swaps
  | spearman
  | kendall
  deriving Repr, DecidableEq

structure Camera where
  elevation : Float
  azimuth : Float
  deriving Repr, DecidableEq

inductive Picture where
  | surface (camera : Camera)
  /-- Sortedness against time for the last rows. -/
  | scatter
  deriving Repr, DecidableEq

structure Image where
  file : String
  picture : Picture
  deriving Repr, DecidableEq

/-- The numbers from `first` up to but not including `limit`, `step` apart. -/
structure Progression where
  first : Nat
  limit : Nat
  step : Nat
  deriving Repr, DecidableEq

/-- How each pair of array size and swap count is measured. -/
structure Settings where
  warmup : Nat
  timed : Nat
  /-- The percentage of the sorted timings that is dropped at each end. -/
  trimPercent : Nat
  ascending : Bool
  metric : Metric
  deriving Repr, DecidableEq

/-- The pairs of array size and swap count of a benchmark, with the settings that are usual for it. -/
structure Grid where
  sizes : Progression
  swaps : Progression
  usual : Settings
  deriving Repr, DecidableEq

structure BenchmarkPlan where
  grid : Grid
  settings : Settings
  deriving Repr, DecidableEq

namespace Progression

/-- How many numbers there are; a step of zero leads nowhere. -/
def count (p : Progression) : Option Nat :=
  if p.step = 0 then none else some ((p.limit - p.first + p.step - 1) / p.step)

def numbers (p : Progression) : List Nat :=
  (List.range (p.count.getD 0)).map fun i => p.first + i * p.step

/-- The numbers in order as a list, if they end and there is room for them. -/
def values (p : Progression) : Option (List Nat) :=
  p.count.bind fun count => if Room.fits Room.numberWidth count then some p.numbers else none

end Progression

namespace BenchmarkPlan

/-- The number of pairs as an unsigned word, from which multiples of its size drop out. -/
def pairs (plan : BenchmarkPlan) : Option Nat := do
  return (← plan.grid.sizes.count) * (← plan.grid.swaps.count) % UInt64.size

end BenchmarkPlan

def Metric.name : Metric → String
  | swaps => "swaps"
  | spearman => "spearman"
  | kendall => "kendall"

def Metric.all : List Metric := [swaps, spearman, kendall]

namespace Profile

/-- All profiles, the usual one first. -/
def all : List Profile := [editDistance, swaps]

def standard : Profile := editDistance

def name : Profile → String
  | editDistance => "edit-distance"
  | swaps => "swaps"

def title : Profile → String
  | editDistance => "EditDistance"
  | swaps => "Swaps"

def blockSize : Profile → Nat
  | editDistance => 50
  | swaps => 200

def sortednessLabel : Profile → String
  | editDistance => "Sortedness (edit distance)"
  | swaps => "Sortedness (Spearman's rho)"

def front : Camera := ⟨20.0, -245.0⟩

def side : Camera := ⟨-3.0, 98.0⟩

/-- The pictures of a profile, in the order in which they are drawn. -/
def images : Profile → List Image
  | editDistance =>
    [⟨"sortedness_vs_time_vs_size.png", .surface front⟩,
      ⟨"sortedness_vs_time_vs_size_2.png", .surface side⟩]
  | swaps =>
    [⟨"execution_time_vs_no_swaps_and_array_size_3d.png", .surface front⟩,
      ⟨"execution_time_vs_no_swaps.png", .scatter⟩]

def grid : Profile → Grid
  | editDistance =>
    ⟨⟨0, 5000, 100⟩, ⟨0, 100, 2⟩, ⟨10, 500, 10, false, .swaps⟩⟩
  | swaps =>
    ⟨⟨2, 1000, 10⟩, ⟨0, 200, 1⟩, ⟨5, 100, 20, true, .spearman⟩⟩

def plan (profile : Profile) : BenchmarkPlan := ⟨profile.grid, profile.grid.usual⟩

theorem count_swaps_eq_blockSize (profile : Profile) :
    profile.grid.swaps.count = some profile.blockSize := by
  cases profile <;> rfl

end Profile

end QuicksortStudy
