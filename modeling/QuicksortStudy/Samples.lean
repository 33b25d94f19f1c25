import QuicksortStudy.Profile

/-!
# Benchmark results

A sample is one measurement: the size of the array, how sorted it was, and how long sorting took in
milliseconds.  Results are held as three columns in the order in which they were recorded.  `Samples.rows`
is the view as a list of samples, and every operation acts on the columns as the list operation of the
same name acts on the rows.
-/

namespace QuicksortStudy

structure Sample where
  size : Float
  sortedness : Float
  time : Float
  deriving Repr, DecidableEq

structure Samples where
  sizes : List Float
  sortedness : List Float
  times : List Float
  deriving Repr, DecidableEq

namespace Sample

inductive Column where
  | size
  | sortedness
  | time
  deriving Repr, DecidableEq

def Column.name : Column → String
  | size => "array size"
  | sortedness => "sortedness"
  | time => "execution time"

def value (sample : Sample) : Column → Float
  | .size => sample.size
  | .sortedness => sample.sortedness
  | .time => sample.time

def columns : List Column := [.size, .sortedness, .time]

/-- Equality of all columns as numbers: `NaN` differs from itself and the zeros are equal. -/
def equals (a b : Sample) : Bool := columns.all fun column => a.value column == b.value column

end Sample

namespace Samples

def empty : Samples := ⟨[], [], []⟩

/-- No measurements, with room set aside for a number of them in each column. -/
def withRoom (count : Nat) : Option Samples :=
  if Room.fits Room.numberWidth count then some empty else none

def length (samples : Samples) : Nat := samples.sizes.length

def isEmpty (samples : Samples) : Bool := samples.sizes.isEmpty

def push (samples : Samples) (sample : Sample) : Samples :=
  ⟨samples.sizes ++ [sample.size], samples.sortedness ++ [sample.sortedness],
    samples.times ++ [sample.time]⟩

/-- The columns of a list of samples. -/
def ofRows (rows : List Sample) : Samples :=
  ⟨rows.map Sample.size, rows.map Sample.sortedness, rows.map Sample.time⟩

/-- The measurements one by one, as far as all columns reach. -/
def rows (samples : Samples) : List Sample :=
  ((samples.sizes.zip samples.sortedness).zip samples.times).map fun ((size, sortedness), time) =>
    ⟨size, sortedness, time⟩

def get? (samples : Samples) (position : Nat) : Option Sample := do
  return ⟨← samples.sizes[position]?, ← samples.sortedness[position]?, ← samples.times[position]?⟩

/-- The last measurements, all of them if there are fewer. -/
def tail (samples : Samples) (count : Nat) : Samples :=
  let skipped := samples.length - count
  ⟨samples.sizes.drop skipped, samples.sortedness.drop skipped, samples.times.drop skipped⟩

def append (samples others : Samples) : Samples :=
  ⟨samples.sizes ++ others.rows.map Sample.size, samples.sortedness ++ others.rows.map Sample.sortedness,
    samples.times ++ others.rows.map Sample.time⟩

def equals (a b : Samples) : Bool :=
  a.sizes == b.sizes && a.sortedness == b.sortedness && a.times == b.times

/-- Whether all columns have the same length. -/
def Aligned (samples : Samples) : Prop :=
  samples.sortedness.length = samples.length ∧ samples.times.length = samples.length

theorem aligned_ofRows (rows : List Sample) : (ofRows rows).Aligned := by
  simp [Aligned, ofRows, length]

theorem rows_ofRows (rows : List Sample) : (ofRows rows).rows = rows := by
  induction rows with
  | nil => rfl
  | cons row rest ih =>
    have shifted : (ofRows rest).rows = rest := ih
    simp only [Samples.rows, ofRows, List.map_cons, List.zip_cons_cons] at shifted ⊢
    rw [shifted]

theorem length_ofRows (rows : List Sample) : (ofRows rows).length = rows.length := by
  simp [ofRows, length]

theorem ofRows_concat (rows : List Sample) (sample : Sample) :
    ofRows (rows ++ [sample]) = (ofRows rows).push sample := by
  simp [ofRows, push]

theorem ofRows_append (first second : List Sample) :
    ofRows (first ++ second) = (ofRows first).append (ofRows second) := by
  rw [append, rows_ofRows]
  simp [ofRows]

end Samples

end QuicksortStudy
