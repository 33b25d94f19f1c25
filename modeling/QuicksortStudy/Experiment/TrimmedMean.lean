import QuicksortStudy.Binary64

/-!
# Trimmed means

The mean of timings after the same number of the shortest and of the longest ones is left out.  Timings
are whole nanoseconds, the mean is in milliseconds.  A sum that is longer than a duration can be is an
error of its own.
-/

namespace QuicksortStudy

abbrev Nanoseconds := Nat

inductive TrimError where
  | tooMuch (percent : Nat)
  | nothingLeft (trimmed : Nat)
  /-- The sum exceeds the longest duration. -/
  | overflow
  deriving Repr, DecidableEq

/-- The words for a trimmed mean that there is not; an overflow has none. -/
def TrimError.message : TrimError → String
  | tooMuch percent => "trim must be below 50%, got " ++ toString percent ++ "%"
  | nothingLeft trimmed => "no timings left after trimming " ++ toString trimmed ++ " from each end"
  | overflow => "overflow when adding durations"

/-- A trimmed mean and the list of timings after it was taken. -/
structure Trimmed where
  mean : Except TrimError Float
  times : List Nanoseconds

namespace Trimmed

/-- One more than the longest duration: as many seconds as fit an unsigned word. -/
def durationLimit : Nanoseconds := UInt64.size * 1000000000

def sorted (times : List Nanoseconds) : List Nanoseconds := times.mergeSort fun a b => decide (a ≤ b)

def trimmedCount (times : List Nanoseconds) (percent : Nat) : Nat := times.length * percent / 100

def kept (times : List Nanoseconds) (percent : Nat) : List Nanoseconds :=
  let trimmed := trimmedCount times percent
  ((sorted times).drop trimmed).take (times.length - 2 * trimmed)

def total (times : List Nanoseconds) : Nanoseconds := times.foldr (· + ·) 0

def milliseconds (times : List Nanoseconds) : Float :=
  Binary64.ofNat (total times) / 1000000.0 / Binary64.ofNat times.length

/-- The trimmed mean of some timings.  They are put in order unless the percentage is refused. -/
def ofTimes (times : List Nanoseconds) (percent : Nat) : Trimmed :=
  if 50 ≤ percent then ⟨.error (.tooMuch percent), times⟩
  else
    let left := kept times percent
    let mean :=
      if left.isEmpty then .error (.nothingLeft (trimmedCount times percent))
      else if durationLimit ≤ total left then .error .overflow
      else .ok (milliseconds left)
    ⟨mean, sorted times⟩

theorem ofTimes_tooMuch (times : List Nanoseconds) {percent : Nat} (much : 50 ≤ percent) :
    ofTimes times percent = ⟨.error (.tooMuch percent), times⟩ := by
  simp [ofTimes, much]

end Trimmed

end QuicksortStudy
