import QuicksortStudy.Profile

/-!
# The sort under study

Quicksort with the last element as pivot and fresh lists for both sides.  It needs quadratic time on input
that is already sorted in either direction, which is what the study is about.
-/

namespace QuicksortStudy

/-- The numbers below a size in rising or falling order.  A size that does not fit a signed word counts as
negative and gives none. -/
def orderedNumbers (size : Nat) (ascending : Bool) : List Int :=
  let count := if size < 1 <<< 63 then size else 0
  let rising := (List.range count).map Int.ofNat
  if ascending then rising else rising.reverse

def orderedNumbers? (size : Nat) (ascending : Bool) : Option (List Int) :=
  if Room.fits Room.numberWidth size ∨ 1 <<< 63 ≤ size then some (orderedNumbers size ascending) else none

theorem length_dropLast_lt {xs : List Int} {last : Int} (found : xs.getLast? = some last) :
    xs.dropLast.length < xs.length := by
  cases xs with
  | nil => simp at found
  | cons x rest => simp

theorem length_side_lt {xs : List Int} {last : Int} (found : xs.getLast? = some last) (keep : Int → Bool) :
    (xs.dropLast.filter keep).length < xs.length :=
  Nat.lt_of_le_of_lt (List.length_filter_le keep xs.dropLast) (length_dropLast_lt found)

def quicksort (xs : List Int) : List Int :=
  match _found : xs.getLast? with
  | none => []
  | some pivot =>
    let sides := xs.dropLast.partition fun x => decide (x ≤ pivot)
    quicksort sides.1 ++ pivot :: quicksort sides.2
termination_by xs.length
decreasing_by
  all_goals
    simp only [List.partition_eq_filter_filter]
    exact length_side_lt _found _

/-! ## In place

The sorted sides are written over the list that they were taken from, with the pivot between them.  What is written
has to fit its places exactly, or the sort breaks off. -/

/-- A list with some values in the places from `start` up to but not including `stop`.  There is none if the list has
no such places or if there are more or fewer values. -/
def overwrite? (xs : List Int) (start stop : Nat) (values : List Int) : Option (List Int) :=
  if start ≤ stop ∧ stop ≤ xs.length ∧ values.length = stop - start then
    some (xs.take start ++ values ++ xs.drop stop)
  else none

/-- A list with the sorted sides of a pivot written over it and the pivot between them. -/
def writeBack? (xs left : List Int) (pivot : Int) (right : List Int) : Option (List Int) := do
  let split := left.length
  let xs ← overwrite? xs 0 split left
  let xs ← overwrite? xs split (split + 1) [pivot]
  overwrite? xs (split + 1) xs.length right

/-- A list after it was sorted in place.  A list of one element is left as it is. -/
def sortInPlace? (xs : List Int) : Option (List Int) :=
  match _found : xs.getLast? with
  | none => some xs
  | some pivot =>
    if xs.dropLast.isEmpty then some xs
    else do
      let sides := xs.dropLast.partition fun x => decide (x ≤ pivot)
      let left ← sortInPlace? sides.1
      let right ← sortInPlace? sides.2
      writeBack? xs left pivot right
termination_by xs.length
decreasing_by
  all_goals
    simp only [List.partition_eq_filter_filter]
    exact length_side_lt _found _

end QuicksortStudy
