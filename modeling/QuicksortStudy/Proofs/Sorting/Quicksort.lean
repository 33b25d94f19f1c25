import Mathlib
import QuicksortStudy.Sorting.Quicksort

/-!
# Quicksort sorts

Both sides of the pivot are shorter than the list, so what holds of them may be assumed.  Together with the
pivot they are the list again, and every element of the one side comes before every element of the other.  A
list in order is the only rearrangement of itself that is in order, so the numbers below a size, however they
were mixed, are sorted into the numbers in rising order.
-/

namespace QuicksortStudy

theorem quicksort_nil : quicksort [] = [] := by
  unfold quicksort
  rfl

theorem above_eq_not_below (pivot : Int) :
    (fun x => decide (pivot < x)) = not ∘ fun x => decide (x ≤ pivot) := by
  funext x
  rw [Function.comp_apply, ← decide_not, decide_eq_decide, not_le]

theorem quicksort_concat (xs : List Int) (pivot : Int) : quicksort (xs ++ [pivot]) =
    quicksort (xs.filter fun x => decide (x ≤ pivot)) ++
      pivot :: quicksort (xs.filter fun x => decide (pivot < x)) := by
  have isLast : (xs ++ [pivot]).getLast? = some pivot := List.getLast?_concat
  rw [quicksort]
  split
  · next none => cases none.symm.trans isLast
  · next last found =>
      cases found.symm.trans isLast
      simp only [List.dropLast_concat, List.partition_eq_filter_filter, above_eq_not_below]

/-- What holds of a list if it holds of the two sides of its last element holds of every list. -/
theorem quicksort_induction {motive : List Int → Prop} (nil : motive [])
    (concat : ∀ xs pivot, motive (xs.filter fun x => decide (x ≤ pivot)) →
      motive (xs.filter fun x => decide (pivot < x)) → motive (xs ++ [pivot])) (xs : List Int) : motive xs := by
  induction isLength : xs.length using Nat.strong_induction_on generalizing xs with
  | h length ih =>
      rcases List.eq_nil_or_concat' xs with rfl | ⟨rest, pivot, rfl⟩
      · exact nil
      · have shorter (keep : Int → Bool) : (rest.filter keep).length < length := by
          rw [← isLength, List.length_append, List.length_singleton]
          exact Nat.lt_succ_of_le (List.length_filter_le keep rest)
        exact concat rest pivot (ih _ (shorter _) _ rfl) (ih _ (shorter _) _ rfl)

theorem quicksort_perm (xs : List Int) : (quicksort xs).Perm xs := by
  induction xs using quicksort_induction with
  | nil => rw [quicksort_nil]
  | concat xs pivot left right =>
      rw [quicksort_concat]
      have sides : (xs.filter (fun x => decide (x ≤ pivot)) ++ xs.filter fun x => decide (pivot < x)).Perm xs := by
        have either := List.filter_append_perm (fun x => decide (x ≤ pivot)) xs
        simpa only [← decide_not, not_le] using either
      have inFront := (left.append (right.cons pivot)).trans List.perm_middle
      exact (inFront.trans (sides.cons pivot)).trans (List.perm_append_singleton pivot xs).symm

theorem pairwise_quicksort (xs : List Int) : (quicksort xs).Pairwise (· ≤ ·) := by
  induction xs using quicksort_induction with
  | nil =>
      rw [quicksort_nil]
      exact .nil
  | concat xs pivot left right =>
      rw [quicksort_concat]
      have below {x : Int} (member : x ∈ quicksort (xs.filter fun x => decide (x ≤ pivot))) : x ≤ pivot := by
        rw [(quicksort_perm _).mem_iff, List.mem_filter, decide_eq_true_eq] at member
        exact member.2
      have above {x : Int} (member : x ∈ quicksort (xs.filter fun x => decide (pivot < x))) : pivot < x := by
        rw [(quicksort_perm _).mem_iff, List.mem_filter, decide_eq_true_eq] at member
        exact member.2
      rw [List.pairwise_append, List.pairwise_cons]
      refine ⟨left, ⟨fun x member => le_of_lt (above member), right⟩, fun x inLeft y inRight => ?_⟩
      rcases List.mem_cons.mp inRight with rfl | inRight
      · exact below inLeft
      · exact le_trans (below inLeft) (le_of_lt (above inRight))

/-! ## Numbers in order -/

/-- How many numbers there are below a size, as far as signed words go. -/
def numbersBelow (size : Nat) : Nat := if size < 1 <<< 63 then size else 0

theorem orderedNumbers_true (size : Nat) :
    orderedNumbers size true = (List.range (numbersBelow size)).map Int.ofNat := rfl

theorem orderedNumbers_perm (size : Nat) (ascending : Bool) :
    (orderedNumbers size ascending).Perm ((List.range (numbersBelow size)).map Int.ofNat) := by
  cases ascending with
  | true => exact .rfl
  | false => exact List.reverse_perm _

/-- The number at a position of the numbers below a count, in rising or falling order. -/
def numberAt (ascending : Bool) (count position : Nat) : Int :=
  Int.ofNat (if ascending then position else count - 1 - position)

theorem orderedNumbers_eq (size : Nat) (ascending : Bool) : orderedNumbers size ascending =
    (List.range (numbersBelow size)).map (numberAt ascending (numbersBelow size)) := by
  cases ascending with
  | true => rfl
  | false =>
      change ((List.range (numbersBelow size)).map Int.ofNat).reverse = _
      apply List.ext_getElem
      · simp
      · intro position _ _
        simp [numberAt]

theorem length_orderedNumbers (size : Nat) (ascending : Bool) :
    (orderedNumbers size ascending).length = numbersBelow size := by
  rw [(orderedNumbers_perm size ascending).length_eq, List.length_map, List.length_range]

theorem pairwise_orderedNumbers (size : Nat) : (orderedNumbers size true).Pairwise (· ≤ ·) := by
  rw [orderedNumbers_true, List.pairwise_map]
  exact List.pairwise_le_range.imp fun le => Int.ofNat_le.mpr le

/-- The numbers below a size are sorted, however they were mixed. -/
theorem quicksort_of_perm {xs : List Int} {size : Nat} {ascending : Bool}
    (perm : xs.Perm (orderedNumbers size ascending)) : quicksort xs = orderedNumbers xs.length true := by
  have length : xs.length = numbersBelow size := perm.length_eq.trans (length_orderedNumbers size ascending)
  have again : numbersBelow (numbersBelow size) = numbersBelow size := by
    unfold numbersBelow
    split <;> simp [*]
  have same : orderedNumbers xs.length true = (List.range (numbersBelow size)).map Int.ofNat := by
    rw [orderedNumbers_true, length, again]
  have perm' : (quicksort xs).Perm (orderedNumbers xs.length true) := by
    rw [same]
    exact (quicksort_perm xs).trans (perm.trans (orderedNumbers_perm size ascending))
  exact perm'.eq_of_pairwise (fun _ _ _ _ => le_antisymm) (pairwise_quicksort xs) (pairwise_orderedNumbers xs.length)

end QuicksortStudy
