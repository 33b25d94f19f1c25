import Mathlib
import QuicksortStudy.Proofs.Sorting.Quicksort

/-!
# Sorting in place

The two sides and the pivot are written over the list one after another, each right behind what was written before.
The sides have as many elements as the list has besides the pivot, so all of them fit, and what stands there in the
end is the sorted list.
-/

namespace QuicksortStudy

/-- Values that are written behind a part of a list fit as long as the rest of the list is not shorter. -/
theorem overwrite?_behind (written : List Int) {rest values : List Int} (fits : values.length ≤ rest.length) :
    overwrite? (written ++ rest) written.length (written.length + values.length) values =
      some (written ++ values ++ rest.drop values.length) := by
  have inside : written.length ≤ written.length + values.length ∧
      written.length + values.length ≤ (written ++ rest).length ∧
      values.length = written.length + values.length - written.length := by
    rw [List.length_append]
    omega
  unfold overwrite?
  rw [if_pos inside, List.take_left, List.drop_append, List.drop_eq_nil_of_le (Nat.le_add_right _ _),
    Nat.add_sub_cancel_left, List.nil_append]

/-- Two sides that fill a list up to one element can be written over it with that element between them. -/
theorem writeBack?_eq {xs left right : List Int} (pivot : Int)
    (filled : left.length + right.length + 1 = xs.length) :
    writeBack? xs left pivot right = some (left ++ pivot :: right) := by
  have exact : (xs.drop (left.length + 1)).length = right.length := by
    rw [List.length_drop]
    omega
  have first : overwrite? xs 0 left.length left = some (left ++ xs.drop left.length) := by
    have fits : left.length ≤ xs.length := by omega
    simpa using overwrite?_behind [] fits
  have second : overwrite? (left ++ xs.drop left.length) left.length (left.length + 1) [pivot] =
      some (left ++ [pivot] ++ xs.drop (left.length + 1)) := by
    have fits : [pivot].length ≤ (xs.drop left.length).length := by
      rw [List.length_drop, List.length_singleton]
      omega
    simpa using overwrite?_behind left fits
  have third : overwrite? (left ++ [pivot] ++ xs.drop (left.length + 1)) (left.length + 1)
      (left ++ [pivot] ++ xs.drop (left.length + 1)).length right = some (left ++ pivot :: right) := by
    have written := overwrite?_behind (left ++ [pivot]) (Nat.le_of_eq exact.symm)
    rw [List.drop_eq_nil_of_le (Nat.le_of_eq exact)] at written
    rw [List.length_append, exact]
    simpa using written
  simp only [writeBack?, first, second, third, Option.bind_eq_bind, Option.bind_some]

theorem sortInPlace?_nil : sortInPlace? [] = some [] := by
  unfold sortInPlace?
  rfl

theorem sortInPlace?_singleton (x : Int) : sortInPlace? [x] = some [x] := by
  unfold sortInPlace?
  rfl

theorem sortInPlace?_concat {xs left right : List Int} {pivot : Int} (several : xs ≠ [])
    (isLeft : sortInPlace? (xs.filter fun x => decide (x ≤ pivot)) = some left)
    (isRight : sortInPlace? (xs.filter fun x => decide (pivot < x)) = some right) :
    sortInPlace? (xs ++ [pivot]) = writeBack? (xs ++ [pivot]) left pivot right := by
  have isLast : (xs ++ [pivot]).getLast? = some pivot := List.getLast?_concat
  rw [sortInPlace?]
  split
  · next none => cases none.symm.trans isLast
  · next last found =>
      cases found.symm.trans isLast
      rw [List.dropLast_concat, List.isEmpty_eq_false_iff.mpr several, if_neg Bool.false_ne_true,
        List.partition_eq_filter_filter, ← above_eq_not_below]
      simp only [isLeft, isRight, Option.bind_eq_bind, Option.bind_some]

/-- Sorting in place never breaks off, and leaves what the sort gives. -/
theorem sortInPlace?_eq (xs : List Int) : sortInPlace? xs = some (quicksort xs) := by
  induction xs using quicksort_induction with
  | nil => rw [sortInPlace?_nil, quicksort_nil]
  | concat xs pivot left right =>
      rcases eq_or_ne xs [] with rfl | several
      · rw [quicksort_concat]
        simp [quicksort_nil, sortInPlace?_singleton]
      · have filled := (quicksort_perm (xs ++ [pivot])).length_eq
        rw [quicksort_concat, List.length_append, List.length_cons, ← Nat.add_assoc] at filled
        rw [sortInPlace?_concat several left right, writeBack?_eq pivot filled, quicksort_concat]

/-- Every list can be sorted in place: all writes fit, and the list ends up in order with the same elements. -/
theorem sorts_in_place (xs : List Int) :
    ∃ sorted, sortInPlace? xs = some sorted ∧ quicksort xs = sorted ∧ sorted.Pairwise (· ≤ ·) ∧ sorted.Perm xs :=
  ⟨quicksort xs, sortInPlace?_eq xs, rfl, pairwise_quicksort xs, quicksort_perm xs⟩

end QuicksortStudy
