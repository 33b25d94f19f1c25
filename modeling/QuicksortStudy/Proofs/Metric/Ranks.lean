import Mathlib
import QuicksortStudy.Metric.Sortedness
import QuicksortStudy.Proofs.Sorting.Quicksort

/-!
# What ranks are

The rank of an element counts the elements before it: the smaller ones, and of the equal ones those that stand
earlier.  Sorting keeps equal elements in their order, so the sorted list says of every two elements which comes
first.  For numbers in rising or in falling order that were rearranged, the rank is known from the position that
a number came from, and how far two ranks are apart is the same for both orders.
-/

namespace QuicksortStudy

/-! ## Elements in order -/

/-- An element with its position comes before another one: it is smaller, or equal and stands earlier. -/
def Before (a b : Int × Nat) : Prop := a.1 < b.1 ∨ a.1 = b.1 ∧ a.2 < b.2

instance (a b : Int × Nat) : Decidable (Before a b) := inferInstanceAs (Decidable (_ ∨ _))

theorem before_iff {a : Int × Nat} {x : Int} {position : Nat} :
    Before a (x, position) ↔ a.1 < x ∨ a.1 = x ∧ a.2 < position := .rfl

theorem Before.asymm {a b : Int × Nat} (before : Before a b) : ¬Before b a := by
  unfold Before at before ⊢
  omega

/-- The elements of a list with their positions, the smaller elements first. -/
def sortedEntries (xs : List Int) : List (Int × Nat) := xs.zipIdx.mergeSort fun a b => decide (a.1 ≤ b.1)

theorem sortedEntries_perm (xs : List Int) : (sortedEntries xs).Perm xs.zipIdx := List.mergeSort_perm ..

/-! Both sorts put pairs in the order of their first components. -/

section FirstComponent

variable {α : Type} [LinearOrder α]

theorem le_trans_first (a b c : α × Nat) (ab : decide (a.1 ≤ b.1) = true) (bc : decide (b.1 ≤ c.1) = true) :
    decide (a.1 ≤ c.1) = true := by
  rw [decide_eq_true_eq] at ab bc ⊢
  exact le_trans ab bc

theorem le_total_first (a b : α × Nat) : (decide (a.1 ≤ b.1) || decide (b.1 ≤ a.1)) = true := by
  rw [Bool.or_eq_true, decide_eq_true_eq, decide_eq_true_eq]
  exact le_total a.1 b.1

end FirstComponent

theorem pairwise_sortedEntries (xs : List Int) : (sortedEntries xs).Pairwise Before := by
  -- Numbering the entries once more makes the sort remember which of two equal ones stood earlier.
  have numbered : sortedEntries xs = _ := List.mergeSort_zipIdx.symm
  rw [numbered, List.pairwise_map]
  have sorted := List.pairwise_mergeSort (List.zipIdxLE_trans le_trans_first) (List.zipIdxLE_total le_total_first)
    xs.zipIdx.zipIdx
  have apart := (((List.mergeSort_perm xs.zipIdx.zipIdx
    (List.zipIdxLE fun a b => decide (a.1 ≤ b.1))).map Prod.snd).nodup_iff.mpr
      (List.nodup_zipIdx_map_snd xs.zipIdx))
  rw [List.nodup_iff_pairwise_ne, List.pairwise_map] at apart
  have position {a : (Int × Nat) × Nat} (member : a ∈ xs.zipIdx.zipIdx) : a.1.2 = a.2 := by
    rw [List.mem_zipIdx_iff_getElem?, List.getElem?_zipIdx] at member
    obtain ⟨x, -, isEntry⟩ := Option.map_eq_some_iff.mp member
    rw [← isEntry]
    exact Nat.zero_add a.2
  refine (sorted.and apart).imp_of_mem fun {a b} inA inB ⟨le, ne⟩ => ?_
  have hereA := position (List.mem_mergeSort.mp inA)
  have hereB := position (List.mem_mergeSort.mp inB)
  unfold List.zipIdxLE at le
  unfold Before
  split at le
  · next below =>
      rw [decide_eq_true_eq] at below
      split at le
      · next above =>
          rw [decide_eq_true_eq] at above le
          omega
      · next above =>
          rw [decide_eq_true_eq] at above
          omega
  · cases le

/-- In a list in order, the elements before one are as many as its index says. -/
theorem countP_of_pairwise {α : Type} {r : α → α → Prop} [DecidableRel r] (asymm : ∀ {a b}, r a b → ¬r b a)
    {xs : List α} (sorted : xs.Pairwise r) {index : Nat} {x : α} (found : xs[index]? = some x) :
    xs.countP (fun y => decide (r y x)) = index := by
  induction xs generalizing index with
  | nil => cases found
  | cons y ys ih =>
      rw [List.pairwise_cons] at sorted
      cases index with
      | zero =>
          cases found
          rw [List.countP_eq_zero]
          intro z member
          rw [decide_eq_true_eq]
          rcases List.mem_cons.mp member with rfl | later
          · exact fun same => asymm same same
          · exact asymm (sorted.1 z later)
      | succ index =>
          rw [List.getElem?_cons_succ] at found
          have first : decide (r y x) = true := decide_eq_true (sorted.1 x (List.mem_of_getElem? found))
          rw [List.countP_cons, if_pos first, ih sorted.2 found]

/-! ## Ranks -/

theorem countP_earlier (xs : List Int) (x : Int) (position start : Nat) :
    (xs.zipIdx start).countP (fun y => decide (y.1 = x ∧ y.2 < start + position)) =
      (xs.take position).countP (fun y => decide (y = x)) := by
  induction xs generalizing position start with
  | nil => rw [List.zipIdx_nil, List.take_nil, List.countP_nil, List.countP_nil]
  | cons y ys ih =>
      cases position with
      | zero =>
          rw [List.take_zero, List.countP_nil, List.countP_eq_zero]
          intro z member
          have later := List.le_snd_of_mem_zipIdx member
          rw [decide_eq_true_eq]
          omega
      | succ position =>
          have next := ih position (start + 1)
          rw [Nat.add_assoc, Nat.add_comm 1 position] at next
          rw [List.zipIdx_cons, List.take_succ_cons, List.countP_cons, List.countP_cons, next]
          congr 1
          simp

/-- The entries before one are the smaller ones, and of the equal ones those that stand earlier. -/
theorem countP_before (xs : List Int) (x : Int) (position : Nat) :
    xs.zipIdx.countP (fun y => decide (Before y (x, position))) =
      xs.countP (fun y => decide (y < x)) + (xs.take position).countP (fun y => decide (y = x)) := by
  have smaller : xs.countP (fun y => decide (y < x)) = xs.zipIdx.countP (fun y => decide (y.1 < x)) := by
    conv_lhs => rw [← List.zipIdx_map_fst 0 xs, List.countP_map]
    rfl
  rw [smaller, ← countP_earlier xs x position 0, Nat.zero_add]
  induction xs.zipIdx with
  | nil => rfl
  | cons y ys ih =>
      rw [List.countP_cons, List.countP_cons, List.countP_cons, ih]
      simp only [decide_eq_true_eq, before_iff]
      split_ifs <;> omega

/-- The entries of the second sort are the positions in order, each with its rank. -/
def rankEntries (xs : List Int) : List (Nat × Nat) :=
  ((sortedPositions xs).zipIdx 1).mergeSort fun a b => decide (a.1 ≤ b.1)

theorem sortedPositions_perm (xs : List Int) : (sortedPositions xs).Perm (List.range xs.length) := by
  have entries := (sortedEntries_perm xs).map Prod.snd
  rwa [List.zipIdx_map_snd, ← List.range_eq_range'] at entries

theorem map_fst_rankEntries (xs : List Int) : (rankEntries xs).map Prod.fst = List.range xs.length := by
  have perm : ((rankEntries xs).map Prod.fst).Perm (sortedPositions xs) := by
    have entries := (List.mergeSort_perm ((sortedPositions xs).zipIdx 1) fun a b => decide (a.1 ≤ b.1)).map Prod.fst
    rwa [List.zipIdx_map_fst] at entries
  have sorted : ((rankEntries xs).map Prod.fst).Pairwise (· ≤ ·) := by
    rw [List.pairwise_map]
    have ordered : (rankEntries xs).Pairwise fun a b => decide (a.1 ≤ b.1) = true :=
      List.pairwise_mergeSort le_trans_first le_total_first ((sortedPositions xs).zipIdx 1)
    exact ordered.imp of_decide_eq_true
  exact (perm.trans (sortedPositions_perm xs)).eq_of_pairwise (fun _ _ _ _ => le_antisymm) sorted
    List.pairwise_le_range

theorem length_ranks (xs : List Int) : (ranks xs).length = xs.length := by
  have length := congrArg List.length (map_fst_rankEntries xs)
  rw [List.length_map, List.length_range] at length
  exact (List.length_map ..).trans length

/-- The ranks are the numbers from one on, also where elements are equal. -/
theorem ranks_perm (xs : List Int) : (ranks xs).Perm (List.range' 1 xs.length) := by
  have perm := (List.mergeSort_perm ((sortedPositions xs).zipIdx 1) fun a b => decide (a.1 ≤ b.1)).map Prod.snd
  rwa [List.zipIdx_map_snd, (sortedPositions_perm xs).length_eq, List.length_range] at perm

/-- A rank is one more than the index of its entry in the sorted list. -/
theorem getElem?_sortedEntries_of_rank {xs : List Int} {position rank : Nat}
    (found : (ranks xs)[position]? = some rank) :
    ∃ index x, rank = index + 1 ∧ (sortedEntries xs)[index]? = some (x, position) ∧ xs[position]? = some x := by
  change ((rankEntries xs).map Prod.snd)[position]? = some rank at found
  rw [List.getElem?_map] at found
  obtain ⟨⟨position', rank'⟩, isEntry, same⟩ := Option.map_eq_some_iff.mp found
  have inside : position < xs.length := by
    have length := congrArg List.length (map_fst_rankEntries xs)
    rw [List.length_map, List.length_range] at length
    exact length ▸ (List.getElem?_eq_some_iff.mp isEntry).1
  have isPosition := congrArg (·[position]?) (map_fst_rankEntries xs)
  simp only [List.getElem?_map, isEntry, List.getElem?_range inside, Option.map_some, Option.some.injEq] at isPosition
  dsimp only at same
  subst isPosition same
  have member : (position', rank') ∈ (sortedPositions xs).zipIdx 1 :=
    List.mem_mergeSort.mp (List.mem_of_getElem? isEntry)
  obtain ⟨index, isIndex⟩ := List.mem_iff_getElem?.mp member
  rw [List.getElem?_zipIdx] at isIndex
  obtain ⟨position, atIndex, same⟩ := Option.map_eq_some_iff.mp isIndex
  cases same
  change ((sortedEntries xs).map Prod.snd)[index]? = some position' at atIndex
  rw [List.getElem?_map] at atIndex
  obtain ⟨⟨x, position⟩, isSorted, same⟩ := Option.map_eq_some_iff.mp atIndex
  dsimp only at same
  subst same
  have original := (sortedEntries_perm xs).mem_iff.mp (List.mem_of_getElem? isSorted)
  exact ⟨index, x, Nat.add_comm 1 index, isSorted, List.mem_zipIdx_iff_getElem?.mp original⟩

/-- A rank counts the smaller elements, and of the equal ones those that stand earlier, from one on. -/
theorem getElem?_ranks {xs : List Int} {position : Nat} {x : Int} (found : xs[position]? = some x) :
    (ranks xs)[position]? = some (1 + (xs.countP (fun y => decide (y < x)) +
      (xs.take position).countP (fun y => decide (y = x)))) := by
  have inside : position < (ranks xs).length := by
    rw [length_ranks]
    exact (List.getElem?_eq_some_iff.mp found).1
  have isRank := List.getElem?_eq_getElem inside
  obtain ⟨index, x', rank, isSorted, original⟩ := getElem?_sortedEntries_of_rank isRank
  cases found.symm.trans original
  have before := countP_of_pairwise Before.asymm (pairwise_sortedEntries xs) isSorted
  rw [(sortedEntries_perm xs).countP_eq, countP_before] at before
  rw [isRank, rank, before, Nat.add_comm]

theorem squaredRankDistance_eq (xs ys : List Int) :
    squaredRankDistance xs ys = ((rankDistances xs ys).map fun d => d * d).sum := by
  unfold squaredRankDistance
  induction rankDistances xs ys with
  | nil => rfl
  | cons d rest ih => rw [List.foldr_cons, ih, List.map_cons, List.sum_cons]

/-! ## Without equal elements -/

theorem countP_eq_take_of_nodup {xs : List Int} (apart : xs.Nodup) {position : Nat} {x : Int}
    (found : xs[position]? = some x) : (xs.take position).countP (fun y => decide (y = x)) = 0 := by
  rw [List.countP_eq_zero]
  intro y earlier tie
  cases of_decide_eq_true tie
  have later : x ∈ xs.drop position := by
    rw [List.drop_eq_getElem?_toList_append, found]
    exact List.mem_append_left _ (List.mem_singleton_self x)
  exact List.disjoint_take_drop apart (Nat.le_refl position) earlier later

/-- Without equal elements a rank only counts the smaller ones, so it does not depend on the position. -/
theorem ranks_of_nodup {xs : List Int} (apart : xs.Nodup) :
    ranks xs = xs.map fun x => 1 + xs.countP fun y => decide (y < x) := by
  apply List.ext_getElem?
  intro position
  rw [List.getElem?_map]
  cases found : xs[position]? with
  | none =>
      rw [Option.map_none, List.getElem?_eq_none_iff, length_ranks]
      exact List.getElem?_eq_none_iff.mp found
  | some x => rw [getElem?_ranks found, countP_eq_take_of_nodup apart found, Nat.add_zero, Option.map_some]

/-! ## Numbers that were rearranged -/

section Rearranged

variable {count : Nat} {positions : List Nat}

theorem ranks_map {f : Nat → Int} (perm : positions.Perm (List.range count))
    (apart : ∀ i < count, ∀ j < count, f i = f j → i = j) : ranks (positions.map f) =
      positions.map fun i => 1 + (List.range count).countP fun j => decide (f j < f i) := by
  have distinct : positions.Nodup := perm.nodup_iff.mpr List.nodup_range
  have small {j : Nat} (member : j ∈ positions) : j < count := List.mem_range.mp (perm.mem_iff.mp member)
  have apart' : (positions.map f).Nodup :=
    distinct.map_on fun i member j member' => apart i (small member) j (small member')
  rw [ranks_of_nodup apart', List.map_map]
  apply List.map_congr_left
  intro i _
  rw [Function.comp_apply, List.countP_map, perm.countP_eq]
  rfl

theorem countP_range_below (count i : Nat) : (List.range count).countP (fun j => decide (j < i)) = min count i := by
  induction count with
  | zero => exact (Nat.zero_min i).symm
  | succ count ih =>
      rw [List.range_succ, List.countP_append, ih, List.countP_singleton]
      simp only [decide_eq_true_eq]
      split <;> omega

theorem countP_range_above (count i : Nat) :
    (List.range count).countP (fun j => decide (i < j)) = count - (i + 1) := by
  induction count with
  | zero => exact (Nat.zero_sub (i + 1)).symm
  | succ count ih =>
      rw [List.range_succ, List.countP_append, ih, List.countP_singleton]
      simp only [decide_eq_true_eq]
      split <;> omega

/-- Rearranged numbers are ranked by the positions that they came from, from the front or from the back. -/
theorem ranks_rearranged (perm : positions.Perm (List.range count)) (ascending : Bool) :
    ranks (positions.map (numberAt ascending count)) =
      positions.map fun i => if ascending then i + 1 else count - i := by
  have apart : ∀ i < count, ∀ j < count, numberAt ascending count i = numberAt ascending count j → i = j := by
    intro i insideI j insideJ same
    unfold numberAt at same
    have same := Int.ofNat.inj same
    split at same <;> omega
  rw [ranks_map perm apart]
  apply List.map_congr_left
  intro i member
  have inside : i < count := List.mem_range.mp (perm.mem_iff.mp member)
  cases ascending with
  | true =>
      have same : ∀ j ∈ List.range count, decide (numberAt true count j < numberAt true count i) = true ↔
          decide (j < i) = true := by
        intro j _
        simp [numberAt]
      rw [List.countP_congr same, countP_range_below, if_pos rfl]
      omega
  | false =>
      have same : ∀ j ∈ List.range count, decide (numberAt false count j < numberAt false count i) = true ↔
          decide (i < j) = true := by
        intro j member
        have inside' := List.mem_range.mp member
        simp only [numberAt, decide_eq_true_eq, Bool.false_eq_true, if_false, Int.ofNat_eq_natCast, Nat.cast_lt]
        omega
      rw [List.countP_congr same, countP_range_above, if_neg Bool.false_ne_true]
      omega

/-- How far ranks are apart does not depend on the order that the numbers had. -/
theorem rankDistances_rearranged (perm : positions.Perm (List.range count)) (ascending : Bool) :
    rankDistances ((List.range count).map (numberAt ascending count))
        (positions.map (numberAt ascending count)) =
      ((List.range count).zip positions).map fun (i, j) => (i - j) + (j - i) := by
  unfold rankDistances
  rw [ranks_rearranged .rfl, ranks_rearranged perm, List.zip_map, List.map_map]
  apply List.map_congr_left
  rintro ⟨i, j⟩ member
  have inside := List.mem_range.mp (List.of_mem_zip member).1
  have inside' := List.mem_range.mp (perm.mem_iff.mp (List.of_mem_zip member).2)
  simp only [Function.comp_apply, Prod.map_apply]
  cases ascending with
  | true =>
      rw [if_pos rfl, if_pos rfl]
      omega
  | false =>
      rw [if_neg Bool.false_ne_true, if_neg Bool.false_ne_true]
      omega

/-- Swaps and Spearman's correlation are recorded alike for both orders. -/
theorem Metric.measure_rearranged {metric : Metric} (rank : metric ≠ .kendall)
    (perm : positions.Perm (List.range count)) (swaps : Nat) :
    metric.measure ((List.range count).map (numberAt true count)) (positions.map (numberAt true count)) swaps =
      metric.measure ((List.range count).map (numberAt false count)) (positions.map (numberAt false count)) swaps := by
  cases metric with
  | swaps => rfl
  | spearman =>
      unfold Metric.measure Spearman.rho
      rw [rankDistances_rearranged perm, rankDistances_rearranged perm]
      simp only [List.length_map]
  | kendall => exact absurd rfl rank

end Rearranged

end QuicksortStudy
