import Mathlib
import QuicksortStudy.Proofs.Metric.Ranks

/-!
# The stable ranking

The positions in order are all positions, each of them once.  So every rank that is written over the zeros has a place,
no rank is written over another one, and what stands there in the end is the rank of each element.  A rank says how many
elements come before its own: all smaller ones, and of the equal ones those that stand earlier.
-/

namespace QuicksortStudy

/-! ## Writing at positions -/

/-- Numbers after ranks were written at some positions, counted from `next` on: each position has its rank, and all
other ones have the number that they had. -/
structure Written (numbers : Array Nat) (next : Nat) (positions : List Nat) (written : Array Nat) : Prop where
  size : written.size = numbers.size
  rank : ∀ index position, positions[index]? = some position → written[position]? = some (next + index)
  other : ∀ position, position ∉ positions → written[position]? = numbers[position]?

theorem exists_written_at {numbers : Array Nat} {positions : List Nat} (next : Nat)
    (inside : ∀ position ∈ positions, position < numbers.size) (apart : positions.Nodup) :
    ∃ written, writeRanks? numbers next positions = some written ∧ Written numbers next positions written := by
  induction positions generalizing numbers next with
  | nil =>
      refine ⟨numbers, rfl, rfl, fun index position found => ?_, fun _ _ => rfl⟩
      cases found
  | cons position rest ih =>
      have here := inside position List.mem_cons_self
      obtain ⟨fresh, apart⟩ := List.nodup_cons.mp apart
      have inside' : ∀ other ∈ rest, other < (numbers.set position next here).size := fun other member =>
        (Array.size_set here).symm ▸ inside other (List.mem_cons_of_mem position member)
      obtain ⟨written, writes, size, rank, other⟩ := ih (next + 1) inside' apart
      refine ⟨written, (dif_pos here).trans writes, size.trans (Array.size_set here), ?_, ?_⟩
      · intro index place found
        cases index with
        | zero =>
            -- Nothing is written here again, as the position does not come back.
            cases found
            rw [other position fresh, Array.getElem?_set_self here, Nat.add_zero]
        | succ index =>
            rw [rank index place found, Nat.add_assoc, Nat.add_comm 1 index]
      · intro place absent
        obtain ⟨elsewhere, absent⟩ := not_or.mp (mt List.mem_cons.mpr absent)
        rw [other place absent, Array.getElem?_set_ne here fun same => elsewhere same.symm]

/-- Writing the ranks never breaks off, and leaves the ranks. -/
theorem ranksInPlace?_eq (xs : List Int) : ranksInPlace? xs = some (ranks xs) := by
  have perm := sortedPositions_perm xs
  have inside : ∀ position ∈ sortedPositions xs, position < (Array.replicate xs.length 0).size := by
    intro position member
    rw [Array.size_replicate]
    exact List.mem_range.mp (perm.mem_iff.mp member)
  obtain ⟨written, writes, size, rank, -⟩ := exists_written_at 1 inside (perm.nodup_iff.mpr List.nodup_range)
  rw [Array.size_replicate] at size
  unfold ranksInPlace?
  rw [writes, Option.map_some, Option.some.injEq]
  apply List.ext_getElem?
  intro position
  rw [Array.getElem?_toList]
  cases found : (ranks xs)[position]? with
  | none =>
      rw [List.getElem?_eq_none_iff, length_ranks] at found
      exact Array.getElem?_eq_none (size ▸ found)
  | some value =>
      obtain ⟨index, x, isRank, isSorted, -⟩ := getElem?_sortedEntries_of_rank found
      have atIndex : (sortedPositions xs)[index]? = some position := by
        change ((sortedEntries xs).map Prod.snd)[index]? = some position
        rw [List.getElem?_map, isSorted, Option.map_some]
      rw [rank index position atIndex, isRank, Nat.add_comm]

/-! ## Counting positions -/

theorem zipIdx_eq_map_finRange (xs : List Int) :
    xs.zipIdx = (List.finRange xs.length).map fun i => (xs[i], i.val) := by
  apply List.ext_getElem
  · rw [List.length_zipIdx, List.length_map, List.length_finRange]
  · intro position inside inside'
    rw [List.getElem_zipIdx, List.getElem_map, List.getElem_finRange, Nat.zero_add]
    rfl

/-- Positions are counted by counting the elements with their positions. -/
theorem card_positions (xs : List Int) (p : Int × Nat → Prop) [DecidablePred p] :
    (Finset.univ.filter fun i : Fin xs.length => p (xs[i], i.val)).card =
      xs.zipIdx.countP (fun entry => decide (p entry)) := by
  rw [zipIdx_eq_map_finRange, List.countP_map, List.countP_eq_length_filter]
  rfl

theorem card_smaller (xs : List Int) (x : Int) :
    (Finset.univ.filter fun i : Fin xs.length => xs[i] < x).card = xs.countP (fun y => decide (y < x)) := by
  have fst := List.countP_map (p := fun y => decide (y < x)) (f := Prod.fst) (l := xs.zipIdx)
  rw [List.zipIdx_map_fst] at fst
  exact (card_positions xs fun entry => entry.1 < x).trans fst.symm

theorem card_equal_before (xs : List Int) (x : Int) (position : Nat) :
    (Finset.univ.filter fun i : Fin xs.length => i.val < position ∧ xs[i] = x).card =
      (xs.take position).countP (fun y => decide (y = x)) := by
  have earlier := countP_earlier xs x position 0
  rw [Nat.zero_add] at earlier
  rw [card_positions xs fun entry => entry.2 < position ∧ entry.1 = x, ← earlier]
  simp only [and_comm]

/-! ## The ranking -/

/-- The ranks of any list can be written in place, one for each element.  The rank of an element is one more than the
number of smaller elements and of equal elements that stand earlier.  So the ranks are the numbers from one on, also
where elements are equal. -/
theorem ranks_stable (xs : List Int) :
    ranksInPlace? xs = some (ranks xs) ∧ (ranks xs).length = xs.length ∧
      (∀ i : Fin xs.length, (ranks xs)[i.val]? =
        some (1 + (Finset.univ.filter fun j : Fin xs.length => xs[j] < xs[i]).card +
          (Finset.univ.filter fun j : Fin xs.length => j < i ∧ xs[j] = xs[i]).card)) ∧
      (ranks xs).Perm (List.range' 1 xs.length) := by
  refine ⟨ranksInPlace?_eq xs, length_ranks xs, fun i => ?_, ranks_perm xs⟩
  have smaller := card_smaller xs xs[i]
  have equal := card_equal_before xs xs[i] i.val
  have counted := getElem?_ranks (List.getElem?_eq_getElem i.isLt)
  rw [← Nat.add_assoc] at counted
  rw [counted, smaller]
  congr 2
  exact equal.symm

end QuicksortStudy
