import Mathlib
import QuicksortStudy.Proofs.Metric.Ranks

/-!
# Rank correlations see only the order

Ranks stay the same when the elements are replaced by others in the same order.  Without equal elements a rank is
known from the element alone, so the distances of two lists that are rearranged together are the same distances,
rearranged.  Equal elements are ranked by where they stand, so with them a rearrangement can make a difference.
-/

namespace QuicksortStudy

/-! ## Other elements in the same order -/

theorem ranks_map_of_strictMonoOn {f : Int → Int} {xs : List Int} (rising : StrictMonoOn f {x | x ∈ xs}) :
    ranks (xs.map f) = ranks xs := by
  apply List.ext_getElem?
  intro position
  cases found : xs[position]? with
  | none =>
      have beyond := List.getElem?_eq_none_iff.mp found
      rw [List.getElem?_eq_none_iff.mpr (by rwa [length_ranks, List.length_map]),
        List.getElem?_eq_none_iff.mpr (by rwa [length_ranks])]
  | some x =>
      have member := List.mem_of_getElem? found
      have found' : (xs.map f)[position]? = some (f x) := by rw [List.getElem?_map, found, Option.map_some]
      have smaller : xs.countP ((fun y => decide (y < f x)) ∘ f) = xs.countP fun y => decide (y < x) := by
        refine List.countP_congr fun y member' => ?_
        rw [Function.comp_apply, decide_eq_true_eq, decide_eq_true_eq, rising.lt_iff_lt member' member]
      have earlier : (xs.take position).countP ((fun y => decide (y = f x)) ∘ f) =
          (xs.take position).countP fun y => decide (y = x) := by
        refine List.countP_congr fun y member' => ?_
        rw [Function.comp_apply, decide_eq_true_eq, decide_eq_true_eq,
          rising.injOn.eq_iff (List.mem_of_mem_take member') member]
      rw [getElem?_ranks found', getElem?_ranks found, ← List.map_take, List.countP_map, List.countP_map, smaller,
        earlier]

/-! ## Exchanged lists -/

theorem rankDistances_comm (xs ys : List Int) : rankDistances xs ys = rankDistances ys xs := by
  unfold rankDistances
  rw [← List.zip_swap, List.map_map]
  apply List.map_congr_left
  rintro ⟨rank, rank'⟩ _
  exact Nat.add_comm _ _

/-! ## Lists that are rearranged together -/

/-- The elements of a list at some positions. -/
def elementsAt {α : Type} (positions : List Nat) (xs : List α) : List α := positions.filterMap (xs[·]?)

theorem elementsAt_cons {α : Type} {position : Nat} (positions : List Nat) {xs : List α} {x : α}
    (found : xs[position]? = some x) : elementsAt (position :: positions) xs = x :: elementsAt positions xs :=
  List.filterMap_cons_some found

theorem elementsAt_range {α : Type} (xs : List α) : elementsAt (List.range xs.length) xs = xs := by
  induction xs with
  | nil => rfl
  | cons x xs ih =>
      rw [List.length_cons, List.range_succ_eq_map, elementsAt_cons _ List.getElem?_cons_zero]
      congr 1
      unfold elementsAt at ih ⊢
      rw [List.filterMap_map]
      exact ih

theorem elementsAt_perm {α : Type} {positions : List Nat} {xs : List α}
    (perm : positions.Perm (List.range xs.length)) : (elementsAt positions xs).Perm xs := by
  have moved := perm.filterMap (xs[·]?)
  rwa [← elementsAt, ← elementsAt, elementsAt_range] at moved

/-- Taking pairs at some positions means to take both elements there. -/
theorem zip_elementsAt {α β : Type} {positions : List Nat} {xs : List α} {ys : List β}
    (inside : ∀ position ∈ positions, position < xs.length) (same : xs.length = ys.length) :
    (elementsAt positions xs).zip (elementsAt positions ys) = elementsAt positions (xs.zip ys) := by
  induction positions with
  | nil => rfl
  | cons position rest ih =>
      obtain ⟨here, others⟩ := List.forall_mem_cons.mp inside
      obtain ⟨x, found⟩ : ∃ x, xs[position]? = some x := ⟨_, List.getElem?_eq_getElem here⟩
      obtain ⟨y, found'⟩ : ∃ y, ys[position]? = some y := ⟨_, List.getElem?_eq_getElem (same ▸ here)⟩
      have both : (xs.zip ys)[position]? = some (x, y) := List.getElem?_zip_eq_some.mpr ⟨found, found'⟩
      rw [elementsAt_cons rest found, elementsAt_cons rest found', elementsAt_cons rest both, List.zip_cons_cons,
        ih others]

theorem rankDistances_of_nodup {xs ys : List Int} (apart : xs.Nodup) (apart' : ys.Nodup) :
    rankDistances xs ys = (xs.zip ys).map fun p =>
      (1 + xs.countP fun x => decide (x < p.1)).dist (1 + ys.countP fun y => decide (y < p.2)) := by
  unfold rankDistances
  rw [ranks_of_nodup apart, ranks_of_nodup apart', List.zip_map, List.map_map]
  rfl

/-- Pairs of elements that are rearranged keep their distances. -/
theorem squaredRankDistance_of_perm {xs ys xs' ys' : List Int} (apart : xs.Nodup) (apart' : ys.Nodup)
    (perm : xs'.Perm xs) (perm' : ys'.Perm ys) (pairs : (xs'.zip ys').Perm (xs.zip ys)) :
    squaredRankDistance xs' ys' = squaredRankDistance xs ys := by
  rw [squaredRankDistance_eq, squaredRankDistance_eq,
    rankDistances_of_nodup (perm.nodup_iff.mpr apart) (perm'.nodup_iff.mpr apart'),
    rankDistances_of_nodup apart apart']
  simp only [perm.countP_eq, perm'.countP_eq]
  exact ((pairs.map _).map _).sum_eq

/-- Equal elements are ranked by where they stand, so here the distances depend on the positions. -/
example : squaredRankDistance [0, 0] [0, 1] = 0 ∧ squaredRankDistance [0, 0] [1, 0] = 2 := by cbv

namespace Spearman

theorem rho_comm (xs ys : List Int) : rho xs ys = rho ys xs := by
  unfold rho
  rw [rankDistances_comm]
  by_cases same : xs.length = ys.length
  · rw [same]
  · rw [if_pos (.inl same), if_pos (.inl (Ne.symm same))]

theorem rho_map {f g : Int → Int} {xs ys : List Int} (rising : StrictMonoOn f {x | x ∈ xs})
    (rising' : StrictMonoOn g {y | y ∈ ys}) : rho (xs.map f) (ys.map g) = rho xs ys := by
  unfold rho rankDistances
  rw [ranks_map_of_strictMonoOn rising, ranks_map_of_strictMonoOn rising', List.length_map, List.length_map]

/-- The correlation does not tell two lists apart, sees only the order of their elements, and without equal elements
only depends on which elements stand together. -/
theorem rho_sees_order (xs ys : List Int) :
    rho xs ys = rho ys xs ∧
      (∀ f g : Int → Int, StrictMonoOn f {x | x ∈ xs} → StrictMonoOn g {y | y ∈ ys} →
        rho (xs.map f) (ys.map g) = rho xs ys) ∧
      (xs.length = ys.length → xs.Nodup → ys.Nodup →
        ∀ positions : List Nat, positions.Perm (List.range xs.length) →
          squaredRankDistance (elementsAt positions xs) (elementsAt positions ys) = squaredRankDistance xs ys) := by
  refine ⟨rho_comm xs ys, fun f g => rho_map, fun same apart apart' positions perm => ?_⟩
  have inside : ∀ position ∈ positions, position < xs.length :=
    fun position member => List.mem_range.mp (perm.mem_iff.mp member)
  have perm' : positions.Perm (List.range ys.length) := same ▸ perm
  have pairs : ((elementsAt positions xs).zip (elementsAt positions ys)).Perm (xs.zip ys) := by
    rw [zip_elementsAt inside same]
    apply elementsAt_perm
    rwa [List.length_zip, same, Nat.min_self]
  exact squaredRankDistance_of_perm apart apart' (elementsAt_perm perm) (elementsAt_perm perm') pairs

/-- Squares rise on elements that are not negative, and the last elements are moved to the front. -/
theorem rho_sees_order_threeElements :
    StrictMonoOn (fun x : Int => x * x) {x | x ∈ [30, 10, 20]} ∧
      StrictMonoOn (fun y : Int => y - 7) {y | y ∈ [1, 3, 2]} ∧
      ([30, 10, 20] : List Int).length = ([1, 3, 2] : List Int).length ∧
      ([30, 10, 20] : List Int).Nodup ∧ ([1, 3, 2] : List Int).Nodup ∧ [2, 0, 1].Perm (List.range 3) ∧
      rho [30, 10, 20] [1, 3, 2] = rho [1, 3, 2] [30, 10, 20] ∧
      rho [900, 100, 400] [-6, -4, -5] = rho [30, 10, 20] [1, 3, 2] ∧
      squaredRankDistance [20, 30, 10] [2, 1, 3] = squaredRankDistance [30, 10, 20] [1, 3, 2] := by
  have rising : StrictMonoOn (fun x : Int => x * x) {x | x ∈ [30, 10, 20]} := by
    intro x member y member' less
    have positive : ∀ x ∈ ([30, 10, 20] : List Int), 0 ≤ x := by decide
    exact Int.mul_self_lt_mul_self (positive x member) less
  have rising' : StrictMonoOn (fun y : Int => y - 7) {y | y ∈ [1, 3, 2]} :=
    fun x _ y _ less => Int.sub_lt_sub_right less 7
  have same : ([30, 10, 20] : List Int).length = ([1, 3, 2] : List Int).length := rfl
  have apart : ([30, 10, 20] : List Int).Nodup := by decide
  have apart' : ([1, 3, 2] : List Int).Nodup := by decide
  have perm : [2, 0, 1].Perm (List.range 3) := by decide
  have squares : ([30, 10, 20] : List Int).map (fun x => x * x) = [900, 100, 400] := rfl
  have lowered : ([1, 3, 2] : List Int).map (fun y => y - 7) = [-6, -4, -5] := rfl
  have moved : elementsAt [2, 0, 1] ([30, 10, 20] : List Int) = [20, 30, 10] := rfl
  have moved' : elementsAt [2, 0, 1] ([1, 3, 2] : List Int) = [2, 1, 3] := rfl
  obtain ⟨exchanged, mapped, together⟩ := rho_sees_order [30, 10, 20] [1, 3, 2]
  have replaced := mapped _ _ rising rising'
  have rearranged := together same apart apart' [2, 0, 1] perm
  rw [squares, lowered] at replaced
  rw [moved, moved'] at rearranged
  exact ⟨rising, rising', same, apart, apart', perm, exchanged, replaced, rearranged⟩

end Spearman

end QuicksortStudy
