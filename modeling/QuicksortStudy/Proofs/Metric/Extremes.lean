import Mathlib
import QuicksortStudy.Proofs.Binary64.LowerBounds
import QuicksortStudy.Proofs.Metric.Ranks

/-!
# How large rank correlations are

The distance of two ranks is set against how far they are from being opposite, that is from adding up to one more than
there are elements.  The squares of both together only depend on how many elements there are, since the ranks are the
numbers from one on.  So the rank correlation is largest where all distances are zero and smallest where all ranks are
opposite.
-/

namespace QuicksortStudy

/-! ## Sums of squares -/

theorem natCast_dist_mul_self (a b : Nat) : ((a.dist b * a.dist b : Nat) : Int) = ((a : Int) - b) ^ 2 := by
  rcases Nat.le_total a b with le | le
  · rw [Nat.dist_eq_sub_of_le le, Nat.cast_mul, Nat.cast_sub le]
    ring
  · rw [Nat.dist_eq_sub_of_le_right le, Nat.cast_mul, Nat.cast_sub le]
    ring

theorem sum_mul_self_eq_zero_iff {distances : List Nat} :
    (distances.map fun d => d * d).sum = 0 ↔ ∀ d ∈ distances, d = 0 := by
  simp [List.sum_eq_zero_iff]

/-- What one rank adds to the squares of all differences and all sums. -/
def squareShare (middle : Int) (rank : Nat) : Int := 2 * (rank : Int) ^ 2 - 2 * middle * rank

/-- The square of a difference and the square of how far the sum is from a middle are a share of each number. -/
theorem sum_squares {ranks ranks' : List Nat} (same : ranks.length = ranks'.length) (middle : Nat) :
    ((((ranks.zip ranks').map fun p => p.1.dist p.2 * p.1.dist p.2).sum : Nat) : Int) +
        (((ranks.zip ranks').map fun p => (p.1 + p.2).dist middle * (p.1 + p.2).dist middle).sum : Nat) =
      (ranks.map (squareShare middle)).sum + (ranks'.map (squareShare middle)).sum +
        ranks.length * (middle : Int) ^ 2 := by
  induction ranks generalizing ranks' with
  | nil =>
      cases ranks' with
      | nil => simp
      | cons rank' rest' => cases same
  | cons rank rest ih =>
      cases ranks' with
      | nil => cases same
      | cons rank' rest' =>
          have others := ih (Nat.succ.inj same)
          simp only [List.zip_cons_cons, List.map_cons, List.sum_cons, List.length_cons, Nat.cast_add,
            natCast_dist_mul_self, squareShare, Nat.cast_one] at others ⊢
          linarith

/-- The shares of the numbers from one up to a count. -/
theorem sum_squareShare (middle : Int) (count : Nat) :
    3 * ((List.range' 1 count).map (squareShare middle)).sum =
      count * (count + 1) * (2 * count + 1) - 3 * middle * count * (count + 1) := by
  induction count with
  | zero => simp
  | succ count ih =>
      rw [List.range'_1_concat, List.map_append, List.sum_append, Int.mul_add, ih]
      simp only [List.map_cons, List.map_nil, List.sum_cons, List.sum_nil, squareShare]
      push_cast
      ring

/-! ## Distances and opposite ranks -/

theorem forall_mem_zip_iff {α β : Type} {as : List α} {bs : List β} {P : α → β → Prop} :
    (∀ p ∈ as.zip bs, P p.1 p.2) ↔
      ∀ {position : Nat} {a : α} {b : β}, as[position]? = some a → bs[position]? = some b → P a b := by
  constructor
  · intro each position a b found found'
    exact each (a, b) (List.mem_of_getElem? (List.getElem?_zip_eq_some.mpr ⟨found, found'⟩))
  · rintro each ⟨a, b⟩ member
    obtain ⟨position, inside⟩ := List.mem_iff_getElem?.mp member
    obtain ⟨found, found'⟩ := List.getElem?_zip_eq_some.mp inside
    exact each found found'

/-- How far the ranks of two lists are from being opposite, position by position. -/
def oppositeDistances (xs ys : List Int) : List Nat :=
  ((ranks xs).zip (ranks ys)).map fun (rank, rank') => (rank + rank').dist (xs.length + 1)

/-- The sum of the squared distances to opposite ranks. -/
def squaredOppositeDistance (xs ys : List Int) : Nat := ((oppositeDistances xs ys).map fun d => d * d).sum

theorem squaredOppositeDistance_eq_zero_iff {xs ys : List Int} : squaredOppositeDistance xs ys = 0 ↔
    ∀ {position rank rank' : Nat}, (ranks xs)[position]? = some rank → (ranks ys)[position]? = some rank' →
      rank + rank' = xs.length + 1 := by
  rw [squaredOppositeDistance, sum_mul_self_eq_zero_iff, oppositeDistances, List.forall_mem_map]
  refine (forall_mem_zip_iff (P := fun rank rank' : Nat => (rank + rank').dist (xs.length + 1) = 0)).trans ?_
  constructor
  · intro zero position rank rank' found found'
    exact Nat.eq_of_dist_eq_zero (zero found found')
  · intro opposite position rank rank' found found'
    rw [opposite found found', Nat.dist_self]

section EquallyLong

variable {xs ys : List Int} (same : xs.length = ys.length)

include same

theorem squaredRankDistance_eq_zero_iff : squaredRankDistance xs ys = 0 ↔ ranks xs = ranks ys := by
  rw [squaredRankDistance_eq, sum_mul_self_eq_zero_iff, rankDistances, List.forall_mem_map]
  refine (forall_mem_zip_iff (P := fun rank rank' : Nat => rank.dist rank' = 0)).trans ?_
  constructor
  · intro zero
    apply List.ext_getElem
    · rw [length_ranks, length_ranks, same]
    · intro position inside inside'
      exact Nat.eq_of_dist_eq_zero (zero (List.getElem?_eq_getElem inside) (List.getElem?_eq_getElem inside'))
  · intro equal position rank rank' found found'
    cases (equal ▸ found).symm.trans found'
    exact Nat.dist_self rank

/-- The squared distances to equal and to opposite ranks together only depend on the number of elements. -/
theorem squaredRankDistance_add_opposite :
    3 * (squaredRankDistance xs ys + squaredOppositeDistance xs ys : Int) =
      xs.length * ((xs.length : Int) ^ 2 - 1) := by
  have lengths : (ranks xs).length = (ranks ys).length := by rw [length_ranks, length_ranks, same]
  have total := sum_squares lengths (xs.length + 1)
  -- The ranks of both lists are the same numbers, so their shares have the same sum.
  have share := ((ranks_perm xs).map (squareShare (xs.length + 1 : Nat))).sum_eq
  have share' := ((ranks_perm ys).map (squareShare (xs.length + 1 : Nat))).sum_eq
  have closed := sum_squareShare (xs.length + 1 : Nat) xs.length
  rw [share, share', ← same, length_ranks] at total
  rw [squaredRankDistance_eq, squaredOppositeDistance, rankDistances, oppositeDistances, List.map_map, List.map_map]
  refine (congrArg (3 * ·) total).trans ?_
  push_cast at closed ⊢
  linear_combination 2 * closed

end EquallyLong

/-! ## The correlation -/

namespace Spearman

/-- Spearman's rank correlation without any rounding. -/
def exactRho (xs ys : List Int) : ℚ :=
  1 - 6 * squaredRankDistance xs ys / (xs.length * ((xs.length : ℚ) ^ 2 - 1))

/-- The correlation weighs the two kinds of distances against each other. -/
theorem exactRho_eq {xs ys : List Int} (same : xs.length = ys.length) (long : 2 ≤ xs.length) :
    (0 : ℚ) < squaredOppositeDistance xs ys + squaredRankDistance xs ys ∧
    exactRho xs ys = (squaredOppositeDistance xs ys - squaredRankDistance xs ys : ℚ) /
      (squaredOppositeDistance xs ys + squaredRankDistance xs ys) := by
  have total : 3 * (squaredRankDistance xs ys + squaredOppositeDistance xs ys : ℚ) =
      xs.length * ((xs.length : ℚ) ^ 2 - 1) := by
    exact_mod_cast squaredRankDistance_add_opposite same
  have several : (2 : ℚ) ≤ xs.length := by exact_mod_cast long
  have positive : (0 : ℚ) < xs.length * ((xs.length : ℚ) ^ 2 - 1) := by nlinarith
  have both : (0 : ℚ) < squaredOppositeDistance xs ys + squaredRankDistance xs ys := by linarith
  refine ⟨both, ?_⟩
  rw [exactRho, ← total, eq_div_iff both.ne', add_comm (squaredRankDistance xs ys : ℚ), sub_mul, div_mul_eq_mul_div,
    mul_div_mul_right _ _ both.ne']
  ring

/-- How large Spearman's correlation is: from minus one for opposite ranks to one for equal ranks. -/
structure Extremes (xs ys : List Int) : Prop where
  bound : 3 * (squaredRankDistance xs ys : Int) ≤ xs.length * ((xs.length : Int) ^ 2 - 1)
  least : -1 ≤ exactRho xs ys
  most : exactRho xs ys ≤ 1
  equal : exactRho xs ys = 1 ↔ ranks xs = ranks ys
  opposite : exactRho xs ys = -1 ↔ ∀ {position rank rank' : Nat}, (ranks xs)[position]? = some rank →
    (ranks ys)[position]? = some rank' → rank + rank' = xs.length + 1

theorem extremes {xs ys : List Int} (same : xs.length = ys.length) (long : 2 ≤ xs.length) : Extremes xs ys := by
  obtain ⟨both, rho⟩ := exactRho_eq same long
  have some : (0 : ℚ) ≤ squaredRankDistance xs ys := Nat.cast_nonneg _
  have some' : (0 : ℚ) ≤ squaredOppositeDistance xs ys := Nat.cast_nonneg _
  constructor
  case bound =>
      have total := squaredRankDistance_add_opposite same
      omega
  case least =>
      rw [rho, le_div_iff₀ both]
      linarith
  case most =>
      rw [rho, div_le_iff₀ both]
      linarith
  case equal =>
      rw [← squaredRankDistance_eq_zero_iff same, rho, div_eq_iff both.ne', ← Nat.cast_eq_zero (R := ℚ)]
      constructor <;> intro zero <;> linarith
  case opposite =>
      rw [← squaredOppositeDistance_eq_zero_iff, rho, div_eq_iff both.ne', ← Nat.cast_eq_zero (R := ℚ)]
      constructor <;> intro zero <;> linarith

/-! ## A list with itself -/

theorem rho_eq_none_iff {xs ys : List Int} : rho xs ys = none ↔ xs.length ≠ ys.length ∨ xs.length < 2 := by
  unfold rho
  split
  · next either => exact ⟨fun _ => either, fun _ => rfl⟩
  · next neither => exact ⟨fun impossible => (by cases impossible), fun either => absurd either neither⟩

theorem mem_rankDistances_self {xs : List Int} {d : Nat} (member : d ∈ rankDistances xs xs) : d = 0 := by
  have zero := (squaredRankDistance_eq_zero_iff (Eq.refl xs.length)).mpr rfl
  rw [squaredRankDistance_eq, sum_mul_self_eq_zero_iff] at zero
  exact zero d member

/-- Distances that are all zero have a sum of zero, without any rounding. -/
theorem sum_of_zeros {distances : List Nat} (zeros : ∀ d ∈ distances, d = 0) :
    distances.foldl (fun sum d => let d := Binary64.ofNat d; sum + d * d) 0.0 = 0.0 := by
  induction distances with
  | nil => rfl
  | cons d rest ih =>
      have step : 0.0 + Binary64.ofNat 0 * Binary64.ofNat 0 = 0.0 := by decide +kernel
      obtain ⟨rfl, others⟩ := List.forall_mem_cons.mp zeros
      rw [List.foldl_cons]
      dsimp only
      rw [step]
      exact ih others

/-- The divisor in the correlation of several elements is at least six, and infinite for very many of them. -/
theorem atLeast_divisor {count : Nat} (several : 2 ≤ count) :
    Binary64.AtLeast (Binary64.magnitude 6.0)
      (Binary64.ofNat count * (Binary64.ofNat count * Binary64.ofNat count - 1.0)) := by
  have one : Binary64.Between (Binary64.magnitude 1.0) (Binary64.magnitude 1.0) 1.0 :=
    .literal (by decide +kernel) (by decide +kernel)
  have two := Binary64.AtLeast.ofNat several
  have four := two.mul two (by decide +kernel) (by decide +kernel)
  have three := four.sub one (by decide +kernel)
  exact (two.mul three (by decide +kernel) (by decide +kernel)).weaken (by decide +kernel)

theorem rho_self {xs : List Int} (long : 2 ≤ xs.length) : rho xs xs = some 1.0 := by
  have numerator : 6.0 * 0.0 = (0.0 : Float) := by decide +kernel
  have difference : 1.0 - 0.0 = (1.0 : Float) := by decide +kernel
  have several : ¬(xs.length ≠ xs.length ∨ xs.length < 2) := by omega
  unfold rho
  rw [if_neg several, sum_of_zeros fun d => mem_rankDistances_self]
  dsimp only
  rw [numerator, (atLeast_divisor long).zero_div (by decide +kernel), difference]

/-- There is a correlation of equally long lists of several elements; it is largest for equal ranks, as for a list
with itself, and smallest for opposite ones. -/
theorem rho_bounded (xs ys : List Int) :
    (rho xs ys = none ↔ xs.length ≠ ys.length ∨ xs.length < 2) ∧
      (xs.length = ys.length → 2 ≤ xs.length → Extremes xs ys) ∧ (2 ≤ xs.length → rho xs xs = some 1.0) :=
  ⟨rho_eq_none_iff, extremes, rho_self⟩

/-- Two equal elements, and a list whose ranks are opposite to theirs. -/
theorem rho_bounded_opposite :
    [5, 5, -3, 9].length = [7, 0, 8, -9].length ∧ 2 ≤ [5, 5, -3, 9].length ∧
      Extremes [5, 5, -3, 9] [7, 0, 8, -9] ∧ exactRho [5, 5, -3, 9] [7, 0, 8, -9] = -1 ∧
      rho [5, 5, -3, 9] [5, 5, -3, 9] = some 1.0 := by
  have same : [5, 5, -3, 9].length = [7, 0, 8, -9].length := rfl
  have long : 2 ≤ [5, 5, -3, 9].length := by decide
  have isRanks : ranks [5, 5, -3, 9] = [2, 3, 1, 4] := by cbv
  have isRanks' : ranks [7, 0, 8, -9] = [3, 2, 4, 1] := by cbv
  obtain ⟨-, bounded, itself⟩ := rho_bounded [5, 5, -3, 9] [7, 0, 8, -9]
  have bounds := bounded same long
  refine ⟨same, long, bounds, bounds.opposite.mpr ?_, itself long⟩
  rw [isRanks, isRanks']
  exact (forall_mem_zip_iff (P := fun rank rank' : Nat => rank + rank' = 5)).mp (by decide)

end Spearman

end QuicksortStudy
