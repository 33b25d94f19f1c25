import Mathlib
import QuicksortStudy.Proofs.Chart.Strips
import QuicksortStudy.Proofs.Samples.BlockEnds

/-!
# The curves along the rim

The worst curve joins the first rows of the blocks and the best curve the last rows of the full ones.  Both
run along the rim of the surface: each segment is a side of exactly one triangle, which stands at a known
place in the list.
-/

namespace QuicksortStudy

namespace Mesh

/-! ## Edges of the curves -/

theorem countP_joins_comm (triangles : List (Triangle Nat)) (a b : Nat) :
    triangles.countP (·.joins a b) = triangles.countP (·.joins b a) := by
  congr 1
  funext t
  unfold Triangle.joins
  rw [Bool.or_comm]

/-- The first rows of two blocks are joined by one triangle. -/
theorem countP_firstRows {size rows block : Nat} (positive : 0 < size) (inside : 1 < common size rows block) :
    (positions size rows).countP (·.joins (block * size) ((block + 1) * size)) = 1 := by
  have here : cell size (block * size) = (block, 0) := cell_position (x := (block, 0)) positive
  have there : cell size ((block + 1) * size) = (block + 1, 0) := cell_position (x := (block + 1, 0)) positive
  rw [countP_joins_comm]
  apply countP_joins_eq_one (nodup_edges_positions positive rows)
  · rw [mem_edges_positions positive, here, there]
    exact (mem_blocks_back positive rows block 0).mpr inside
  · rw [mem_edges_positions positive, here, there]
    exact fun edge => Nat.lt_irrefl 0 ((mem_blocks_up positive rows block 0).mp edge).1

/-- The last rows of two full blocks are joined by one triangle. -/
theorem countP_lastRows {size rows block : Nat} (two : 2 ≤ size) (full : common size rows block = size) :
    (positions size rows).countP (·.joins (block * size + (size - 1)) ((block + 1) * size + (size - 1))) = 1 := by
  have positive : 0 < size := Nat.lt_of_lt_of_le Nat.two_pos two
  have last : size - 1 < size := Nat.sub_lt positive Nat.one_pos
  have here : cell size (block * size + (size - 1)) = (block, size - 1) :=
    cell_position (x := (block, size - 1)) last
  have there : cell size ((block + 1) * size + (size - 1)) = (block + 1, size - 1) :=
    cell_position (x := (block + 1, size - 1)) last
  apply countP_joins_eq_one (nodup_edges_positions positive rows)
  · rw [mem_edges_positions positive, here, there]
    exact (mem_blocks_up positive rows block (size - 1)).mpr ⟨by omega, by omega⟩
  · rw [mem_edges_positions positive, here, there, mem_blocks_back positive]
    omega

end Mesh

namespace Samples

open Mesh

variable {samples : Samples} {size : Nat} {surface : List (Triangle Point)}

/-- The corners of a triangle are the rows at the positions that name them. -/
theorem corners_of_named
    (named : surface.map (Triangle.map some) = (positions size samples.rows.length).map
      (Triangle.map fun position => samples.rows[position]?.map Sample.point))
    {place : Nat} {p : Triangle Nat} (found : (positions size samples.rows.length)[place]? = some p) :
    ∃ t first second third, surface[place]? = some t ∧ samples.rows[p.first]? = some first ∧
      samples.rows[p.second]? = some second ∧ samples.rows[p.third]? = some third ∧
      t = ⟨first.point, second.point, third.point⟩ := by
  have same := congrArg (fun list => list[place]?) named
  simp only [List.getElem?_map, found] at same
  cases built : surface[place]? with
  | none =>
      rw [built] at same
      cases same
  | some t =>
      rw [built] at same
      obtain ⟨a, b, c⟩ := t
      obtain ⟨inFirst, inSecond, inThird⟩ := Triangle.mk.inj (Option.some.inj same)
      obtain ⟨first, isFirst, rfl⟩ := Option.map_eq_some_iff.mp inFirst.symm
      obtain ⟨second, isSecond, rfl⟩ := Option.map_eq_some_iff.mp inSecond.symm
      obtain ⟨third, isThird, rfl⟩ := Option.map_eq_some_iff.mp inThird.symm
      exact ⟨_, first, second, third, rfl, isFirst, isSecond, isThird, rfl⟩

/-- A segment of a curve as a side of the surface: its ends are rows of the curve, which stand at two positions
of the samples, and one triangle alone joins these positions. -/
structure SideOf (samples : Samples) (size : Nat) (curve : List Sample) (segment : Nat) (start stop : Sample)
    (source target : Nat) : Prop where
  start_on_curve : curve[segment]? = some start
  stop_on_curve : curve[segment + 1]? = some stop
  start_in_rows : samples.rows[source]? = some start
  stop_in_rows : samples.rows[target]? = some stop
  one_triangle : (positions size samples.rows.length).countP (·.joins source target) = 1

theorem worst_side {curves : Envelopes} (positive : 0 < size) (drawn : samples.envelopes size = .ok curves)
    (named : surface.map (Triangle.map some) = (positions size samples.rows.length).map
      (Triangle.map fun position => samples.rows[position]?.map Sample.point))
    {block : Nat} (inside : 1 < common size samples.rows.length block) :
    ∃ t start stop, surface[2 * block * (size - 1)]? = some t ∧ t.first = start.point ∧ t.third = stop.point ∧
      SideOf samples size curves.worst.rows block start stop (block * size) ((block + 1) * size) := by
  have place : block * ((size - 1) * 2) + (0 * 2 + 0) = 2 * block * (size - 1) := by ring
  have first : 0 + 1 < common size samples.rows.length block := inside
  have found := getElem?_positions positive first Nat.two_pos
  rw [place] at found
  obtain ⟨t, start, middle, stop, built, isStart, -, isStop, corners⟩ := corners_of_named named found
  have isStart : samples.rows[block * size]? = some start := isStart
  have isStop : samples.rows[(block + 1) * size]? = some stop := isStop
  subst corners
  exact ⟨_, start, stop, built, rfl, rfl, (rows_worst positive drawn block).trans isStart,
    (rows_worst positive drawn (block + 1)).trans isStop, isStart, isStop, countP_firstRows positive inside⟩

theorem best_side {curves : Envelopes} (two : 2 ≤ size) (drawn : samples.envelopes size = .ok curves)
    (named : surface.map (Triangle.map some) = (positions size samples.rows.length).map
      (Triangle.map fun position => samples.rows[position]?.map Sample.point))
    {block : Nat} (full : common size samples.rows.length block = size) :
    ∃ t start stop, surface[2 * (block + 1) * (size - 1) - 1]? = some t ∧ t.first = start.point ∧
      t.second = stop.point ∧ SideOf samples size curves.best.rows block start stop
        (block * size + (size - 1)) ((block + 1) * size + (size - 1)) := by
  have positive : 0 < size := Nat.lt_of_lt_of_le Nat.two_pos two
  obtain ⟨short, rfl⟩ : ∃ short, size = short + 2 := ⟨size - 2, by omega⟩
  have place : block * ((short + 2 - 1) * 2) + (short * 2 + 1) = 2 * (block + 1) * (short + 2 - 1) - 1 := by
    rw [show short + 2 - 1 = short + 1 by omega]
    have split : 2 * (block + 1) * (short + 1) = block * ((short + 1) * 2) + (short * 2 + 1) + 1 := by ring
    omega
  have last : short + 1 < common (short + 2) samples.rows.length block := by omega
  have found := getElem?_positions positive last Nat.one_lt_two
  rw [place] at found
  obtain ⟨t, start, stop, before, built, isStart, isStop, -, corners⟩ := corners_of_named named found
  have isStart : samples.rows[block * (short + 2) + (short + 2 - 1)]? = some start := isStart
  have isStop : samples.rows[(block + 1) * (short + 2) + (short + 2 - 1)]? = some stop := isStop
  subst corners
  exact ⟨_, start, stop, built, rfl, rfl, (rows_best positive drawn block).trans isStart,
    (rows_best positive drawn (block + 1)).trans isStop, isStart, isStop, countP_lastRows two full⟩

/-- Both curves run along the rim: wherever the surface reaches, each segment of a curve is a side of exactly
one triangle, at a known place of the list. -/
theorem curves_on_rim (samples : Samples) {size : Nat} (two : 2 ≤ size) :
    ∃ curves surface, samples.envelopes size = .ok curves ∧ samples.surface size = .ok surface ∧
      surface.map (Triangle.map some) = (positions size samples.rows.length).map
        (Triangle.map fun position => samples.rows[position]?.map Sample.point) ∧
      (∀ k block, (Blocks.cut size samples.rows)[k + 1]? = some block → 2 ≤ block.length →
        ∃ t start stop, surface[2 * k * (size - 1)]? = some t ∧ t.first = start.point ∧ t.third = stop.point ∧
          SideOf samples size curves.worst.rows k start stop (k * size) ((k + 1) * size)) ∧
      ∀ k, k + 1 < curves.best.length →
        ∃ t start stop, surface[2 * (k + 1) * (size - 1) - 1]? = some t ∧ t.first = start.point ∧
          t.second = stop.point ∧ SideOf samples size curves.best.rows k start stop
            (k * size + (size - 1)) ((k + 1) * size + (size - 1)) := by
  have positive : 0 < size := Nat.lt_of_lt_of_le Nat.two_pos two
  obtain ⟨surface, built, named⟩ := samples.surface_eq_positions positive
  obtain ⟨curves, drawn⟩ : ∃ curves, samples.envelopes size = .ok curves :=
    ⟨_, if_neg (Nat.pos_iff_ne_zero.mp positive)⟩
  refine ⟨curves, surface, drawn, built, named, ?_, ?_⟩
  · intro k block found several
    have length := Blocks.length_of_getElem?_cut positive found
    exact worst_side positive drawn named (by rw [common_eq]; omega)
  · intro k inside
    have present := List.getElem?_eq_getElem (length_best positive drawn ▸ inside)
    rw [rows_best positive drawn] at present
    have bound := (List.getElem?_eq_some_iff.mp present).1
    have full : Blocks.lengthAt size samples.rows.length (k + 1) = size := by
      unfold Blocks.lengthAt
      omega
    exact best_side two drawn named (by rw [common_eq, full])

/-- The last block is not full, yet its first row ends a segment of the worst curve. -/
theorem curves_on_rim_eightRows :
    2 ≤ 3 ∧ ∃ curves surface, eightRows.envelopes 3 = .ok curves ∧ eightRows.surface 3 = .ok surface ∧
      ∃ t start stop, surface[4]? = some t ∧ t.first = start.point ∧ t.third = stop.point ∧
        SideOf eightRows 3 curves.worst.rows 1 start stop 3 6 := by
  have two : 2 ≤ 3 := by decide
  obtain ⟨curves, surface, drawn, built, -, worst, -⟩ := curves_on_rim eightRows two
  have present : 2 * 3 < eightRows.rows.length := by
    rw [length_rows_eightRows]
    decide
  have found : (Blocks.cut 3 eightRows.rows)[1 + 1]? = some ((eightRows.rows.drop (2 * 3)).take 3) := by
    rw [Blocks.getElem?_cut (by decide), if_pos present]
  have several : 2 ≤ ((eightRows.rows.drop (2 * 3)).take 3).length := by
    rw [List.length_take, List.length_drop, length_rows_eightRows]
    decide
  exact ⟨two, curves, surface, drawn, built, worst 1 _ found several⟩

end Samples

end QuicksortStudy
