import Mathlib
import QuicksortStudy.Proofs.Chart.Curves

/-!
# The surface quad by quad

Two rows next to each other in a block and the rows at the same indices of the next block are a quad, and every
quad is two triangles of the surface.  The triangles are described by their places, which also says how many there
are: each place belongs to one of the quads, and its corners are the rows at four known positions.
-/

namespace QuicksortStudy

namespace Mesh

/-- The place of the first triangle of a quad.  All strips before its own join full blocks. -/
def quadPlace (size block index : Nat) : Nat := 2 * (block * (size - 1) + index)

theorem getElem?_quadPlace {size rows block index side : Nat} (positive : 0 < size)
    (inside : index + 1 < common size rows block) (one : side < 2) :
    (positions size rows)[quadPlace size block index + side]? =
      ((quad block index)[side]?).map (Triangle.map (position size)) := by
  have place : block * ((size - 1) * 2) + (index * 2 + side) = quadPlace size block index + side := by
    unfold quadPlace
    ring
  rw [← place]
  exact getElem?_positions positive inside one

/-- A place in one of the strips between full blocks. -/
theorem exists_quadPlace_of_full {size blocks place : Nat} (inside : place < 2 * blocks * (size - 1)) :
    ∃ block index side, block < blocks ∧ index + 1 < size ∧ side < 2 ∧
      place = quadPlace size block index + side := by
  have several : 0 < size - 1 := by
    rcases Nat.eq_zero_or_pos (size - 1) with none | some
    · rw [none, Nat.mul_zero] at inside
      cases inside
    · exact some
  have half : place / 2 < blocks * (size - 1) := by
    rw [Nat.mul_assoc] at inside
    omega
  refine ⟨place / 2 / (size - 1), place / 2 % (size - 1), place % 2, ?_, ?_, Nat.mod_lt _ Nat.two_pos, ?_⟩
  · exact (Nat.div_lt_iff_lt_mul several).mpr half
  · have less := Nat.mod_lt (place / 2) several
    omega
  · have whole : place / 2 / (size - 1) * (size - 1) + place / 2 % (size - 1) = place / 2 :=
      Nat.div_add_mod' (place / 2) (size - 1)
    unfold quadPlace
    omega

/-- Every place of the surface is that of a triangle of some quad. -/
theorem exists_quadPlace {size rows place : Nat} (positive : 0 < size)
    (inside : place < (positions size rows).length) :
    ∃ block index side, index + 1 < common size rows block ∧ side < 2 ∧
      place = quadPlace size block index + side := by
  have whole := Nat.div_add_mod rows size
  rw [length_positions positive] at inside
  cases blocks : rows / size with
  | zero =>
      rw [blocks, if_pos rfl] at inside
      simp at inside
  | succ before =>
      rw [blocks, if_neg (Nat.succ_ne_zero before), Nat.succ_sub_one] at inside
      rw [blocks, Nat.mul_succ, Nat.mul_comm] at whole
      rcases Nat.lt_or_ge place (2 * before * (size - 1)) with full | beyond
      · obtain ⟨block, index, side, less, inBlock, one, same⟩ := exists_quadPlace_of_full full
        have reached : (block + 1) * size ≤ before * size := Nat.mul_le_mul_right size less
        refine ⟨block, index, side, ?_, one, same⟩
        rw [common_eq, Blocks.lengthAt, Nat.min_eq_left (by omega)]
        exact inBlock
      · refine ⟨before, (place - 2 * before * (size - 1)) / 2, (place - 2 * before * (size - 1)) % 2, ?_,
          Nat.mod_lt _ Nat.two_pos, ?_⟩
        · have less := Nat.mod_lt rows positive
          rw [common_eq, Blocks.lengthAt, Nat.succ_mul before size, Nat.min_eq_right (by omega)]
          omega
        · unfold quadPlace
          rw [Nat.mul_add, ← Nat.mul_assoc]
          omega

end Mesh

namespace Samples

open Mesh

variable {samples : Samples} {size : Nat} {surface : List (Triangle Point)}

/-- The point of the row at a position. -/
def pointAt (samples : Samples) (position : Nat) : Option Point := samples.rows[position]?.map Sample.point

/-- The two triangles of a quad stand next to each other, with the points of their rows in order. -/
structure Stitched (samples : Samples) (size : Nat) (surface : List (Triangle Point)) (block index : Nat) : Prop where
  near : surface[quadPlace size block index]?.map (Triangle.map some) =
    some ⟨samples.pointAt (block * size + index), samples.pointAt (block * size + (index + 1)),
      samples.pointAt ((block + 1) * size + index)⟩
  far : surface[quadPlace size block index + 1]?.map (Triangle.map some) =
    some ⟨samples.pointAt (block * size + (index + 1)), samples.pointAt ((block + 1) * size + (index + 1)),
      samples.pointAt ((block + 1) * size + index)⟩

theorem stitched_of_named (positive : 0 < size)
    (named : surface.map (Triangle.map some) = (positions size samples.rows.length).map
      (Triangle.map fun position => samples.rows[position]?.map Sample.point))
    {block index : Nat} (inside : index + 1 < common size samples.rows.length block) :
    Stitched samples size surface block index := by
  have corners (side : Nat) (one : side < 2) :
      surface[quadPlace size block index + side]?.map (Triangle.map some) =
        ((quad block index)[side]?).map (Triangle.map (samples.pointAt ∘ position size)) := by
    rw [← List.getElem?_map, named, List.getElem?_map, getElem?_quadPlace positive inside one, Option.map_map]
    rfl
  exact ⟨corners 0 Nat.two_pos, corners 1 Nat.one_lt_two⟩

/-- The surface is its quads: there are as many triangles as full blocks and a last block that is not full give,
each quad stands at its place, and there is nothing else.  Without a block size there is no surface. -/
theorem surface_by_quads (samples : Samples) {size : Nat} (positive : 0 < size) :
    samples.surface 0 = .error .zeroSize ∧ ∃ surface, samples.surface size = .ok surface ∧
      surface.length = (if samples.rows.length / size = 0 then 0 else
        2 * (size - 1) * (samples.rows.length / size - 1) + 2 * (samples.rows.length % size - 1)) ∧
      (∀ block index, index + 1 < min size (samples.rows.length - (block + 1) * size) →
        Stitched samples size surface block index) ∧
      ∀ place < surface.length, ∃ block index, index + 1 < min size (samples.rows.length - (block + 1) * size) ∧
        (place = quadPlace size block index ∨ place = quadPlace size block index + 1) := by
  obtain ⟨surface, built, named⟩ := samples.surface_eq_positions positive
  have length : surface.length = (positions size samples.rows.length).length := by
    have lengths := congrArg List.length named
    rwa [List.length_map, List.length_map] at lengths
  refine ⟨rfl, surface, built, ?_, fun block index inside => ?_, fun place inside => ?_⟩
  · rw [length, length_positions positive]
    split
    · next none => rw [none, Nat.zero_sub, Nat.mul_zero, Nat.zero_mul]
    · ring
  · rw [← Blocks.lengthAt, ← common_eq] at inside
    exact stitched_of_named positive named inside
  · rw [length] at inside
    obtain ⟨block, index, side, reached, one, rfl⟩ := exists_quadPlace positive inside
    rw [common_eq] at reached
    exact ⟨block, index, reached, by omega⟩

/-- Two full blocks and two rows of a third one: the only quad of the second strip comes after the two of the first. -/
theorem surface_by_quads_eightRows :
    0 < 3 ∧ ∃ surface, eightRows.surface 3 = .ok surface ∧ surface.length = 6 ∧
      Stitched eightRows 3 surface 1 0 := by
  obtain ⟨-, surface, built, length, stitched, -⟩ := surface_by_quads eightRows (show 0 < 3 by decide)
  rw [length_rows_eightRows] at length stitched
  exact ⟨by decide, surface, built, length, stitched 1 0 (by decide)⟩

end Samples

end QuicksortStudy
