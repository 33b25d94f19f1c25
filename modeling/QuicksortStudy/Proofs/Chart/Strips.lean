import Mathlib
import QuicksortStudy.Proofs.Chart.Edges

/-!
# Strips between blocks

The triangles come strip by strip, and within a strip quad by quad.  So their number is known, each of them
stands at a known place, and it has rows of two neighbouring blocks at its corners.
-/

namespace QuicksortStudy.Mesh

/-! ## Triangles by place -/

/-- The entries of a part of a list whose parts before have one length. -/
theorem getElem?_flatMap_range {α : Type} {parts : Nat → List α} {length n part index : Nat}
    (before : ∀ i < part, (parts i).length = length) (present : part < n)
    (inside : index < (parts part).length) :
    ((List.range n).flatMap parts)[part * length + index]? = (parts part)[index]? := by
  induction part generalizing parts n with
  | zero =>
      obtain ⟨n, rfl⟩ := Nat.exists_eq_succ_of_ne_zero (Nat.ne_of_gt present)
      rw [List.range_succ_eq_map, List.flatMap_cons, Nat.zero_mul, Nat.zero_add,
        List.getElem?_append_left inside]
  | succ part ih =>
      obtain ⟨n, rfl⟩ := Nat.exists_eq_succ_of_ne_zero
        (Nat.ne_of_gt (Nat.lt_of_le_of_lt (Nat.zero_le _) present))
      have first := before 0 (Nat.succ_pos part)
      have shifted : ∀ i < part, (parts (i + 1)).length = length := fun i less =>
        before (i + 1) (Nat.succ_lt_succ less)
      have rest := ih shifted (Nat.lt_of_succ_lt_succ present) inside
      have place : (part + 1) * length + index - (parts 0).length = part * length + index := by
        rw [first, Nat.succ_mul]
        omega
      have beyond : (parts 0).length ≤ (part + 1) * length + index := by
        rw [first, Nat.succ_mul]
        omega
      rw [List.range_succ_eq_map, List.flatMap_cons, List.getElem?_append_right beyond, place, List.flatMap_map]
      exact rest

theorem length_flatMap_range {α : Type} {parts : Nat → List α} {length n : Nat}
    (each : ∀ i < n, (parts i).length = length) : ((List.range n).flatMap parts).length = n * length := by
  induction n with
  | zero => exact (Nat.zero_mul _).symm
  | succ n ih =>
      have before := ih fun i less => each i (Nat.lt_succ_of_lt less)
      rw [List.range_succ, List.flatMap_append, List.length_append, before, List.flatMap_cons, List.flatMap_nil,
        List.append_nil, each n (Nat.lt_succ_self n), Nat.succ_mul]

theorem length_between (size rows block : Nat) :
    (between size rows block).length = (common size rows block - 1) * 2 := by
  simp [between, quad]

/-- The number of triangles: those between full blocks, and those to a last block that is not full. -/
theorem length_positions {size : Nat} (positive : 0 < size) (rows : Nat) :
    (positions size rows).length =
      2 * (rows / size - 1) * (size - 1) + (if rows / size = 0 then 0 else 2 * (rows % size - 1)) := by
  have whole := Nat.div_add_mod rows size
  rw [positions_eq_grid positive, List.length_map, grid]
  cases blocks : rows / size with
  | zero =>
      rw [List.range_zero, List.flatMap_nil, List.length_nil, if_pos rfl, Nat.zero_sub, Nat.mul_zero, Nat.zero_mul]
  | succ before =>
      rw [blocks] at whole
      have full : ∀ block < before, (between size rows block).length = (size - 1) * 2 := by
        intro block less
        have least : (block + 1) * size + size ≤ size * (before + 1) := by
          rw [← Nat.succ_mul, Nat.mul_comm]
          exact Nat.mul_le_mul_left size (by omega)
        rw [length_between, common_eq, Blocks.lengthAt, Nat.min_eq_left (by omega)]
      have last : (between size rows before).length = (rows % size - 1) * 2 := by
        have less := Nat.mod_lt rows positive
        rw [Nat.mul_comm] at whole
        rw [length_between, common_eq, Blocks.lengthAt, Nat.min_eq_right (by omega)]
        omega
      rw [List.range_succ, List.flatMap_append, List.length_append, length_flatMap_range full, List.flatMap_cons,
        List.flatMap_nil, List.append_nil, last, if_neg (Nat.succ_ne_zero before), Nat.succ_sub_one]
      ring

theorem mem_positions {size rows : Nat} (positive : 0 < size) {t : Triangle Nat}
    (member : t ∈ positions size rows) :
    ∃ block index, index + 1 < common size rows block ∧ t ∈ (quad block index).map (Triangle.map (position size)) := by
  rw [positions_eq_grid positive] at member
  obtain ⟨t', inGrid, rfl⟩ := List.mem_map.mp member
  obtain ⟨block, -, inStrip⟩ := List.mem_flatMap.mp inGrid
  obtain ⟨index, inside, inQuad⟩ := List.mem_flatMap.mp inStrip
  rw [List.mem_range] at inside
  exact ⟨block, index, by omega, List.mem_map_of_mem inQuad⟩

theorem getElem?_between {size rows block index : Nat} (inside : index + 1 < common size rows block)
    {side : Nat} (one : side < 2) : (between size rows block)[index * 2 + side]? = (quad block index)[side]? :=
  getElem?_flatMap_range (fun _ _ => rfl) (by omega) one

/-- A triangle of a quad stands after the strips of full blocks and the quads of its own strip before it. -/
theorem getElem?_grid {size rows block index side : Nat} (positive : 0 < size)
    (inside : index + 1 < common size rows block) (one : side < 2) :
    (grid size rows)[block * ((size - 1) * 2) + (index * 2 + side)]? = (quad block index)[side]? := by
  have next := common_eq size rows block ▸ inside
  have present := (lengthAt_pos_iff positive rows (block + 1)).mp (Nat.lt_of_le_of_lt (Nat.zero_le _) next)
  have full : ∀ earlier < block, (between size rows earlier).length = (size - 1) * 2 := by
    intro earlier less
    rw [length_between, common_eq, lengthAt_eq positive (by omega)]
  rw [Blocks.lt_count_iff positive] at present
  unfold grid
  rw [getElem?_flatMap_range full, getElem?_between inside one]
  · exact (Nat.le_div_iff_mul_le positive).mpr (Nat.le_of_lt present)
  · rw [length_between]
    omega

theorem getElem?_positions {size rows block index side : Nat} (positive : 0 < size)
    (inside : index + 1 < common size rows block) (one : side < 2) :
    (positions size rows)[block * ((size - 1) * 2) + (index * 2 + side)]? =
      ((quad block index)[side]?).map (Triangle.map (position size)) := by
  rw [positions_eq_grid positive, List.getElem?_map, getElem?_grid positive inside one]

/-! ## Neighbouring blocks -/

/-- A triangle joins a block and the next one: its corners are rows of these two, and it has a row of each. -/
structure Joins (size : Nat) (t : Triangle Nat) (block : Nat) : Prop where
  between : ∀ corner ∈ t.corners, corner / size = block ∨ corner / size = block + 1
  here : ∃ corner ∈ t.corners, corner / size = block
  there : ∃ corner ∈ t.corners, corner / size = block + 1

theorem position_div {size block index : Nat} (inside : index < size) :
    position size (block, index) / size = block :=
  congrArg Prod.fst (@cell_position size (block, index) inside)

theorem joins_quad {size block index : Nat} (inside : index + 1 < size) {t : Triangle Nat}
    (member : t ∈ (quad block index).map (Triangle.map (position size))) : Joins size t block := by
  have less : index < size := Nat.lt_of_succ_lt inside
  simp only [quad, List.map_cons, List.map_nil, List.mem_cons, List.not_mem_nil, or_false, Triangle.map] at member
  rcases member with rfl | rfl
  · constructor
    · simp only [Triangle.corners, List.mem_cons, List.not_mem_nil, or_false]
      rintro corner (rfl | rfl | rfl)
      · exact .inl (position_div less)
      · exact .inl (position_div inside)
      · exact .inr (position_div less)
    · exact ⟨_, List.mem_cons_self, position_div less⟩
    · exact ⟨_, List.mem_cons_of_mem _ (List.mem_cons_of_mem _ List.mem_cons_self), position_div less⟩
  · constructor
    · simp only [Triangle.corners, List.mem_cons, List.not_mem_nil, or_false]
      rintro corner (rfl | rfl | rfl)
      · exact .inl (position_div inside)
      · exact .inr (position_div inside)
      · exact .inr (position_div less)
    · exact ⟨_, List.mem_cons_self, position_div inside⟩
    · exact ⟨_, List.mem_cons_of_mem _ List.mem_cons_self, position_div inside⟩

/-- Every triangle joins two neighbouring blocks. -/
theorem joins_of_mem {size rows : Nat} (positive : 0 < size) {t : Triangle Nat}
    (member : t ∈ positions size rows) :
    ∃ block, block + 1 < Blocks.count size rows ∧ Joins size t block := by
  obtain ⟨block, index, inside, inQuad⟩ := mem_positions positive member
  rw [common_eq] at inside
  have present := (lengthAt_pos_iff positive rows (block + 1)).mp (Nat.lt_of_le_of_lt (Nat.zero_le _) inside)
  exact ⟨block, present, joins_quad (Nat.lt_of_lt_of_le inside (lengthAt_le _ _ _)) inQuad⟩

end QuicksortStudy.Mesh
