import Mathlib
import QuicksortStudy.Chart.Mesh
import QuicksortStudy.Proofs.Samples.Blocks

/-!
# The surface as a grid of quads

Stitching looks at positions only, so the surface over some rows is the surface over their positions with
the rows put in.  A position is a block and an index in it, and in these terms the surface is a table: a
quad for each index that two neighbouring blocks and their next rows have in common.
-/

namespace QuicksortStudy

/-! ## Positions in place of rows -/

namespace Mesh

variable {α β : Type}

theorem strip_map (f : α → β) (near far : List α) :
    strip (near.map f) (far.map f) = (strip near far).map (Triangle.map f) := by
  fun_induction strip near far with
  | case1 near next nears far beyond fars ih =>
      simp only [List.map_cons] at ih ⊢
      rw [strip, ih]
      rfl
  | case2 near far short =>
      cases near with
      | nil => rfl
      | cons near nears =>
          cases nears with
          | nil => rfl
          | cons next nears =>
              cases far with
              | nil => rfl
              | cons far fars =>
                  cases fars with
                  | nil => rfl
                  | cons beyond fars => exact absurd rfl (short near next nears far beyond fars rfl)

theorem stitch_map (f : α → β) (blocks : List (List α)) :
    stitch (blocks.map (List.map f)) = (stitch blocks).map (Triangle.map f) := by
  fun_induction stitch blocks with
  | case1 near far rest ih =>
      simp only [List.map_cons] at ih ⊢
      rw [stitch, ih, strip_map, List.map_append]
  | case2 blocks short =>
      cases blocks with
      | nil => rfl
      | cons near rest =>
          cases rest with
          | nil => rfl
          | cons far rest => exact absurd rfl (short near far rest)

/-- Stitching is blind to what the rows are. -/
theorem ofRows_map (f : α → β) (size : Nat) (rows : List α) :
    ofRows size (rows.map f) = (ofRows size rows).map (Triangle.map f) := by
  unfold ofRows
  rw [Blocks.cut_map, stitch_map]

/-- The surface over the positions of a number of rows. -/
def positions (size rows : Nat) : List (Triangle Nat) := ofRows size (List.range rows)

/-- The surface over rows has the rows at the corners of the surface over their positions. -/
theorem ofRows_eq_positions (size : Nat) (rows : List α) :
    (ofRows size rows).map (Triangle.map some) =
      (positions size rows.length).map (Triangle.map fun position => rows[position]?) := by
  unfold positions
  rw [← ofRows_map, ← ofRows_map]
  congr 1
  apply List.ext_getElem?
  intro position
  rw [List.getElem?_map, List.getElem?_map]
  rcases Nat.lt_or_ge position rows.length with inside | outside
  · rw [List.getElem?_range inside, List.getElem?_eq_getElem inside, Option.map_some, Option.map_some,
      List.getElem?_eq_getElem inside]
  · rw [List.getElem?_eq_none outside, List.getElem?_eq_none (by rwa [List.length_range])]
    rfl

end Mesh

theorem Samples.surface_eq_positions (samples : Samples) {size : Nat} (positive : 0 < size) :
    ∃ surface, samples.surface size = .ok surface ∧ surface.map (Triangle.map some) =
      (Mesh.positions size samples.rows.length).map
        (Triangle.map fun position => samples.rows[position]?.map Sample.point) := by
  refine ⟨_, if_neg (Nat.pos_iff_ne_zero.mp positive), ?_⟩
  have named := congrArg (List.map (Triangle.map (Option.map Sample.point)))
    (Mesh.ofRows_eq_positions size samples.rows)
  rw [List.map_map, List.map_map] at named
  rw [List.map_map]
  exact named

/-! ## Quads -/

namespace Mesh

/-- The two triangles at an index of a block. -/
def quad (block index : Nat) : List (Triangle (Nat × Nat)) :=
  [⟨(block, index), (block, index + 1), (block + 1, index)⟩,
    ⟨(block, index + 1), (block + 1, index + 1), (block + 1, index)⟩]

/-- The number of rows that a block and the next one have in common. -/
def common (size rows block : Nat) : Nat :=
  min (Blocks.lengthAt size rows block) (Blocks.lengthAt size rows (block + 1))

/-- No block is longer than the one before it. -/
theorem common_eq (size rows block : Nat) : common size rows block = Blocks.lengthAt size rows (block + 1) := by
  unfold common Blocks.lengthAt
  rw [Nat.succ_mul]
  omega

/-- The quads between a block and the next one. -/
def between (size rows block : Nat) : List (Triangle (Nat × Nat)) :=
  (List.range (common size rows block - 1)).flatMap (quad block)

/-- All quads, block by block. -/
def grid (size rows : Nat) : List (Triangle (Nat × Nat)) :=
  (List.range (rows / size)).flatMap (between size rows)

/-- The position of an index of a block. -/
def position (size : Nat) (cell : Nat × Nat) : Nat := cell.1 * size + cell.2

theorem strip_range' (near far nears fars : Nat) :
    strip (List.range' near nears) (List.range' far fars) = (List.range (min nears fars - 1)).flatMap fun index =>
      [⟨near + index, near + index + 1, far + index⟩, ⟨near + index + 1, far + index + 1, far + index⟩] := by
  induction nears generalizing near far fars with
  | zero =>
      rw [Nat.zero_min]
      rfl
  | succ nears ih =>
      cases nears with
      | zero =>
          have single : min (0 + 1) fars - 1 = 0 := by omega
          rw [single]
          cases fars with
          | zero => rfl
          | succ fars => rfl
      | succ nears =>
          cases fars with
          | zero => rfl
          | succ fars =>
              cases fars with
              | zero =>
                  have single : min (nears + 1 + 1) (0 + 1) - 1 = 0 := by omega
                  rw [single]
                  rfl
              | succ fars =>
                  have rest := ih (near + 1) (far + 1) (fars + 1)
                  have shorter : min (nears + 1) (fars + 1) - 1 = min nears fars := by omega
                  have longer : min (nears + 1 + 1) (fars + 1 + 1) - 1 = min nears fars + 1 := by omega
                  rw [shorter, List.range'_succ, List.range'_succ] at rest
                  rw [longer, List.range_succ_eq_map, List.flatMap_cons, List.flatMap_map, List.range'_succ,
                    List.range'_succ, List.range'_succ, List.range'_succ, strip, rest]
                  simp only [Nat.add_zero, Nat.succ_eq_add_one, Nat.add_comm 1, Nat.add_assoc, List.cons_append,
                    List.nil_append]

theorem take_range' (start rows taken : Nat) :
    (List.range' start rows).take taken = List.range' start (min taken rows) := by
  rcases Nat.le_total rows taken with all | some
  · rw [List.take_range'_of_length_le all, Nat.min_eq_right all]
  · rw [List.take_range'_of_length_ge some, Nat.min_eq_left some]

theorem strip_nil (near : List α) : strip near [] = [] := by
  cases near with
  | nil => rfl
  | cons first rest => cases rest <;> rfl

theorem stitch_cut_of_length_le {size : Nat} {xs : List α} (short : xs.length ≤ size) :
    stitch (Blocks.cut size xs) = [] := by
  fun_cases Blocks.cut size xs with
  | case1 _ => rfl
  | case2 _ =>
      rw [List.drop_eq_nil_of_le short, Blocks.cut_nil]
      rfl

theorem stitch_cut_range'_cons {size rows : Nat} (positive : 0 < size) (more : size < rows) (start : Nat) :
    stitch (Blocks.cut size (List.range' start rows)) =
      strip (List.range' start size) (List.range' (start + size) (Blocks.lengthAt size rows 1)) ++
        stitch (Blocks.cut size (List.range' (start + size) (rows - size))) := by
  have here : List.range' start rows ≠ [] := by simp; omega
  have beyond : List.range' (start + size) (rows - size) ≠ [] := by simp; omega
  have first : (List.range' start rows).take size = List.range' start size := by
    rw [take_range', Nat.min_eq_left (Nat.le_of_lt more)]
  have others : (List.range' start rows).drop size = List.range' (start + size) (rows - size) := by
    rw [List.drop_range', Nat.mul_one]
  have second : (List.range' (start + size) (rows - size)).take size =
      List.range' (start + size) (Blocks.lengthAt size rows 1) := by
    rw [take_range', Blocks.lengthAt_succ, Blocks.lengthAt, Nat.zero_mul, Nat.sub_zero]
  rw [Blocks.cut_cons positive here, first, others, Blocks.cut_cons positive beyond, stitch, second]

theorem stitch_cut_range' {size : Nat} (positive : 0 < size) (start rows : Nat) :
    stitch (Blocks.cut size (List.range' start rows)) = (List.range (rows / size)).flatMap fun block =>
      strip (List.range' (start + block * size) size)
        (List.range' (start + (block + 1) * size) (Blocks.lengthAt size rows (block + 1))) := by
  induction rows using Nat.strong_induction_on generalizing start with
  | _ rows ih =>
      rcases Nat.lt_or_ge size rows with more | short
      · have blocks : rows / size = (rows - size) / size + 1 := by
          rw [Nat.div_eq rows, if_pos ⟨positive, Nat.le_of_lt more⟩]
        rw [stitch_cut_range'_cons positive more, ih (rows - size) (by omega) (start + size), blocks,
          List.range_succ_eq_map, List.flatMap_cons, List.flatMap_map]
        congr 1
        · rw [Nat.zero_mul, Nat.zero_add, Nat.one_mul]
          rfl
        · apply List.flatMap_congr
          intro block _
          have shift (block : Nat) : start + size + block * size = start + (block + 1) * size := by
            rw [Nat.succ_mul]
            omega
          rw [shift, shift, ← Blocks.lengthAt_succ]
      · rw [stitch_cut_of_length_le (by rwa [List.length_range']), eq_comm, List.flatMap_eq_nil_iff]
        intro block _
        have empty : Blocks.lengthAt size rows (block + 1) = 0 := by
          rw [Blocks.lengthAt_succ, Nat.sub_eq_zero_of_le short, Blocks.lengthAt, Nat.zero_sub, Nat.min_zero]
        rw [empty, List.range'_zero, strip_nil]

/-- The surface over positions is the grid of quads. -/
theorem positions_eq_grid {size : Nat} (positive : 0 < size) (rows : Nat) :
    positions size rows = (grid size rows).map (Triangle.map (position size)) := by
  have stitched := stitch_cut_range' positive 0 rows
  rw [← List.range_eq_range'] at stitched
  unfold positions ofRows grid
  rw [stitched, List.map_flatMap]
  apply List.flatMap_congr
  intro block _
  unfold between quad
  have least : min size (Blocks.lengthAt size rows (block + 1)) = Blocks.lengthAt size rows (block + 1) := by
    unfold Blocks.lengthAt
    omega
  rw [common_eq, strip_range', least, List.map_flatMap]
  apply List.flatMap_congr
  intro index _
  simp only [List.map_cons, List.map_nil, Triangle.map, position, Nat.zero_add, Nat.add_assoc]

end Mesh

end QuicksortStudy
