import Mathlib
import QuicksortStudy.Proofs.Chart.Grid

/-!
# Edges of the surface

Every triangle has three directed edges.  Over the whole surface no directed edge occurs twice, so two
triangles meet in an edge only from opposite sides, and the edges without a reverse are the rim.  The proofs
work with blocks and indices, where each edge of a quad tells which quad it belongs to.
-/

namespace QuicksortStudy

namespace Triangle

variable {α β : Type}

/-- The sides of a triangle in the order in which its corners are gone round. -/
def edges (t : Triangle α) : List (α × α) := [(t.first, t.second), (t.second, t.third), (t.third, t.first)]

/-- Whether a triangle has a side between two corners, in either direction. -/
def joins [DecidableEq α] (t : Triangle α) (a b : α) : Bool :=
  t.edges.contains (a, b) || t.edges.contains (b, a)

theorem joins_iff [DecidableEq α] {t : Triangle α} {a b : α} :
    t.joins a b = true ↔ (a, b) ∈ t.edges ∨ (b, a) ∈ t.edges := by
  rw [joins, Bool.or_eq_true, List.contains_iff_mem, List.contains_iff_mem]

end Triangle

namespace Mesh

variable {α β : Type}

/-- All directed edges of some triangles. -/
def edges (triangles : List (Triangle α)) : List (α × α) := triangles.flatMap Triangle.edges

theorem edges_map (f : α → β) (triangles : List (Triangle α)) :
    edges (triangles.map (Triangle.map f)) = (edges triangles).map (Prod.map f f) := by
  unfold edges
  rw [List.flatMap_map, List.map_flatMap]
  rfl

/-! ## Triangles that share no directed edge -/

/-- Triangles are gone round in one sense: an edge lies in two of them at most, and these go along it in
opposite directions. -/
structure Oriented [DecidableEq α] (triangles : List (Triangle α)) : Prop where
  nodup : (edges triangles).Nodup
  at_most_two : ∀ a b, triangles.countP (·.joins a b) ≤ 2
  opposite : ∀ (i j : Nat) (t u : Triangle α) (a b : α), i ≠ j → triangles[i]? = some t → triangles[j]? = some u →
    t.joins a b = true → u.joins a b = true →
    (a, b) ∈ t.edges ∧ (b, a) ∈ u.edges ∨ (b, a) ∈ t.edges ∧ (a, b) ∈ u.edges

theorem disjoint_of_nodup {triangles : List (Triangle α)} (nodup : (edges triangles).Nodup) {i j : Nat}
    {t u : Triangle α} (apart : i ≠ j) (first : triangles[i]? = some t) (second : triangles[j]? = some u) :
    t.edges.Disjoint u.edges := by
  have pairwise := (List.nodup_flatMap.mp nodup).2
  rw [List.pairwise_iff_getElem] at pairwise
  obtain ⟨inside, rfl⟩ := List.getElem?_eq_some_iff.mp first
  obtain ⟨inside', rfl⟩ := List.getElem?_eq_some_iff.mp second
  rcases Nat.lt_or_gt_of_ne apart with before | after
  · exact pairwise i j inside inside' before
  · exact (pairwise j i inside' inside after).symm

theorem countP_edge_le_one [DecidableEq α] {triangles : List (Triangle α)} (nodup : (edges triangles).Nodup)
    (edge : α × α) : triangles.countP (fun t => t.edges.contains edge) ≤ 1 := by
  induction triangles with
  | nil => exact Nat.zero_le 1
  | cons t rest ih =>
      obtain ⟨-, others, apart⟩ := List.nodup_append'.mp (nodup : (t.edges ++ edges rest).Nodup)
      rw [List.countP_cons]
      split
      · next here =>
          have none : rest.countP (fun t => t.edges.contains edge) = 0 := by
            rw [List.countP_eq_zero]
            intro u member there
            exact apart (List.contains_iff_mem.mp here)
              (List.mem_flatMap.mpr ⟨u, member, List.contains_iff_mem.mp there⟩)
          rw [none]
      · exact ih others

theorem countP_joins_le [DecidableEq α] (triangles : List (Triangle α)) (a b : α) :
    triangles.countP (·.joins a b) ≤ triangles.countP (fun t => t.edges.contains (a, b)) +
      triangles.countP (fun t => t.edges.contains (b, a)) := by
  induction triangles with
  | nil => exact Nat.le_refl 0
  | cons t rest ih =>
      have one : (if t.joins a b = true then 1 else 0) ≤ (if t.edges.contains (a, b) = true then 1 else 0) +
          (if t.edges.contains (b, a) = true then 1 else 0) := by
        unfold Triangle.joins
        cases t.edges.contains (a, b) <;> cases t.edges.contains (b, a) <;> decide
      rw [List.countP_cons, List.countP_cons, List.countP_cons]
      omega

theorem oriented_of_nodup [DecidableEq α] {triangles : List (Triangle α)} (nodup : (edges triangles).Nodup) :
    Oriented triangles := by
  refine ⟨nodup, fun a b => ?_, ?_⟩
  · have most := countP_joins_le triangles a b
    have forth := countP_edge_le_one nodup (a, b)
    have back := countP_edge_le_one nodup (b, a)
    omega
  · intro i j t u a b apart first second inFirst inSecond
    have disjoint := disjoint_of_nodup nodup apart first second
    rw [Triangle.joins_iff] at inFirst inSecond
    rcases inFirst with forth | back
    · rcases inSecond with again | back
      · exact absurd again (disjoint forth)
      · exact .inl ⟨forth, back⟩
    · rcases inSecond with forth | again
      · exact .inr ⟨back, forth⟩
      · exact absurd again (disjoint back)

/-- An edge without its reverse lies in a single triangle. -/
theorem countP_joins_eq_one [DecidableEq α] {triangles : List (Triangle α)} (nodup : (edges triangles).Nodup)
    {a b : α} (present : (a, b) ∈ edges triangles) (unpaired : (b, a) ∉ edges triangles) :
    triangles.countP (·.joins a b) = 1 := by
  have most := countP_joins_le triangles a b
  have forth := countP_edge_le_one nodup (a, b)
  have back : triangles.countP (fun t => t.edges.contains (b, a)) = 0 := by
    rw [List.countP_eq_zero]
    intro t member there
    exact unpaired (List.mem_flatMap.mpr ⟨t, member, List.contains_iff_mem.mp there⟩)
  have least : 0 < triangles.countP (·.joins a b) := by
    obtain ⟨t, member, inside⟩ := List.mem_flatMap.mp present
    exact List.countP_pos_iff.mpr ⟨t, member, Triangle.joins_iff.mpr (.inl inside)⟩
  omega

/-! ## Edges by block and index -/

theorem lengthAt_le (size rows block : Nat) : Blocks.lengthAt size rows block ≤ size := Nat.min_le_left _ _

theorem lengthAt_pos_iff {size : Nat} (positive : 0 < size) (rows block : Nat) :
    0 < Blocks.lengthAt size rows block ↔ block < Blocks.count size rows := by
  rw [Blocks.lt_count_iff positive]
  unfold Blocks.lengthAt
  omega

/-- Every block but the last is full. -/
theorem lengthAt_eq {size rows block : Nat} (positive : 0 < size)
    (before : block + 1 < Blocks.count size rows) :
    Blocks.lengthAt size rows block = size := by
  rw [Blocks.lt_count_iff positive, Nat.succ_mul] at before
  unfold Blocks.lengthAt
  omega

theorem mem_quad_edges {block index : Nat} {x y : Nat × Nat} :
    (x, y) ∈ edges (quad block index) ↔
      (x = (block, index) ∧ y = (block, index + 1)) ∨ (x = (block, index + 1) ∧ y = (block + 1, index)) ∨
      (x = (block + 1, index) ∧ y = (block, index)) ∨ (x = (block, index + 1) ∧ y = (block + 1, index + 1)) ∨
      (x = (block + 1, index + 1) ∧ y = (block + 1, index)) ∨
          (x = (block + 1, index) ∧ y = (block, index + 1)) := by
  simp [edges, quad, Triangle.edges]

theorem edges_grid (size rows : Nat) : edges (grid size rows) = (List.range (rows / size)).flatMap fun block =>
    (List.range (common size rows block - 1)).flatMap fun index => edges (quad block index) := by
  unfold edges grid between
  rw [List.flatMap_assoc]
  congr 1
  funext block
  rw [List.flatMap_assoc]

/-- An edge of the surface is an edge of a quad at an index that two blocks and their next rows have. -/
theorem mem_edges_grid {size : Nat} (positive : 0 < size) (rows : Nat) {x y : Nat × Nat} :
    (x, y) ∈ edges (grid size rows) ↔
      ∃ block index, index + 1 < common size rows block ∧ (x, y) ∈ edges (quad block index) := by
  simp only [edges_grid, List.mem_flatMap, List.mem_range]
  constructor
  · rintro ⟨block, -, index, inside, member⟩
    exact ⟨block, index, by omega, member⟩
  · rintro ⟨block, index, inside, member⟩
    refine ⟨block, ?_, index, by omega, member⟩
    have next := (lengthAt_pos_iff positive rows (block + 1)).mp
        (Nat.lt_of_le_of_lt (Nat.zero_le _) (common_eq .. ▸ inside))
    rw [Blocks.lt_count_iff positive] at next
    exact (Nat.le_div_iff_mul_le positive).mpr (Nat.le_of_lt next)

theorem quad_eq_of_mem {block index block' index' : Nat} {x y : Nat × Nat}
    (first : (x, y) ∈ edges (quad block index)) (second : (x, y) ∈ edges (quad block' index')) :
    block = block' ∧ index = index' := by
  rcases x with ⟨x, i⟩
  rcases y with ⟨y, j⟩
  simp only [mem_quad_edges, Prod.mk.injEq] at first second
  omega

theorem nodup_quad_edges (block index : Nat) : (edges (quad block index)).Nodup := by
  simp [edges, quad, Triangle.edges]

/-- No directed edge occurs twice: it tells the quad it belongs to. -/
theorem nodup_edges_grid (size rows : Nat) : (edges (grid size rows)).Nodup := by
  rw [edges_grid, List.nodup_flatMap]
  constructor
  · intro block _
    rw [List.nodup_flatMap]
    refine ⟨fun index _ => nodup_quad_edges block index, List.nodup_range.imp fun apart edge first second => ?_⟩
    exact apart (quad_eq_of_mem first second).2
  · refine List.nodup_range.imp fun apart edge first second => ?_
    obtain ⟨index, -, inFirst⟩ := List.mem_flatMap.mp first
    obtain ⟨index', -, inSecond⟩ := List.mem_flatMap.mp second
    exact apart (quad_eq_of_mem inFirst inSecond).1

/-! ## The rim -/

/-- Two rows, by block and index, between which the surface ends. -/
inductive Rim (size rows : Nat) : Nat × Nat → Nat × Nat → Prop where
  /-- Neighbours in the first block. -/
  | firstBlock (index : Nat) : Rim size rows (0, index) (0, index + 1)
  /-- Neighbours in the last block. -/
  | lastBlock (block index : Nat) (last : block + 1 = Blocks.count size rows) :
      Rim size rows (block, index) (block, index + 1)
  /-- Neighbours in the block before the last one, beyond the rows that the last one has. -/
  | beyondLast (block index : Nat) (last : block + 2 = Blocks.count size rows)
      (three : 3 ≤ Blocks.count size rows) (beyond : Blocks.lengthAt size rows (block + 1) ≤ index + 1) :
      Rim size rows (block, index) (block, index + 1)
  /-- The first rows of two blocks. -/
  | firstRows (block : Nat) : Rim size rows (block, 0) (block + 1, 0)
  /-- The rows at the last index that two blocks have in common. -/
  | lastRows (block index : Nat) (several : 2 ≤ common size rows block)
      (last : index + 1 = common size rows block) : Rim size rows (block, index) (block + 1, index)

theorem rim_rows_iff {size rows block block' index : Nat} :
    Rim size rows (block, index) (block', index + 1) ↔ block = block' ∧
      (block = 0 ∨ block + 1 = Blocks.count size rows ∨ (block + 2 = Blocks.count size rows ∧
        3 ≤ Blocks.count size rows ∧ Blocks.lengthAt size rows (block + 1) ≤ index + 1)) := by
  constructor
  · intro rim
    cases rim with
    | firstBlock => exact ⟨rfl, .inl rfl⟩
    | lastBlock _ _ last => exact ⟨rfl, .inr (.inl last)⟩
    | beyondLast _ _ last three beyond => exact ⟨rfl, .inr (.inr ⟨last, three, beyond⟩)⟩
  · rintro ⟨rfl, rfl | last | ⟨last, three, beyond⟩⟩
    · exact .firstBlock index
    · exact .lastBlock block index last
    · exact .beyondLast block index last three beyond

theorem rim_blocks_iff {size rows block index index' : Nat} :
    Rim size rows (block, index) (block + 1, index') ↔ index = index' ∧
      (index = 0 ∨ (2 ≤ common size rows block ∧ index + 1 = common size rows block)) := by
  constructor
  · intro rim
    cases rim with
    | firstRows => exact ⟨rfl, .inl rfl⟩
    | lastRows _ _ several last => exact ⟨rfl, .inr ⟨several, last⟩⟩
  · rintro ⟨rfl, rfl | ⟨several, last⟩⟩
    · exact .firstRows block
    · exact .lastRows block index several last

theorem not_rim_back {size rows block index index' : Nat} :
    ¬Rim size rows (block + 1, index) (block, index') := by
  intro rim
  cases rim

theorem not_rim_down {size rows block index : Nat} : ¬Rim size rows (block, index + 1) (block, index) := by
  intro rim
  cases rim

section reverse

variable {size : Nat} (positive : 0 < size) (rows block index : Nat)

include positive

theorem mem_rows_up : ((block, index), (block, index + 1)) ∈ edges (grid size rows) ↔
    index + 1 < common size rows block := by
  rw [mem_edges_grid positive]
  constructor
  · rintro ⟨block', index', inside, member⟩
    simp only [mem_quad_edges, Prod.mk.injEq] at member
    obtain ⟨rfl, rfl⟩ : block' = block ∧ index' = index := by omega
    exact inside
  · intro inside
    exact ⟨block, index, inside, mem_quad_edges.mpr (.inl ⟨rfl, rfl⟩)⟩

theorem mem_rows_down : ((block, index + 1), (block, index)) ∈ edges (grid size rows) ↔
    ∃ before, block = before + 1 ∧ index + 1 < common size rows before := by
  rw [mem_edges_grid positive]
  constructor
  · rintro ⟨block', index', inside, member⟩
    simp only [mem_quad_edges, Prod.mk.injEq] at member
    obtain ⟨rfl, rfl⟩ : block = block' + 1 ∧ index' = index := by omega
    exact ⟨block', rfl, inside⟩
  · rintro ⟨before, rfl, inside⟩
    exact ⟨before, index, inside, mem_quad_edges.mpr (.inr (.inr (.inr (.inr (.inl ⟨rfl, rfl⟩)))))⟩

theorem mem_blocks_up : ((block, index), (block + 1, index)) ∈ edges (grid size rows) ↔
    0 < index ∧ index < common size rows block := by
  rw [mem_edges_grid positive]
  constructor
  · rintro ⟨block', index', inside, member⟩
    simp only [mem_quad_edges, Prod.mk.injEq] at member
    obtain ⟨rfl, rfl⟩ : block' = block ∧ index = index' + 1 := by omega
    exact ⟨Nat.succ_pos _, inside⟩
  · rintro ⟨some, inside⟩
    obtain ⟨before, rfl⟩ := Nat.exists_eq_succ_of_ne_zero (Nat.ne_of_gt some)
    exact ⟨block, before, inside, mem_quad_edges.mpr (.inr (.inr (.inr (.inl ⟨rfl, rfl⟩))))⟩

theorem mem_blocks_back : ((block + 1, index), (block, index)) ∈ edges (grid size rows) ↔
    index + 1 < common size rows block := by
  rw [mem_edges_grid positive]
  constructor
  · rintro ⟨block', index', inside, member⟩
    simp only [mem_quad_edges, Prod.mk.injEq] at member
    obtain ⟨rfl, rfl⟩ : block' = block ∧ index' = index := by omega
    exact inside
  · intro inside
    exact ⟨block, index, inside, mem_quad_edges.mpr (.inr (.inr (.inl ⟨rfl, rfl⟩)))⟩

/-- Diagonals are crossed in both directions within their quad. -/
theorem mem_diagonals (inside : index + 1 < common size rows block) :
    ((block, index + 1), (block + 1, index)) ∈ edges (grid size rows) ∧
      ((block + 1, index), (block, index + 1)) ∈ edges (grid size rows) := by
  rw [mem_edges_grid positive, mem_edges_grid positive]
  exact ⟨⟨block, index, inside, mem_quad_edges.mpr (.inr (.inl ⟨rfl, rfl⟩))⟩,
    ⟨block, index, inside, mem_quad_edges.mpr (.inr (.inr (.inr (.inr (.inr ⟨rfl, rfl⟩)))))⟩⟩

theorem rows_rim (inside : index + 1 < common size rows block) :
    ((block, index + 1), (block, index)) ∉ edges (grid size rows) ↔
      Rim size rows (block, index) (block, index + 1) := by
  rw [common_eq] at inside
  have present := (lengthAt_pos_iff positive rows (block + 1)).mp (Nat.lt_of_le_of_lt (Nat.zero_le _) inside)
  rw [mem_rows_down positive, rim_rows_iff]
  constructor
  · intro alone
    refine ⟨rfl, .inl ?_⟩
    cases block with
    | zero => rfl
    | succ before =>
        have full : Blocks.lengthAt size rows (before + 1) = size := lengthAt_eq positive present
        have most := lengthAt_le size rows (before + 1 + 1)
        exact absurd ⟨before, rfl, by rw [common_eq]; omega⟩ alone
  · rintro ⟨-, rfl | last | ⟨last, -, beyond⟩⟩
    · rintro ⟨before, same, -⟩
      cases same
    · omega
    · omega

theorem rows_rim_back (inside : index + 1 < common size rows block) :
    ((block + 1, index), (block + 1, index + 1)) ∉ edges (grid size rows) ↔
      Rim size rows (block + 1, index) (block + 1, index + 1) := by
  rw [common_eq] at inside
  have present := (lengthAt_pos_iff positive rows (block + 1)).mp (Nat.lt_of_le_of_lt (Nat.zero_le _) inside)
  have following := lengthAt_pos_iff positive rows (block + 1 + 1)
  rw [mem_rows_up positive, rim_rows_iff, common_eq]
  have most := lengthAt_le size rows (block + 1)
  constructor
  · intro alone
    refine ⟨rfl, .inr ?_⟩
    rcases Nat.lt_or_ge (block + 1 + 1 + 1) (Blocks.count size rows) with more | few
    · have full : Blocks.lengthAt size rows (block + 1 + 1) = size := lengthAt_eq positive more
      omega
    · omega
  · rintro ⟨-, none | last | ⟨last, -, beyond⟩⟩
    · cases none
    · omega
    · omega

/-- An edge of the surface has no reverse exactly if it lies on the rim. -/
theorem not_mem_reverse_iff {x y : Nat × Nat} (edge : (x, y) ∈ edges (grid size rows)) :
    (y, x) ∉ edges (grid size rows) ↔ Rim size rows x y ∨ Rim size rows y x := by
  obtain ⟨block, index, inside, member⟩ := (mem_edges_grid positive rows).mp edge
  have diagonals := mem_diagonals positive rows block index inside
  rcases mem_quad_edges.mp member with ⟨rfl, rfl⟩ | ⟨rfl, rfl⟩ | ⟨rfl, rfl⟩ | ⟨rfl, rfl⟩ | ⟨rfl, rfl⟩ | ⟨rfl, rfl⟩
  · rw [rows_rim positive rows block index inside, or_iff_left not_rim_down]
  · rw [rim_blocks_iff, or_iff_left not_rim_back]
    exact ⟨fun alone => absurd diagonals.2 alone, fun ⟨same, _⟩ => absurd same (Nat.succ_ne_self index)⟩
  · rw [mem_blocks_up positive, rim_blocks_iff, or_iff_right not_rim_back]
    omega
  · rw [mem_blocks_back positive, rim_blocks_iff, or_iff_left not_rim_back]
    omega
  · rw [rows_rim_back positive rows block index inside, or_iff_right not_rim_down]
  · rw [rim_blocks_iff, or_iff_right not_rim_back]
    exact ⟨fun alone => absurd diagonals.1 alone, fun ⟨same, _⟩ => absurd same (Nat.succ_ne_self index)⟩

end reverse

/-! ## Edges by position -/

/-- The block and the index of a position. -/
def cell (size position : Nat) : Nat × Nat := (position / size, position % size)

theorem position_cell (size place : Nat) : position size (cell size place) = place :=
  Nat.div_add_mod' place size

theorem cell_position {size : Nat} {x : Nat × Nat} (inside : x.2 < size) : cell size (position size x) = x := by
  have positive := Nat.lt_of_le_of_lt (Nat.zero_le _) inside
  unfold cell position
  rw [Nat.add_comm, Nat.add_mul_div_right _ _ positive, Nat.div_eq_of_lt inside, Nat.zero_add,
    Nat.add_mul_mod_self_right, Nat.mod_eq_of_lt inside]

theorem index_lt_of_mem {size rows : Nat} (positive : 0 < size) {x y : Nat × Nat}
    (edge : (x, y) ∈ edges (grid size rows)) : x.2 < size ∧ y.2 < size := by
  obtain ⟨block, index, inside, member⟩ := (mem_edges_grid positive rows).mp edge
  have most := lengthAt_le size rows (block + 1)
  rw [common_eq] at inside
  rcases mem_quad_edges.mp member with ⟨rfl, rfl⟩ | ⟨rfl, rfl⟩ | ⟨rfl, rfl⟩ | ⟨rfl, rfl⟩ | ⟨rfl, rfl⟩ | ⟨rfl, rfl⟩
  all_goals
    dsimp only
    omega

theorem edges_positions {size : Nat} (positive : 0 < size) (rows : Nat) :
    edges (positions size rows) = (edges (grid size rows)).map (Prod.map (position size) (position size)) := by
  rw [positions_eq_grid positive, edges_map]

theorem mem_edges_positions {size : Nat} (positive : 0 < size) (rows : Nat) {a b : Nat} :
    (a, b) ∈ edges (positions size rows) ↔ (cell size a, cell size b) ∈ edges (grid size rows) := by
  rw [edges_positions positive, List.mem_map]
  constructor
  · rintro ⟨⟨x, y⟩, edge, same⟩
    obtain ⟨first, second⟩ := index_lt_of_mem positive edge
    obtain ⟨rfl, rfl⟩ := Prod.mk.inj same
    rw [cell_position first, cell_position second]
    exact edge
  · intro edge
    exact ⟨_, edge, Prod.ext (position_cell size a) (position_cell size b)⟩

theorem nodup_edges_positions {size : Nat} (positive : 0 < size) (rows : Nat) :
    (edges (positions size rows)).Nodup := by
  rw [edges_positions positive]
  refine (nodup_edges_grid size rows).map_on ?_
  rintro ⟨x, y⟩ edge ⟨x', y'⟩ edge' same
  obtain ⟨first, second⟩ := index_lt_of_mem positive edge
  obtain ⟨first', second'⟩ := index_lt_of_mem positive edge'
  obtain ⟨left, right⟩ := Prod.mk.inj same
  have sameFirst := congrArg (cell size) left
  have sameSecond := congrArg (cell size) right
  rw [cell_position first, cell_position first'] at sameFirst
  rw [cell_position second, cell_position second'] at sameSecond
  rw [sameFirst, sameSecond]

end Mesh

open Mesh in
/-- The surface over samples is gone round in one sense, and it ends exactly at the rim.  Its corners are
named by the positions of the rows. -/
theorem Samples.surface_oriented (samples : Samples) {size : Nat} (positive : 0 < size) :
    ∃ surface, samples.surface size = .ok surface ∧
      surface.map (Triangle.map some) = (positions size samples.rows.length).map
        (Triangle.map fun position => samples.rows[position]?.map Sample.point) ∧
      Oriented (positions size samples.rows.length) ∧
      ∀ a b, (a, b) ∈ edges (positions size samples.rows.length) →
        ((b, a) ∉ edges (positions size samples.rows.length) ↔
          Rim size samples.rows.length (cell size a) (cell size b) ∨
            Rim size samples.rows.length (cell size b) (cell size a)) := by
  obtain ⟨surface, built, named⟩ := samples.surface_eq_positions positive
  refine ⟨surface, built, named, oriented_of_nodup (nodup_edges_positions positive _), ?_⟩
  intro a b edge
  rw [mem_edges_positions positive] at edge ⊢
  exact not_mem_reverse_iff positive _ edge

/-- Two full blocks of three rows and a last one of two. -/
def Samples.eightRows : Samples := ofRows ((List.range 8).map fun position =>
  ⟨Float.ofNat (position / 3), Float.ofNat (position % 3), Float.ofNat position⟩)

theorem Samples.length_rows_eightRows : eightRows.rows.length = 8 := by
  rw [eightRows, rows_ofRows, List.length_map, List.length_range]

/-- The rows beyond the last block: the edge between the last two rows of the second block has no reverse. -/
theorem Samples.surface_oriented_eightRows :
    0 < 3 ∧ (∃ surface, eightRows.surface 3 = .ok surface ∧ surface.map (Triangle.map some) =
      (Mesh.positions 3 8).map (Triangle.map fun position => eightRows.rows[position]?.map Sample.point)) ∧
      Mesh.Oriented (Mesh.positions 3 8) ∧ (5, 4) ∈ Mesh.edges (Mesh.positions 3 8) ∧
      (4, 5) ∉ Mesh.edges (Mesh.positions 3 8) := by
  have positive : 0 < 3 := by decide
  have applied := surface_oriented eightRows positive
  rw [length_rows_eightRows] at applied
  obtain ⟨surface, built, named, oriented, rim⟩ := applied
  have edge : (5, 4) ∈ Mesh.edges (Mesh.positions 3 8) := by decide +kernel
  have onRim : Mesh.Rim 3 8 (Mesh.cell 3 4) (Mesh.cell 3 5) :=
    .beyondLast 1 1 (by decide) (by decide) (by decide)
  exact ⟨positive, ⟨surface, built, named⟩, oriented, edge, (rim 5 4 edge).mpr (.inr onRim)⟩

end QuicksortStudy
