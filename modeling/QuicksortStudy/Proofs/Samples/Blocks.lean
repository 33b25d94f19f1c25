import Mathlib
import QuicksortStudy.Samples.Blocks

/-!
# Blocks by position

Cutting rows into blocks and picking the rows at either end of a block are the same thing seen from two
sides.  Both come down to positions: row `j` of block `k` stands at position `k * size + j`.
-/

namespace QuicksortStudy.Blocks

variable {α β : Type}

/-- The number of blocks of some rows. -/
def count (size rows : Nat) : Nat := (rows + size - 1) / size

/-- The number of rows in a block. -/
def lengthAt (size rows block : Nat) : Nat := min size (rows - block * size)

theorem lengthAt_succ (size rows block : Nat) :
    lengthAt size rows (block + 1) = lengthAt size (rows - size) block := by
  unfold lengthAt
  rw [Nat.succ_mul]
  omega

theorem cut_map (f : α → β) (size : Nat) (xs : List α) :
    cut size (xs.map f) = (cut size xs).map (List.map f) := by
  fun_induction cut size xs with
  | case1 xs stop =>
      unfold cut
      rcases stop with zero | empty
      · rw [if_pos (.inl zero), List.map_nil]
      · rw [if_pos (.inr (by rw [empty, List.map_nil])), List.map_nil]
  | case2 xs more ih =>
      rw [not_or] at more
      rw [cut_cons (Nat.pos_of_ne_zero more.1) (by simpa using more.2), ← List.map_drop, ih, ← List.map_take,
        List.map_cons]

/-- The rows of a block stand next to each other. -/
theorem getElem?_cut {size : Nat} (positive : 0 < size) (xs : List α) (block : Nat) :
    (cut size xs)[block]? =
      if block * size < xs.length then some ((xs.drop (block * size)).take size) else none := by
  induction block generalizing xs with
  | zero =>
      cases xs with
      | nil => rw [cut_nil, if_neg (by simp)]; rfl
      | cons x rest =>
          rw [cut_cons positive (List.cons_ne_nil x rest), if_pos (by simp), Nat.zero_mul]
          rfl
  | succ block ih =>
      cases xs with
      | nil => rw [cut_nil, if_neg (by simp)]; rfl
      | cons x rest =>
          have inRest : block * size < ((x :: rest).drop size).length ↔
              (block + 1) * size < (x :: rest).length := by
            rw [List.length_drop, Nat.succ_mul]
            omega
          rw [cut_cons positive (List.cons_ne_nil x rest), List.getElem?_cons_succ, ih]
          simp only [inRest, List.drop_drop, Nat.succ_mul, Nat.add_comm size]

theorem lt_count_iff {size : Nat} (positive : 0 < size) (rows block : Nat) :
    block < count size rows ↔ block * size < rows := by
  unfold count
  rw [Nat.lt_iff_add_one_le, Nat.le_div_iff_mul_le positive, Nat.succ_mul]
  omega

theorem length_of_getElem?_cut {size : Nat} (positive : 0 < size) {xs : List α} {block : Nat} {rows : List α}
    (found : (cut size xs)[block]? = some rows) : rows.length = lengthAt size xs.length block := by
  rw [getElem?_cut positive] at found
  split at found
  · cases found
    rw [List.length_take, List.length_drop]
    rfl
  · cases found

/-! ## Ends of blocks -/

theorem filter_zipIdx_mod {size remainder distance : Nat} (near : distance < size) (xs : List α) (start : Nat)
    (hit : (start + distance) % size = remainder) (block : Nat) :
    (((xs.zipIdx start).filter fun (_, position) => position % size == remainder).map (·.1))[block]? =
      xs[block * size + distance]? := by
  -- The next row that is picked stands at a known distance; each row that is passed brings it nearer.
  induction xs generalizing start distance block with
  | nil => rfl
  | cons x rest ih =>
      rw [List.zipIdx_cons, List.filter_cons]
      cases distance with
      | zero =>
          have here : (start % size == remainder) = true := beq_iff_eq.mpr hit
          rw [if_pos here, List.map_cons]
          cases block with
          | zero => rw [Nat.zero_mul]; rfl
          | succ block =>
              have next : (start + 1 + (size - 1)) % size = remainder := by
                rw [show start + 1 + (size - 1) = start + size by omega, Nat.add_mod_right]
                exact hit
              rw [List.getElem?_cons_succ, ih (by omega) (start + 1) next block, Nat.succ_mul,
                show block * size + size + 0 = block * size + (size - 1) + 1 by omega, List.getElem?_cons_succ]
      | succ distance =>
          have passed : ¬(start % size == remainder) = true := by
            intro hitHere
            have same : start % size = remainder := eq_of_beq hitHere
            have whole := Nat.sub_mod_eq_zero_of_mod_eq (hit.trans same.symm)
            rw [Nat.add_sub_cancel_left, Nat.mod_eq_of_lt near] at whole
            cases whole
          have next : (start + 1 + distance) % size = remainder := by
            rw [Nat.add_right_comm]
            exact hit
          rw [if_neg passed, ih (by omega) (start + 1) next block,
            ← Nat.add_assoc, List.getElem?_cons_succ]

theorem getElem?_atRemainder {size remainder : Nat} (near : remainder < size) (xs : List α) (block : Nat) :
    (atRemainder size remainder xs)[block]? = xs[block * size + remainder]? :=
  filter_zipIdx_mod near xs 0 (by rw [Nat.zero_add, Nat.mod_eq_of_lt near]) block

/-- Cut into blocks, each block that reaches far enough gives the row at its own index. -/
theorem atRemainder_eq_filterMap {size remainder : Nat} (near : remainder < size) (xs : List α) :
    atRemainder size remainder xs = (cut size xs).filterMap fun block => block[remainder]? := by
  fun_induction cut size xs with
  | case1 xs stop =>
      rcases stop with zero | empty
      · exact absurd near (by rw [zero]; exact Nat.not_lt_zero remainder)
      · rw [empty]
        rfl
  | case2 xs more ih =>
      have here : (xs.take size)[remainder]? = xs[remainder]? := List.getElem?_take_of_lt near
      rw [List.filterMap_cons, here, ← ih]
      apply List.ext_getElem?
      intro block
      rw [getElem?_atRemainder near]
      cases found : xs[remainder]? with
      | none =>
          have short := List.getElem?_eq_none_iff.mp found
          rw [getElem?_atRemainder near, List.getElem?_drop, List.getElem?_eq_none (by omega),
            List.getElem?_eq_none (by omega)]
      | some x =>
          cases block with
          | zero => rw [Nat.zero_mul, Nat.zero_add, found, List.getElem?_cons_zero]
          | succ block =>
              rw [List.getElem?_cons_succ, getElem?_atRemainder near, List.getElem?_drop, Nat.succ_mul,
                Nat.add_comm (block * size), Nat.add_assoc]

theorem getElem?_firsts {size : Nat} (positive : 0 < size) (xs : List α) (block : Nat) :
    (firsts size xs)[block]? = xs[block * size]? := getElem?_atRemainder positive xs block

theorem getElem?_lasts {size : Nat} (positive : 0 < size) (xs : List α) (block : Nat) :
    (lasts size xs)[block]? = xs[block * size + (size - 1)]? :=
  getElem?_atRemainder (Nat.sub_lt positive Nat.one_pos) xs block

theorem length_eq_of_none {xs : List α} {n : Nat} (none : ∀ position, xs[position]? = Option.none ↔ n ≤ position) :
    xs.length = n := by
  apply Nat.le_antisymm
  · exact List.getElem?_eq_none_iff.mp ((none n).mpr (Nat.le_refl n))
  · exact (none xs.length).mp (List.getElem?_eq_none_iff.mpr (Nat.le_refl _))

/-- Every block begins, also one that is not full. -/
theorem length_firsts {size : Nat} (positive : 0 < size) (xs : List α) :
    (firsts size xs).length = count size xs.length := by
  apply length_eq_of_none
  intro block
  rw [getElem?_firsts positive, List.getElem?_eq_none_iff, ← Nat.not_lt, ← Nat.not_lt, lt_count_iff positive]

/-- Only full blocks end. -/
theorem length_lasts {size : Nat} (positive : 0 < size) (xs : List α) :
    (lasts size xs).length = xs.length / size := by
  apply length_eq_of_none
  intro block
  rw [getElem?_lasts positive, List.getElem?_eq_none_iff, ← Nat.lt_add_one_iff (m := xs.length / size),
    Nat.div_lt_iff_lt_mul positive, Nat.succ_mul]
  omega

end QuicksortStudy.Blocks
