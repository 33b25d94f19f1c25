import Mathlib
import QuicksortStudy.Proofs.Samples.Blocks

/-!
# The reference curves block by block

The worst curve has the first row of every block and the best curve the last row of every full one.  A block at
the end that is not full is seen by the worst curve only.
-/

namespace QuicksortStudy

/-! ## Ends of blocks, block by block -/

namespace Blocks

variable {α : Type} {size : Nat}

theorem length_le_of_mem_cut (positive : 0 < size) {xs block : List α} (member : block ∈ cut size xs) :
    block.length ≤ size := by
  obtain ⟨index, found⟩ := List.mem_iff_getElem?.mp member
  rw [length_of_getElem?_cut positive found]
  exact Nat.min_le_left ..

theorem firsts_eq_filterMap (positive : 0 < size) (xs : List α) :
    firsts size xs = (cut size xs).filterMap List.head? := by
  simp only [List.head?_eq_getElem?]
  exact atRemainder_eq_filterMap positive xs

/-- A block that is not full has no row at the last index. -/
theorem lasts_eq_filterMap (positive : 0 < size) (xs : List α) :
    lasts size xs = ((cut size xs).filter fun block => block.length = size).filterMap List.getLast? := by
  have last : size - 1 < size := Nat.sub_lt positive Nat.one_pos
  rw [List.filterMap_filter]
  refine (atRemainder_eq_filterMap last xs).trans (List.filterMap_congr fun block member => ?_)
  by_cases full : block.length = size
  · simp [full, List.getLast?_eq_getElem?]
  · have short := length_le_of_mem_cut positive member
    simp only [full, decide_false, Bool.false_eq_true, if_false]
    exact List.getElem?_eq_none (by omega)

/-- Full blocks are cut off before the rest. -/
theorem cut_append {full : List α} (whole : size ∣ full.length) (rest : List α) :
    cut size (full ++ rest) = cut size full ++ cut size rest := by
  fun_induction cut size full with
  | case1 full stop =>
      rcases stop with rfl | rfl
      · simp [cut]
      · rfl
  | case2 full more ih =>
      obtain ⟨positive, some⟩ := not_or.mp more
      have reaches : size ≤ full.length := Nat.le_of_dvd (List.length_pos_iff.mpr some) whole
      have others : size ∣ (full.drop size).length := by
        rw [List.length_drop]
        exact Nat.dvd_sub whole (Nat.dvd_refl size)
      rw [cut_cons (Nat.pos_of_ne_zero positive) (List.append_ne_nil_of_left_ne_nil some rest),
        List.take_append_of_le_length reaches, List.drop_append_of_le_length reaches, ih others, List.cons_append]

theorem cut_of_short {rest : List α} (some : rest ≠ []) (short : rest.length < size) : cut size rest = [rest] := by
  rw [cut_cons (Nat.lt_of_le_of_lt (Nat.zero_le _) short) some, List.take_of_length_le (Nat.le_of_lt short),
    List.drop_eq_nil_of_le (Nat.le_of_lt short), cut_nil]

/-- The rows behind the last full block begin one more block, if there are any. -/
theorem firsts_append {full rest : List α} (whole : size ∣ full.length) (short : rest.length < size) :
    firsts size (full ++ rest) = firsts size full ++ rest.head?.toList := by
  have positive : 0 < size := Nat.lt_of_le_of_lt (Nat.zero_le _) short
  rw [firsts_eq_filterMap positive, firsts_eq_filterMap positive, cut_append whole, List.filterMap_append]
  cases rest with
  | nil => rw [cut_nil]; rfl
  | cons row rows => rw [cut_of_short (List.cons_ne_nil row rows) short]; rfl

/-- The rows behind the last full block end none. -/
theorem lasts_append {full rest : List α} (whole : size ∣ full.length) (short : rest.length < size) :
    lasts size (full ++ rest) = lasts size full := by
  have positive : 0 < size := Nat.lt_of_le_of_lt (Nat.zero_le _) short
  rw [lasts_eq_filterMap positive, lasts_eq_filterMap positive, cut_append whole, List.filter_append,
    List.filterMap_append]
  cases rest with
  | nil =>
      rw [cut_nil]
      exact List.append_nil _
  | cons row rows =>
      rw [cut_of_short (List.cons_ne_nil row rows) short, List.filter_cons_of_neg (by simpa using Nat.ne_of_lt short)]
      exact List.append_nil _

end Blocks

/-! ## Reference curves -/

namespace Samples

variable {samples : Samples} {size : Nat} {curves : Envelopes}

theorem envelopes_of_positive (samples : Samples) (positive : 0 < size) :
    samples.envelopes size =
      .ok ⟨.ofRows (Blocks.firsts size samples.rows), .ofRows (Blocks.lasts size samples.rows)⟩ :=
  if_neg (Nat.pos_iff_ne_zero.mp positive)

theorem rows_worst (positive : 0 < size) (drawn : samples.envelopes size = .ok curves) (block : Nat) :
    curves.worst.rows[block]? = samples.rows[block * size]? := by
  cases (samples.envelopes_of_positive positive).symm.trans drawn
  rw [rows_ofRows, Blocks.getElem?_firsts positive]

theorem rows_best (positive : 0 < size) (drawn : samples.envelopes size = .ok curves) (block : Nat) :
    curves.best.rows[block]? = samples.rows[block * size + (size - 1)]? := by
  cases (samples.envelopes_of_positive positive).symm.trans drawn
  rw [rows_ofRows, Blocks.getElem?_lasts positive]

theorem length_best (positive : 0 < size) (drawn : samples.envelopes size = .ok curves) :
    curves.best.rows.length = curves.best.length := by
  cases (samples.envelopes_of_positive positive).symm.trans drawn
  rw [rows_ofRows, length_ofRows]

/-- The curves follow the blocks: their rows by position, their rows block by block, and what the rows behind the
last full block add to them. -/
structure FollowBlocks (samples : Samples) (size : Nat) (curves : Envelopes) : Prop where
  aligned : curves.worst.Aligned ∧ curves.best.Aligned
  length_worst : curves.worst.length = samples.rows.length ⌈/⌉ size
  length_best : curves.best.length = samples.rows.length / size
  worst_at : ∀ block, curves.worst.rows[block]? = samples.rows[block * size]?
  best_at : ∀ block, curves.best.rows[block]? = samples.rows[block * size + (size - 1)]?
  worst_by_block : curves.worst.rows = (Blocks.cut size samples.rows).filterMap List.head?
  best_by_block : curves.best.rows =
    ((Blocks.cut size samples.rows).filter fun block => block.length = size).filterMap List.getLast?
  trailing : ∀ full rest, samples.rows = full ++ rest → size ∣ full.length → rest.length < size →
    ∃ before, (ofRows full).envelopes size = .ok before ∧ curves.best = before.best ∧
      curves.worst.rows = before.worst.rows ++ rest.head?.toList

/-- The reference curves take the ends of the blocks and nothing else.  Without a block size there are none. -/
theorem envelopes_by_blocks (samples : Samples) {size : Nat} (positive : 0 < size) :
    samples.envelopes 0 = .error .zeroSize ∧
      ∃ curves, samples.envelopes size = .ok curves ∧ FollowBlocks samples size curves := by
  have drawn := samples.envelopes_of_positive positive
  refine ⟨samples.envelopes_zero, _, drawn, ?_⟩
  constructor
  case aligned => exact ⟨aligned_ofRows _, aligned_ofRows _⟩
  case length_worst => rw [length_ofRows, Blocks.length_firsts positive, Nat.ceilDiv_eq_add_pred_div, Blocks.count]
  case length_best => rw [length_ofRows, Blocks.length_lasts positive]
  case worst_at => exact rows_worst positive drawn
  case best_at => exact rows_best positive drawn
  case worst_by_block => rw [rows_ofRows, Blocks.firsts_eq_filterMap positive]
  case best_by_block => rw [rows_ofRows, Blocks.lasts_eq_filterMap positive]
  case trailing =>
    intro full rest split whole short
    refine ⟨_, (ofRows full).envelopes_of_positive positive, ?_, ?_⟩
    · rw [split, rows_ofRows, Blocks.lasts_append whole short]
    · rw [rows_ofRows, rows_ofRows, rows_ofRows, split, Blocks.firsts_append whole short]

/-- Two full blocks of two rows and one row behind them. -/
def fiveRows : Samples := ⟨[10, 10, 20, 20, 30], [4, 0, 4, 0, 4], [5, 1, 9, 2, 7]⟩

/-- The row behind the full blocks is on the worst curve only. -/
theorem envelopes_by_blocks_fiveRows :
    0 < 2 ∧ ∃ curves, fiveRows.envelopes 2 = .ok curves ∧ FollowBlocks fiveRows 2 curves ∧
      curves.worst.rows = [⟨10, 4, 5⟩, ⟨20, 4, 9⟩, ⟨30, 4, 7⟩] ∧ curves.best.rows = [⟨10, 0, 1⟩, ⟨20, 0, 2⟩] := by
  obtain ⟨-, curves, drawn, follow⟩ := envelopes_by_blocks fiveRows (show 0 < 2 by decide)
  have blocks : Blocks.cut 2 fiveRows.rows =
      [[⟨10, 4, 5⟩, ⟨10, 0, 1⟩], [⟨20, 4, 9⟩, ⟨20, 0, 2⟩], [⟨30, 4, 7⟩]] := by
    simp [fiveRows, rows, Blocks.cut]
  refine ⟨by decide, curves, drawn, follow, ?_, ?_⟩
  · rw [follow.worst_by_block, blocks]
    rfl
  · rw [follow.best_by_block, blocks]
    rfl

end Samples

end QuicksortStudy
