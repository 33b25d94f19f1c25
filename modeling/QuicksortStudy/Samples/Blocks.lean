import QuicksortStudy.Samples

/-!
# Blocks

Measurements come in blocks of a fixed number of rows, one block for each array size, and only their position says
where a block begins.  Lists of any kind are cut into blocks, and the entries at either end of them are picked.

The rows of a block go from the least to the most sorted array.  Its first row is the worst case for the choice of the
pivot and its last row the best case, so the first rows of all blocks follow the quadratic curve and the last rows of
full blocks the linearithmic one.  Nothing is fitted.
-/

namespace QuicksortStudy

inductive BlockError where
  | zeroSize
  deriving Repr, DecidableEq

def BlockError.message : BlockError → String
  | zeroSize => "block size must be at least 1"

namespace Blocks

variable {α : Type}

/-- A list cut into blocks; only the last block may be shorter.  A block size of zero gives no blocks. -/
def cut (size : Nat) (xs : List α) : List (List α) :=
  if size = 0 ∨ xs = [] then [] else xs.take size :: cut size (xs.drop size)
termination_by xs.length
decreasing_by
  rename_i bad
  simp only [not_or, ← List.length_pos_iff] at bad
  simp only [List.length_drop]
  omega

/-- The entries whose position leaves a given remainder. -/
def atRemainder (size remainder : Nat) (xs : List α) : List α :=
  (xs.zipIdx.filter fun (_, position) => position % size == remainder).map (·.1)

def firsts (size : Nat) (xs : List α) : List α := atRemainder size 0 xs

/-- The entries that end a full block. -/
def lasts (size : Nat) (xs : List α) : List α := atRemainder size (size - 1) xs

theorem cut_nil (size : Nat) : cut size ([] : List α) = [] := by
  unfold cut
  simp

theorem cut_cons {size : Nat} (positive : 0 < size) {xs : List α} (some : xs ≠ []) :
    cut size xs = xs.take size :: cut size (xs.drop size) := by
  rw [cut]
  simp [Nat.pos_iff_ne_zero.1 positive, some]

end Blocks

structure Envelopes where
  /-- The first row of every block, also of one that is not full. -/
  worst : Samples
  /-- The last row of every full block. -/
  best : Samples
  deriving Repr, DecidableEq

def Samples.envelopes (samples : Samples) (blockSize : Nat) : Except BlockError Envelopes :=
  if blockSize = 0 then .error .zeroSize
  else .ok ⟨.ofRows (Blocks.firsts blockSize samples.rows),
    .ofRows (Blocks.lasts blockSize samples.rows)⟩

theorem Samples.envelopes_zero (samples : Samples) : samples.envelopes 0 = .error .zeroSize := rfl

end QuicksortStudy
