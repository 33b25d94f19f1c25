import Mathlib
import QuicksortStudy.Proofs.Results.Rows
import QuicksortStudy.Proofs.Samples.Blocks
import QuicksortStudy.Samples.Blocks

/-!
# Samples as a list of rows

Samples are kept as three columns, but whoever works with them only sees a list of rows.  Every operation on
columns of some rows does to them what its counterpart does to the list, and fails when that one fails.  So
after any operations the columns are equally long, and every question about them is answered as the list
answers it.
-/

namespace QuicksortStudy.Samples

/-! ## Columns of rows -/

theorem foldl_push (before rows : List Sample) : rows.foldl push (ofRows before) = ofRows (before ++ rows) := by
  induction rows generalizing before with
  | nil => rw [List.append_nil, List.foldl_nil]
  | cons row rows ih => rw [List.foldl_cons, ← ofRows_concat, ih, List.append_assoc, List.singleton_append]

theorem tail_ofRows (count : Nat) (rows : List Sample) : (ofRows rows).tail count = ofRows (rows.rtake count) := by
  unfold tail List.rtake
  rw [length_ofRows]
  unfold ofRows
  rw [List.map_drop, List.map_drop, List.map_drop]

theorem isEmpty_ofRows (rows : List Sample) : (ofRows rows).isEmpty = rows.isEmpty := by
  cases rows with
  | nil => rfl
  | cons row rows => rfl

theorem get?_ofRows (rows : List Sample) (position : Nat) : (ofRows rows).get? position = rows[position]? := by
  unfold get? ofRows
  rw [List.getElem?_map, List.getElem?_map, List.getElem?_map]
  cases rows[position]? with
  | none => rfl
  | some row => rfl

/-- Columns are equal as numbers when the rows are, one by one. -/
theorem equals_ofRows (rows others : List Sample) :
    (ofRows rows).equals (ofRows others) = true ↔ List.Forall₂ (fun a b => a.equals b = true) rows others := by
  induction rows generalizing others with
  | nil =>
      cases others with
      | nil => exact iff_of_true rfl .nil
      | cons other others => exact iff_of_false nofun nofun
  | cons row rows ih =>
      cases others with
      | nil => exact iff_of_false nofun nofun
      | cons other others =>
          rw [List.forall₂_cons, ← ih]
          simp only [equals, ofRows, Sample.equals, Sample.columns, Sample.value, List.map_cons, List.cons_beq_cons,
            List.all_cons, List.all_nil, Bool.and_eq_true, and_true]
          constructor
          · rintro ⟨⟨⟨sameSize, sizes⟩, sameSortedness, sortedness⟩, sameTime, times⟩
            exact ⟨⟨sameSize, sameSortedness, sameTime⟩, ⟨sizes, sortedness⟩, times⟩
          · rintro ⟨⟨sameSize, sameSortedness, sameTime⟩, ⟨sizes, sortedness⟩, times⟩
            exact ⟨⟨⟨sameSize, sizes⟩, sameSortedness, sortedness⟩, sameTime, times⟩

/-! ## Operations -/

/-- A change of samples. -/
inductive Operation where
  /-- Begin again with no measurements. -/
  | clear
  /-- Begin again with room for a number of measurements. -/
  | reserve (count : Nat)
  /-- Begin again with some rows. -/
  | collect (rows : List Sample)
  | push (row : Sample)
  /-- Append all rows that there are. -/
  | double
  | keepLast (count : Nat)
  /-- Keep the reference curve of the worst case. -/
  | keepWorst (blockSize : Nat)
  /-- Keep the reference curve of the best case. -/
  | keepBest (blockSize : Nat)

namespace Operation

/-- Why an operation fails. -/
inductive Failure where
  | noRoom
  | blocks (error : BlockError)

/-- What an operation does to samples. -/
def apply (samples : Samples) : Operation → Except Failure Samples
  | clear => .ok empty
  | reserve count =>
    match withRoom count with
    | none => .error .noRoom
    | some fresh => .ok fresh
  | collect rows => .ok (ofRows rows)
  | push row => .ok (samples.push row)
  | double => .ok (samples.append samples)
  | keepLast count => .ok (samples.tail count)
  | keepWorst blockSize => ((samples.envelopes blockSize).map Envelopes.worst).mapError .blocks
  | keepBest blockSize => ((samples.envelopes blockSize).map Envelopes.best).mapError .blocks

/-- What an operation does to a list of rows. -/
def onRows (rows : List Sample) : Operation → Except Failure (List Sample)
  | clear => .ok []
  | reserve count => if Room.fits Room.numberWidth count then .ok [] else .error .noRoom
  | collect others => .ok others
  | push row => .ok (rows ++ [row])
  | double => .ok (rows ++ rows)
  | keepLast count => .ok (rows.rtake count)
  | keepWorst blockSize =>
    if blockSize = 0 then .error (.blocks .zeroSize)
    else .ok ((Blocks.cut blockSize rows).filterMap fun block => block[0]?)
  | keepBest blockSize =>
    if blockSize = 0 then .error (.blocks .zeroSize)
    else .ok ((Blocks.cut blockSize rows).filterMap fun block => block[blockSize - 1]?)

/-- An operation does to columns what it does to their rows. -/
theorem apply_ofRows (operation : Operation) (rows : List Sample) :
    operation.apply (ofRows rows) = (operation.onRows rows).map ofRows := by
  cases operation with
  | clear => rfl
  | reserve count =>
      unfold apply onRows withRoom
      dsimp only
      cases Room.fits Room.numberWidth count with
      | false => rfl
      | true => rfl
  | collect others => rfl
  | push row => exact congrArg Except.ok (ofRows_concat rows row).symm
  | double => exact congrArg Except.ok (ofRows_append rows rows).symm
  | keepLast count => exact congrArg Except.ok (tail_ofRows count rows)
  | keepWorst blockSize =>
      unfold apply onRows envelopes
      dsimp only
      split
      · rfl
      · next positive =>
          rw [rows_ofRows, Blocks.firsts, Blocks.atRemainder_eq_filterMap (Nat.pos_of_ne_zero positive)]
          rfl
  | keepBest blockSize =>
      unfold apply onRows envelopes
      dsimp only
      split
      · rfl
      · next positive =>
          rw [rows_ofRows, Blocks.lasts,
            Blocks.atRemainder_eq_filterMap (Nat.sub_lt (Nat.pos_of_ne_zero positive) Nat.one_pos)]
          rfl

end Operation

/-- Samples after an operation; one that fails leaves them as they are. -/
def after (samples : Samples) (operation : Operation) : Samples :=
  match operation.apply samples with
  | .ok next => next
  | .error _ => samples

/-- Samples after some operations, which begin with no measurements. -/
def build (operations : List Operation) : Samples := operations.foldl after empty

/-- Rows after an operation; one that fails leaves them as they are. -/
def rowsAfter (rows : List Sample) (operation : Operation) : List Sample :=
  match operation.onRows rows with
  | .ok next => next
  | .error _ => rows

/-- Rows after some operations, which begin with none. -/
def buildRows (operations : List Operation) : List Sample := operations.foldl rowsAfter []

theorem after_ofRows (rows : List Sample) (operation : Operation) :
    (ofRows rows).after operation = ofRows (rowsAfter rows operation) := by
  unfold after rowsAfter
  rw [operation.apply_ofRows]
  cases operation.onRows rows with
  | ok next => rfl
  | error failure => rfl

theorem build_concat (operations : List Operation) (operation : Operation) :
    build (operations ++ [operation]) = (build operations).after operation := List.foldl_concat ..

theorem foldl_after_ofRows (rows : List Sample) (operations : List Operation) :
    operations.foldl after (ofRows rows) = ofRows (operations.foldl rowsAfter rows) := by
  induction operations generalizing rows with
  | nil => rfl
  | cons operation operations ih => rw [List.foldl_cons, List.foldl_cons, after_ofRows, ih]

/-- After any operations the samples are the columns of the rows that the same operations leave in a list. -/
theorem build_eq_ofRows (operations : List Operation) : build operations = ofRows (buildRows operations) :=
  foldl_after_ofRows [] operations

theorem Operation.apply_eq_zeroSize_iff (operation : Operation) (samples : Samples) :
    operation.apply samples = .error (.blocks .zeroSize) ↔ operation = .keepWorst 0 ∨ operation = .keepBest 0 := by
  cases operation with
  | reserve count =>
      unfold apply withRoom
      dsimp only
      cases Room.fits Room.numberWidth count with
      | false => exact iff_of_false nofun nofun
      | true => exact iff_of_false nofun nofun
  | keepWorst blockSize =>
      cases blockSize with
      | zero => exact iff_of_true rfl (.inl rfl)
      | succ blockSize => simp [apply, envelopes, Except.map, Except.mapError]
  | keepBest blockSize =>
      cases blockSize with
      | zero => exact iff_of_true rfl (.inr rfl)
      | succ blockSize => simp [apply, envelopes, Except.map, Except.mapError]
  | clear | collect | push | double | keepLast => exact iff_of_false nofun nofun

/-! ## Questions -/

/-- Samples that answer every question as a list of rows does. -/
structure Represents (samples : Samples) (list : List Sample) : Prop where
  aligned : samples.sortedness.length = samples.sizes.length ∧ samples.times.length = samples.sizes.length
  rows : samples.rows = list
  length : samples.length = list.length
  isEmpty : samples.isEmpty = list.isEmpty
  get? : ∀ position, samples.get? position = list[position]?
  /-- The tail is the end of the list that has the length asked for, or all of a list that is too short. -/
  tail : ∀ count, (samples.tail count).rows <:+ list ∧ (samples.tail count).rows.length = min count list.length
  /-- To append rows is to push them one after another. -/
  append : ∀ others, samples.append (ofRows others) = others.foldl push samples
  /-- The samples can be built again from their rows, also one row at a time. -/
  collect : ofRows samples.rows = samples ∧ samples.rows.foldl push empty = samples

theorem represents_ofRows (rows : List Sample) : Represents (ofRows rows) rows where
  aligned := aligned_ofRows rows
  rows := rows_ofRows rows
  length := length_ofRows rows
  isEmpty := isEmpty_ofRows rows
  get? := get?_ofRows rows
  tail count := by
    rw [tail_ofRows, rows_ofRows]
    refine ⟨List.drop_suffix _ rows, ?_⟩
    unfold List.rtake
    rw [List.length_drop]
    omega
  append others := by
    rw [← ofRows_append, foldl_push]
  collect := by
    rw [rows_ofRows]
    exact ⟨rfl, foldl_push [] rows⟩

/-- What holds of samples after some operations, and of the one that comes next. -/
structure Refines (operations : List Operation) : Prop where
  represents : Represents (build operations) (buildRows operations)
  equals : ∀ others, (build operations).equals (build others) = true ↔
    List.Forall₂ (fun a b => a.equals b = true) (buildRows operations) (buildRows others)
  apply : ∀ operation : Operation,
    operation.apply (build operations) = (operation.onRows (buildRows operations)).map ofRows
  zeroSize : ∀ operation : Operation, operation.apply (build operations) = .error (.blocks .zeroSize) ↔
    operation = .keepWorst 0 ∨ operation = .keepBest 0
  failed : ∀ (operation : Operation) failure, operation.apply (build operations) = .error failure →
    build (operations ++ [operation]) = build operations

/-- Whatever is done to samples, they stay a list of rows in columns. -/
theorem build_refines (operations : List Operation) : Refines operations where
  represents := by
    rw [build_eq_ofRows]
    exact represents_ofRows (buildRows operations)
  equals others := by
    rw [build_eq_ofRows, build_eq_ofRows]
    exact equals_ofRows (buildRows operations) (buildRows others)
  apply operation := by
    rw [build_eq_ofRows]
    exact operation.apply_ofRows (buildRows operations)
  zeroSize operation := operation.apply_eq_zeroSize_iff (build operations)
  failed operation failure fails := by
    rw [build_concat]
    unfold after
    rw [fails]

end QuicksortStudy.Samples
