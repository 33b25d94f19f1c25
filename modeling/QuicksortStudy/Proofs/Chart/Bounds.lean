import Mathlib
import QuicksortStudy.Proofs.Binary64.Halves
import QuicksortStudy.Proofs.Chart.Checks

/-!
# Bounds of a column

The numbers of a column meet each other one by one or in rows of four, but each meeting leaves one of the two, and none
that yields to the other.  So what is left in the end stands in the column and yields to nothing in it, whatever the
order of the column was and that of the meetings.  Only which of two equal zeros is left depends on them.
-/

namespace QuicksortStudy.Span

open Binary64

/-! ## What is left of some numbers -/

/-- A choice leaves one of two numbers, and never the one that stands higher on a scale. -/
structure Chooses (scale : Float → Int) (choose : Float → Float → Float) : Prop where
  takes : ∀ a b, choose a b = a ∨ choose a b = b
  first : ∀ a b, magnitude a ≤ infinity → magnitude b ≤ infinity → scale (choose a b) ≤ scale a
  second : ∀ a b, magnitude a ≤ infinity → magnitude b ≤ infinity → scale (choose a b) ≤ scale b

/-- What is left of some numbers: one of them that stands lowest on a scale. -/
structure LeftOf (scale : Float → Int) (numbers : List Float) (left : Float) : Prop where
  mem : left ∈ numbers
  least : ∀ x ∈ numbers, scale left ≤ scale x

section

variable {scale : Float → Int} {choose : Float → Float → Float} {a b c d left start : Float}
  {numbers numbers' column : List Float}

theorem LeftOf.of_perm (leftOf : LeftOf scale numbers left) (perm : numbers.Perm numbers') :
    LeftOf scale numbers' left :=
  ⟨perm.mem_iff.mp leftOf.mem, fun x member => leftOf.least x (perm.mem_iff.mpr member)⟩

/-- Two numbers can stand in the place of the one that was chosen from them. -/
theorem LeftOf.unmerge (front : List Float) (leftOf : LeftOf scale (front ++ choose a b :: numbers) left)
    (chooses : Chooses scale choose) (numberA : magnitude a ≤ infinity) (numberB : magnitude b ≤ infinity) :
    LeftOf scale (a :: (front ++ b :: numbers)) left := by
  obtain ⟨member, least⟩ := leftOf
  simp only [List.mem_append, List.mem_cons] at member least
  constructor
  · rcases chooses.takes a b with same | same <;>
    · rw [same] at member
      simp only [List.mem_append, List.mem_cons]
      tauto
  · intro x member
    have chosen := least (choose a b) (.inr (.inl rfl))
    simp only [List.mem_append, List.mem_cons] at member
    rcases member with rfl | inFront | rfl | behind
    · exact Int.le_trans chosen (chooses.first x b numberA numberB)
    · exact least x (.inl inFront)
    · exact Int.le_trans chosen (chooses.second a x numberA numberB)
    · exact least x (.inr (.inr behind))

theorem Chooses.number (chooses : Chooses scale choose) (numberA : magnitude a ≤ infinity)
    (numberB : magnitude b ≤ infinity) : magnitude (choose a b) ≤ infinity := by
  rcases chooses.takes a b with same | same
  · rwa [same]
  · rwa [same]

theorem leftOf_foldl (chooses : Chooses scale choose) (number : magnitude start ≤ infinity)
    (others : ∀ x ∈ column, magnitude x ≤ infinity) : LeftOf scale (start :: column) (column.foldl choose start) := by
  induction column generalizing start with
  | nil =>
      refine ⟨List.mem_cons_self, fun x member => ?_⟩
      rw [List.mem_singleton.mp member]
      exact Int.le_refl _
  | cons x rest ih =>
      have numberX := others x List.mem_cons_self
      have after := ih (chooses.number number numberX) fun y member => others y (List.mem_cons_of_mem x member)
      exact after.unmerge [] chooses number numberX

/-- Each row of four meets the four numbers so far, and the four that remain meet each other. -/
theorem leftOf_chooseInRows (chooses : Chooses scale choose) (numberA : magnitude a ≤ infinity)
    (numberB : magnitude b ≤ infinity) (numberC : magnitude c ≤ infinity) (numberD : magnitude d ≤ infinity)
    (others : ∀ x ∈ column, magnitude x ≤ infinity) :
    LeftOf scale (a :: b :: c :: d :: column) (chooseInRows choose a b c d column) := by
  induction a, b, c, d, column using chooseInRows.induct choose with
  | case1 a b c d w x y z rest ih =>
      simp only [List.forall_mem_cons] at others
      obtain ⟨numberW, numberX, numberY, numberZ, others⟩ := others
      have after := ih (chooses.number numberA numberW) (chooses.number numberB numberX)
        (chooses.number numberC numberY) (chooses.number numberD numberZ) others
      -- The four meetings of the row are undone from the last to the first, so that each number comes to its place.
      have after := LeftOf.unmerge [_, _, _] after chooses numberD numberZ
      have after := LeftOf.unmerge [_, _, _] after chooses numberC numberY
      have after := LeftOf.unmerge [_, _, _] after chooses numberB numberX
      exact LeftOf.unmerge [_, _, _] after chooses numberA numberW
  | case2 a b c d rest short =>
      have numberBD := chooses.number numberB numberD
      have numberAC := chooses.number numberA numberC
      have after := leftOf_foldl chooses (chooses.number numberBD numberAC) others
      have after := after.unmerge [] chooses numberBD numberAC
      have after := LeftOf.unmerge [_] after chooses numberA numberC
      have after := LeftOf.unmerge [_] after chooses numberB numberD
      rw [chooseInRows]
      · exact after.of_perm ((List.Perm.swap a b _).trans (((List.Perm.swap c d rest).cons b).cons a))
      · exact short

/-- The number to start from is not left, since it yields to every number of the column. -/
theorem LeftOf.of_starts {count : Nat} (leftOf : LeftOf scale (List.replicate count start ++ column) left)
    (yields : ∀ x ∈ column, scale x < scale start) (filled : column ≠ []) : LeftOf scale column left := by
  obtain ⟨member, least⟩ := leftOf
  refine ⟨?_, fun x inside => least x (List.mem_append_right _ inside)⟩
  rcases List.mem_append.mp member with started | inside
  · obtain ⟨x, inside⟩ := List.exists_mem_of_ne_nil column filled
    have below := least x (List.mem_append_right _ inside)
    rw [List.eq_of_mem_replicate started] at below
    exact absurd (yields x inside) (Int.not_lt.mpr below)
  · exact inside

end

theorem chooses_lesser : Chooses level lesser := by
  constructor
  · exact fun a b => ite_eq_or_eq ..
  · intro a b numberA numberB
    unfold lesser
    split_ifs with less
    · exact Int.le_refl _
    · exact (le_iff.mp (le_of_not_lt numberA numberB less)).2.2
  · intro a b numberA numberB
    unfold lesser
    split_ifs with less
    · exact Int.le_of_lt (lt_iff.mp less).2.2
    · exact Int.le_refl _

theorem chooses_greater : Chooses (-level ·) greater := by
  constructor
  · exact fun a b => ite_eq_or_eq ..
  · intro a b numberA numberB
    unfold greater
    split_ifs with more
    · exact Int.le_refl _
    · exact Int.neg_le_neg (le_iff.mp (le_of_not_lt numberB numberA more)).2.2
  · intro a b numberA numberB
    unfold greater
    split_ifs with more
    · exact Int.neg_le_neg (Int.le_of_lt (lt_iff.mp more).2.2)
    · exact Int.le_refl _

/-! ## The bounds -/

/-- A span whose ends are a least and a greatest value of a column. -/
structure Fits (span : Span) (column : List Float) : Prop where
  low_mem : span.low ∈ column
  high_mem : span.high ∈ column
  low_le : ∀ x ∈ column, span.low ≤ x
  le_high : ∀ x ∈ column, x ≤ span.high

/-- Spans with the same ends, but perhaps for the sign of a zero. -/
structure Alike (span span' : Span) : Prop where
  low : (span.low == span'.low) = true
  high : (span.high == span'.high) = true

section

variable {column column' : List Float} {span span' : Span}

/-- Ends that are left of a column and of some infinite numbers in front of it. -/
structure EndsOf (column : List Float) (ends : Span) : Prop where
  low : ∃ count, LeftOf level (List.replicate count (1.0 / 0.0) ++ column) ends.low
  high : ∃ count, LeftOf (-level ·) (List.replicate count (-1.0 / 0.0) ++ column) ends.high

theorem foldl_meet (span : Span) (column : List Float) :
    column.foldl meet span = ⟨column.foldl lesser span.low, column.foldl greater span.high⟩ := by
  induction column generalizing span with
  | nil => rfl
  | cons x rest ih => exact ih (span.meet x)

theorem endsOf_foldl (numbers : ∀ x ∈ column, magnitude x ≤ infinity) :
    EndsOf column (column.foldl meet ⟨1.0 / 0.0, -1.0 / 0.0⟩) := by
  rw [foldl_meet]
  exact ⟨⟨1, leftOf_foldl chooses_lesser (by decide +kernel) numbers⟩,
    ⟨1, leftOf_foldl chooses_greater (by decide +kernel) numbers⟩⟩

theorem endsOf_inRows (numbers : ∀ x ∈ column, magnitude x ≤ infinity) :
    EndsOf column ⟨extreme lesser (1.0 / 0.0) column, extreme greater (-1.0 / 0.0) column⟩ := by
  have upper : magnitude (1.0 / 0.0) ≤ infinity := by decide +kernel
  have lower : magnitude (-1.0 / 0.0) ≤ infinity := by decide +kernel
  exact ⟨⟨4, leftOf_chooseInRows chooses_lesser upper upper upper upper numbers⟩,
    ⟨4, leftOf_chooseInRows chooses_greater lower lower lower lower numbers⟩⟩

theorem EndsOf.fits (ends : EndsOf column span) (filled : column ≠ [])
    (finite : ∀ x ∈ column, magnitude x < infinity) : span.Fits column := by
  have numbers : ∀ x ∈ column, magnitude x ≤ infinity := fun x inside => Nat.le_of_lt (finite x inside)
  obtain ⟨⟨_, low⟩, ⟨_, high⟩⟩ := ends
  have least : LeftOf level column span.low := by
    refine low.of_starts (fun x inside => ?_) filled
    rw [level_infinity]
    exact (level_of_finite (finite x inside)).2
  have greatest : LeftOf (-level ·) column span.high := by
    refine high.of_starts (fun x inside => ?_) filled
    rw [level_neg_infinity]
    exact Int.neg_lt_neg (level_of_finite (finite x inside)).1
  refine ⟨least.mem, greatest.mem, fun x inside => ?_, fun x inside => ?_⟩
  · exact le_iff.mpr ⟨numbers _ least.mem, numbers x inside, least.least x inside⟩
  · exact le_iff.mpr ⟨numbers x inside, numbers _ greatest.mem, Int.neg_le_neg_iff.mp (greatest.least x inside)⟩

theorem fits_checked {ends : Span} (found : (∀ x ∈ column, magnitude x ≤ infinity) → EndsOf column ends)
    (some : checked column ends = some span) : (∀ x ∈ column, magnitude x < infinity) ∧ span.Fits column := by
  have usable := mt checked_eq_none_iff.mpr (Option.ne_none_iff_exists'.mpr ⟨span, some⟩)
  rw [not_or] at usable
  obtain ⟨filled, noneBad⟩ := usable
  have finite : ∀ x ∈ column, magnitude x < infinity := fun x inside =>
    (isFinite_iff x).mp (Bool.of_not_eq_false fun bad => noneBad ⟨x, inside, bad⟩)
  unfold checked at some
  rw [Option.ite_none_left_eq_some, Option.some_inj] at some
  obtain ⟨-, rfl⟩ := some
  exact ⟨finite, (found fun x inside => Nat.le_of_lt (finite x inside)).fits filled finite⟩

theorem fits_bounds (some : bounds column = some span) :
    (∀ x ∈ column, magnitude x < infinity) ∧ span.Fits column := fits_checked endsOf_foldl some

theorem Fits.of_perm (fits : span.Fits column) (perm : column.Perm column') : span.Fits column' where
  low_mem := perm.mem_iff.mp fits.low_mem
  high_mem := perm.mem_iff.mp fits.high_mem
  low_le x inside := fits.low_le x (perm.mem_iff.mpr inside)
  le_high x inside := fits.le_high x (perm.mem_iff.mpr inside)

theorem Fits.alike (fits : span.Fits column) (fits' : span'.Fits column) : Alike span span' where
  low := beq_of_le_of_ge (fits.low_le _ fits'.low_mem) (fits'.low_le _ fits.low_mem)
  high := beq_of_le_of_ge (fits'.le_high _ fits.high_mem) (fits.le_high _ fits'.high_mem)

/-! ## The axis -/

/-- A span of finite ends with nothing of a column beyond them. -/
structure Encloses (span : Span) (column : List Float) : Prop where
  low_finite : span.low.isFinite = true
  high_finite : span.high.isFinite = true
  low_le : ∀ x ∈ column, span.low ≤ x
  le_high : ∀ x ∈ column, x ≤ span.high

theorem axis_eq (column : List Float) : axis column = (bounds column).map widened := rfl

theorem encloses_widened (finite : ∀ x ∈ column, magnitude x < infinity) (fits : span.Fits column) :
    span.widened.Encloses column := by
  have finiteLow := finite _ fits.low_mem
  have finiteHigh := finite _ fits.high_mem
  unfold widened
  split_ifs with extent
  · exact ⟨(isFinite_iff _).mpr finiteLow, (isFinite_iff _).mpr finiteHigh, fits.low_le, fits.le_high⟩
  · have finiteLow' := finite_sub_half finiteLow
    have finiteHigh' := finite_add_half finiteHigh
    refine ⟨(isFinite_iff _).mpr finiteLow', (isFinite_iff _).mpr finiteHigh', fun x inside => ?_, fun x inside => ?_⟩
    · refine le_of_le_of_le (le_iff.mpr ⟨?_, ?_, level_sub_half_le finiteLow⟩) (fits.low_le x inside)
      · exact Nat.le_of_lt finiteLow'
      · exact Nat.le_of_lt finiteLow
    · refine le_of_le_of_le (fits.le_high x inside) (le_iff.mpr ⟨?_, ?_, level_le_add_half finiteHigh⟩)
      · exact Nat.le_of_lt finiteHigh
      · exact Nat.le_of_lt finiteHigh'

/-- A column of two different numbers has bounds of some extent. -/
theorem Fits.low_lt_high {x y : Float} (fits : span.Fits column) (insideX : x ∈ column) (insideY : y ∈ column)
    (differ : (x == y) = false) : span.low < span.high := by
  by_contra flat
  obtain ⟨numberLow, numberX, lowX⟩ := le_iff.mp (fits.low_le x insideX)
  obtain ⟨-, numberHigh, highX⟩ := le_iff.mp (fits.le_high x insideX)
  obtain ⟨-, numberY, lowY⟩ := le_iff.mp (fits.low_le y insideY)
  have highY := (le_iff.mp (fits.le_high y insideY)).2.2
  have flat := (le_iff.mp (le_of_not_lt numberLow numberHigh flat)).2.2
  have same := beq_iff.mpr ⟨numberX, numberY, by omega⟩
  rw [differ] at same
  exact Bool.false_ne_true same

theorem Alike.widened (alike : Alike span span') (low : magnitude span.low < infinity)
    (high : magnitude span.high < infinity) (low' : magnitude span'.low < infinity)
    (high' : magnitude span'.high < infinity) : Alike span.widened span'.widened := by
  have sameLow := (beq_iff.mp alike.low).2.2
  have sameHigh := (beq_iff.mp alike.high).2.2
  have extent : span.low < span.high ↔ span'.low < span'.high := by
    rw [lt_iff_level (Nat.le_of_lt low) (Nat.le_of_lt high), lt_iff_level (Nat.le_of_lt low') (Nat.le_of_lt high'),
      sameLow, sameHigh]
  simp only [Span.widened, extent]
  split_ifs with some
  · exact alike
  · constructor
    · refine beq_iff.mpr ⟨Nat.le_of_lt (finite_sub_half low), Nat.le_of_lt (finite_sub_half low'), ?_⟩
      rw [level_sub_half low, level_sub_half low', signedUnits_eq_of_level_eq sameLow]
    · refine beq_iff.mpr ⟨Nat.le_of_lt (finite_add_half high), Nat.le_of_lt (finite_add_half high'), ?_⟩
      rw [level_add_half high, level_add_half high', signedUnits_eq_of_level_eq sameHigh]

/-- The order of the numbers and of their meetings shows in the sign of a zero only. -/
theorem alike_checked {ends ends' : Span} (perm : column'.Perm column)
    (found' : (∀ x ∈ column', magnitude x ≤ infinity) → EndsOf column' ends')
    (found : (∀ x ∈ column, magnitude x ≤ infinity) → EndsOf column ends) :
    Option.Rel Alike (checked column' ends') (checked column ends) ∧
      Option.Rel Alike ((checked column' ends').map widened) ((checked column ends).map widened) := by
  have none_iff : checked column' ends' = none ↔ checked column ends = none := by
    simp only [checked_eq_none_iff, ← List.length_eq_zero_iff, perm.length_eq, perm.mem_iff]
  cases hasEnds : checked column ends with
  | none =>
      rw [none_iff.mpr hasEnds]
      exact ⟨.none, .none⟩
  | some span =>
      obtain ⟨span', hasEnds'⟩ := Option.ne_none_iff_exists'.mp (mt none_iff.mp (hasEnds ▸ nofun))
      rw [hasEnds']
      obtain ⟨finite, fits⟩ := fits_checked found hasEnds
      have fits' := (fits_checked found' hasEnds').2.of_perm perm
      have alike := fits'.alike fits
      exact ⟨.some alike, .some (alike.widened (finite _ fits'.low_mem) (finite _ fits'.high_mem)
        (finite _ fits.low_mem) (finite _ fits.high_mem))⟩

/-- It does not matter whether the numbers meet one by one or in rows of four. -/
theorem alike_inRows (column : List Float) :
    Option.Rel Alike (boundsInRows column) (bounds column) ∧ Option.Rel Alike (axisInRows column) (axis column) :=
  alike_checked (List.Perm.refl column) endsOf_inRows endsOf_foldl

end

/-- The bounds and the axis of a column, whatever its numbers and their order. -/
theorem axis_encloses (column : List Float) :
    (bounds column = none ↔ column = [] ∨ ∃ x ∈ column, x.isFinite = false) ∧
      (axis column = none ↔ column = [] ∨ ∃ x ∈ column, x.isFinite = false) ∧
      (∀ span, bounds column = some span → span.Fits column) ∧
      (∀ span, axis column = some span → span.Encloses column) ∧
      ((∃ x ∈ column, ∃ y ∈ column, (x == y) = false) → axis column = bounds column) ∧
      ∀ column', column'.Perm column →
        Option.Rel Alike (bounds column') (bounds column) ∧ Option.Rel Alike (axis column') (axis column) := by
  refine ⟨checked_eq_none_iff, axis_eq_none_iff, fun span some => (fits_bounds some).2, fun span some => ?_,
    fun differ => ?_, fun column' perm => alike_checked perm endsOf_foldl endsOf_foldl⟩
  · rw [axis_eq, Option.map_eq_some_iff] at some
    obtain ⟨bounds, hasBounds, rfl⟩ := some
    obtain ⟨finite, fits⟩ := fits_bounds hasBounds
    exact encloses_widened finite fits
  · obtain ⟨x, insideX, y, insideY, differ⟩ := differ
    rw [axis_eq]
    cases hasBounds : bounds column with
    | none => rfl
    | some span =>
        have extent := (fits_bounds hasBounds).2.low_lt_high insideX insideY differ
        rw [Option.map_some, widened, if_pos extent]

end QuicksortStudy.Span
