import Mathlib
import QuicksortStudy.Proofs.Results.Accepted

/-!
# What is said of a row

A row that is wrong in several ways gets one complaint, and which one is fixed: first the number of fields, then
the first field that is no literal, then the first column that is not finite.  Empty fields take no part in this;
they are only shown when the number of fields is complained of.
-/

namespace QuicksortStudy

namespace Sample

/-- The fields that are not empty. -/
def given (fields : List String) : List String := fields.filter (· ≠ "")

/-- Fields that are literals of the values of a sample, column by column. -/
def WrittenAs (row : Sample) (fields : List String) : Prop :=
  List.Forall₂ (fun field column => Literal.read? field.toList = some (row.value column)) fields columns

/-- The first of some fields that is no literal. -/
structure FirstNotLiteral (fields : List String) (index : Nat) : Prop where
  before : ∀ field ∈ fields.take index, Literal.IsLiteral field.toList
  here : ∃ field, fields[index]? = some field ∧ ¬Literal.IsLiteral field.toList

/-- The four ends of reading a row. -/
inductive Outcome (fields : List String) : Except RowError Sample → Prop where
  | wrongLength (other : (given fields).length ≠ 3) :
      Outcome fields (.error (.wrongLength (given fields).length fields))
  | notNumber {index : Nat} (three : (given fields).length = 3) (bad : FirstNotLiteral (given fields) index) :
      Outcome fields (.error (.notNumber index))
  | notFinite {row : Sample} {column : Column} (written : row.WrittenAs (given fields))
      (bad : FirstBadColumn row column) : Outcome fields (.error (.notFinite column (row.value column)))
  | sample {row : Sample} (written : row.WrittenAs (given fields)) (finite : row.Finite) : Outcome fields (.ok row)

/-! ## Fields and columns -/

theorem exists_firstNotLiteral {fields : List String} (bad : ¬∀ field ∈ fields, Literal.IsLiteral field.toList) :
    ∃ index, FirstNotLiteral fields index := by
  induction fields with
  | nil => exact absurd (List.forall_mem_nil _) bad
  | cons field fields ih =>
      by_cases literal : Literal.IsLiteral field.toList
      · obtain ⟨index, found⟩ := ih fun all => bad (List.forall_mem_cons.mpr ⟨literal, all⟩)
        exact ⟨index + 1, List.forall_mem_cons.mpr ⟨literal, found.before⟩, found.here⟩
      · exact ⟨0, List.forall_mem_nil _, field, rfl, literal⟩

theorem number?_of_read? {index : Nat} {field : String} {x : Float} (value : Literal.read? field.toList = some x) :
    number? index field = .ok x := by
  rw [← String.ofList_toList (s := field)]
  exact number?_eq_ok_iff.mpr value

theorem number?_of_literal (index : Nat) {field : String} (literal : Literal.IsLiteral field.toList) :
    ∃ x, number? index field = .ok x := by
  obtain ⟨x, value⟩ := Literal.exists_read?_iff.mpr literal
  exact ⟨x, number?_of_read? value⟩

theorem number?_of_not_literal {index : Nat} {field : String} (bad : ¬Literal.IsLiteral field.toList) :
    number? index field = .error (.notNumber index) := by
  unfold number? Literal.parse?
  cases read : Literal.read? field.toList with
  | none => rfl
  | some x => exact absurd (Literal.exists_read?_iff.mp ⟨x, read⟩) bad

/-! ## Rows -/

theorem ofFields_of_three {fields : List String} {a b c : String} (three : given fields = [a, b, c]) :
    ofFields fields = (do finite? ⟨← number? 0 a, ← number? 1 b, ← number? 2 c⟩) := by
  unfold given at three
  unfold ofFields
  rw [three]

theorem ofFields_of_written {fields : List String} {row : Sample} (written : row.WrittenAs (given fields)) :
    ofFields fields = row.finite? := by
  unfold WrittenAs columns at written
  obtain ⟨a, others, size, two, three⟩ := List.forall₂_cons_right_iff.mp written
  obtain ⟨b, others, sortedness, one, rfl⟩ := List.forall₂_cons_right_iff.mp two
  obtain ⟨c, others, time, none, rfl⟩ := List.forall₂_cons_right_iff.mp one
  cases none
  rw [ofFields_of_three three, number?_of_read? size, number?_of_read? sortedness, number?_of_read? time]
  rfl

/-- Fields are read in order, so the first one that is no literal ends the reading. -/
theorem ofFields_of_firstNotLiteral {fields : List String} {index : Nat} (three : (given fields).length = 3)
    (bad : FirstNotLiteral (given fields) index) : ofFields fields = .error (.notNumber index) := by
  obtain ⟨a, b, c, isGiven⟩ := List.length_eq_three.mp three
  rw [isGiven] at bad
  obtain ⟨before, field, here, bad⟩ := bad
  rw [ofFields_of_three isGiven]
  match index with
  | 0 =>
      cases here
      rw [number?_of_not_literal bad]
      rfl
  | 1 =>
      cases here
      obtain ⟨x, size⟩ := number?_of_literal 0 (before a (List.mem_cons_self ..))
      rw [size, number?_of_not_literal bad]
      rfl
  | 2 =>
      cases here
      obtain ⟨x, size⟩ := number?_of_literal 0 (before a (List.mem_cons_self ..))
      obtain ⟨y, sortedness⟩ := number?_of_literal 1
        (before b (List.mem_cons_of_mem a (List.mem_cons_self ..)))
      rw [size, sortedness, number?_of_not_literal bad]
      rfl
  | index + 3 => cases here

theorem ofFields_of_outcome {fields : List String} {answer : Except RowError Sample}
    (outcome : Outcome fields answer) : ofFields fields = answer := by
  cases outcome with
  | wrongLength other =>
      unfold ofFields
      split
      · next size sortedness time three => exact absurd (congrArg List.length three) other
      · rfl
  | notNumber three bad => exact ofFields_of_firstNotLiteral three bad
  | notFinite written bad => rw [ofFields_of_written written, finite?_of_firstBadColumn bad]
  | sample written finite => rw [ofFields_of_written written, finite?_of_finite finite]

/-- Three literals are written for some sample. -/
theorem exists_written {fields : List String} (three : fields.length = 3)
    (literals : ∀ field ∈ fields, Literal.IsLiteral field.toList) : ∃ row : Sample, row.WrittenAs fields := by
  obtain ⟨a, b, c, rfl⟩ := List.length_eq_three.mp three
  obtain ⟨isSize, isSortedness, isTime, -⟩ :
      Literal.IsLiteral a.toList ∧ Literal.IsLiteral b.toList ∧ Literal.IsLiteral c.toList ∧ _ := by
    simpa only [List.forall_mem_cons] using literals
  obtain ⟨x, size⟩ := Literal.exists_read?_iff.mpr isSize
  obtain ⟨y, sortedness⟩ := Literal.exists_read?_iff.mpr isSortedness
  obtain ⟨z, time⟩ := Literal.exists_read?_iff.mpr isTime
  exact ⟨⟨x, y, z⟩, .cons size (.cons sortedness (.cons time .nil))⟩

theorem exists_outcome (fields : List String) : ∃ answer, Outcome fields answer := by
  by_cases three : (given fields).length = 3
  · by_cases literals : ∀ field ∈ given fields, Literal.IsLiteral field.toList
    · obtain ⟨row, written⟩ := exists_written three literals
      by_cases finite : row.Finite
      · exact ⟨_, .sample written finite⟩
      · obtain ⟨column, bad⟩ := exists_firstBadColumn finite
        exact ⟨_, .notFinite written bad⟩
    · obtain ⟨index, bad⟩ := exists_firstNotLiteral literals
      exact ⟨_, .notNumber three bad⟩
  · exact ⟨_, .wrongLength three⟩

end Sample

/-- The complaint with other fields to show. -/
def RowError.showing (fields : List String) : RowError → RowError
  | wrongLength count _ => wrongLength count fields
  | notNumber index => notNumber index
  | notFinite column value => notFinite column value

namespace Sample

/-- Empty fields change nothing but what is shown of them. -/
theorem Outcome.with_same_given {fields fields' : List String} {answer : Except RowError Sample}
    (outcome : Outcome fields answer) (same : given fields' = given fields) :
    Outcome fields' (answer.mapError (RowError.showing fields')) := by
  cases outcome with
  | wrongLength other =>
      rw [← same] at other ⊢
      exact .wrongLength other
  | notNumber three bad =>
      rw [← same] at three bad
      exact .notNumber three bad
  | notFinite written bad =>
      rw [← same] at written
      exact .notFinite written bad
  | sample written finite =>
      rw [← same] at written
      exact .sample written finite

/-- What is said of a row: one of four things, told apart in a fixed order, which empty fields have no part in. -/
theorem ofFields_outcome (fields : List String) :
    (∀ answer, ofFields fields = answer ↔ Outcome fields answer) ∧
    (∀ fields', given fields' = given fields →
      ofFields fields' = (ofFields fields).mapError (RowError.showing fields')) ∧
    columns.map Column.name = ["array size", "sortedness", "execution time"] ∧
    (∀ count shown, (RowError.wrongLength count shown).message =
      "improper row length (" ++ toString count ++ "): " ++ Quoted.list shown) ∧
    (∀ index, (RowError.notNumber index).message =
      "CSV deserialize error: field " ++ toString index ++ ": invalid float literal") ∧
    ∀ column value, (RowError.notFinite column value).message =
      "non-finite " ++ column.name ++ ": " ++ NumberStyle.message.text value := by
  obtain ⟨answer, outcome⟩ := exists_outcome fields
  have isAnswer := ofFields_of_outcome outcome
  refine ⟨fun other => ⟨?_, ofFields_of_outcome⟩, fun fields' same => ?_, rfl, fun _ _ => rfl, fun _ => rfl,
    fun _ _ => rfl⟩
  · rintro rfl
    rw [isAnswer]
    exact outcome
  · rw [isAnswer]
    exact ofFields_of_outcome (outcome.with_same_given same)

/-- A value too large for a number comes before a word, but the word is complained of; with one more word there
are too many fields. -/
theorem ofFields_outcome_wordAndInfinite :
    given ["", "1e999", "2", "x", ""] = given ["1e999", "2", "x"] ∧
      ofFields ["", "1e999", "2", "x", ""] = .error (.notNumber 2) ∧
      ofFields ["1e999", "2", "x"] = .error (.notNumber 2) ∧
      ofFields ["", "1e999", "2", "x", "y"] = .error (.wrongLength 4 ["", "1e999", "2", "x", "y"]) := by
  have same : given ["", "1e999", "2", "x", ""] = given ["1e999", "2", "x"] := by decide
  have plain : ofFields ["1e999", "2", "x"] = .error (.notNumber 2) :=
    ((ofFields_outcome _).1 _).mpr (.notNumber (by decide) ⟨by decide +kernel, "x", rfl, by decide +kernel⟩)
  have padded := (ofFields_outcome ["1e999", "2", "x"]).2.1 _ same
  rw [plain] at padded
  exact ⟨same, padded, plain, ((ofFields_outcome _).1 _).mpr (.wrongLength (by decide))⟩

end Sample

end QuicksortStudy
