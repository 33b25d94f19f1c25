import Mathlib
import QuicksortStudy.Proofs.Decimal.Numeral
import QuicksortStudy.Proofs.Results.Blame
import QuicksortStudy.Proofs.Results.Records

/-!
# Written rows read back

The bytes of some samples are read as one record a row, and the record of a row is the row again, unless one of its
values is not finite.  So a results file holds exactly its rows, or each of its bad records stands for a row with a
value that is not finite.
-/

namespace QuicksortStudy

/-! ## Lines of samples -/

namespace Sample

/-- The texts of the columns of a sample. -/
def texts (row : Sample) : List (List Char) :=
  columns.map fun column => NumberStyle.results.write (row.value column)

/-- Every column holds a finite number. -/
def Finite (row : Sample) : Prop := ∀ column, (row.value column).isFinite = true

theorem visible_of_isNumeral {c : Char} (numeral : NumberStyle.isNumeral c = true) :
    c.toNat < 128 ∧ c ≠ ' ' ∧ c ≠ '"' ∧ c ≠ '\n' ∧ c ≠ '\r' := by
  have unlike (d : Char) (other : NumberStyle.isNumeral d = false) : c ≠ d := by
    rintro rfl
    rw [numeral] at other
    cases other
  refine ⟨?_, unlike ' ' rfl, unlike '"' rfl, unlike '\n' rfl, unlike '\r' rfl⟩
  unfold NumberStyle.isNumeral at numeral
  rcases Bool.or_eq_true_iff.mp numeral with digit | listed
  · simp only [Char.isDigit, Bool.and_eq_true, decide_eq_true_eq, UInt32.le_iff_toNat_le] at digit
    have most : c.toNat ≤ 57 := digit.2
    omega
  · have member := List.contains_iff_mem.mp listed
    have all : ['.', 'e', '-', 'i', 'n', 'f', 'N', 'a'].all (fun d => d.toNat < 128) = true := rfl
    exact of_decide_eq_true (List.all_eq_true.mp all c member)

theorem plainText_write (style : NumberStyle) (x : Float) : Record.PlainText (style.write x) := by
  have numeral := List.all_eq_true.mp (NumberStyle.all_isNumeral_write style x)
  exact ⟨NumberStyle.write_ne_nil style x, fun c member => (visible_of_isNumeral (numeral c member)).1,
    fun c member => (visible_of_isNumeral (numeral c member)).2⟩

theorem plainText_texts (row : Sample) : ∀ cs ∈ row.texts, Record.PlainText cs := by
  intro cs member
  obtain ⟨column, -, rfl⟩ := List.mem_map.mp member
  exact plainText_write _ _

theorem line_bytes (row : Sample) :
    row.line.map Utf8.asciiByte = RecordReader.lineBytes (Record.fieldBytes row.texts) := by
  unfold line texts
  simp only [List.map_append, List.map_cons, List.map_nil]
  rfl

/-- The record of a line is the row, checked. -/
theorem ofFields_texts (row : Sample) : ofFields (row.texts.map String.ofList) = row.finite? := by
  have filled (x : Float) : String.ofList (NumberStyle.results.write x) ≠ "" := by
    intro empty
    have nothing := congrArg String.toList empty
    rw [String.toList_ofList] at nothing
    exact NumberStyle.write_ne_nil _ _ nothing
  have number (index : Nat) (x : Float) :
      number? index (String.ofList (NumberStyle.results.write x)) = .ok x := by
    unfold number? Literal.parse?
    rw [String.toList_ofList, NumberStyle.read?_write]
  have fields : row.texts.map String.ofList = [String.ofList (NumberStyle.results.write row.size),
      String.ofList (NumberStyle.results.write row.sortedness),
      String.ofList (NumberStyle.results.write row.time)] := rfl
  have kept : (row.texts.map String.ofList).filter (· ≠ "") = row.texts.map String.ofList := by
    rw [fields]
    simp [filled]
  unfold ofFields
  rw [kept, fields]
  dsimp only
  rw [number, number, number]
  rfl

theorem finite?_of_finite {row : Sample} (finite : row.Finite) : row.finite? = .ok row := by
  have none : columns.find? (fun column => !(row.value column).isFinite) = none := by
    rw [List.find?_eq_none]
    intro column _
    simp [finite column]
  unfold finite?
  rw [none]

end Sample

/-! ## Files of samples -/

namespace Samples

theorem bytes_eq_lines (samples : Samples) :
    samples.bytes = (samples.rows.map Sample.texts).flatMap fun fields =>
      RecordReader.lineBytes (Record.fieldBytes fields) := by
  unfold bytes text
  rw [List.map_flatMap, List.flatMap_map]
  congr 1
  funext row
  exact Sample.line_bytes row

/-- A results file is read as the texts of its rows, each with the number of its line. -/
theorem readAll_bytes (samples : Samples) :
    Record.readAll samples.bytes =
      .ok ((samples.rows.zipIdx 1).map fun (row, line) => ⟨line, row.texts.map String.ofList⟩) := by
  rw [bytes_eq_lines, Record.readAll_lines, List.zipIdx_map, List.map_map]
  · rfl
  · intro fields member
    obtain ⟨row, -, rfl⟩ := List.mem_map.mp member
    exact List.cons_ne_nil _ _
  · intro fields member
    obtain ⟨row, -, rfl⟩ := List.mem_map.mp member
    exact row.plainText_texts

end Samples

/-! ## Values that are not finite -/

namespace Sample

/-- The first column of a sample that is not finite. -/
structure FirstBadColumn (row : Sample) (column : Column) : Prop where
  before : ∃ before after, columns = before ++ column :: after ∧ ∀ other ∈ before, (row.value other).isFinite = true
  here : (row.value column).isFinite = false

theorem finite?_of_firstBadColumn {row : Sample} {column : Column} (bad : FirstBadColumn row column) :
    row.finite? = .error (.notFinite column (row.value column)) := by
  obtain ⟨⟨before, after, split, finite⟩, here⟩ := bad
  have found : (columns.find? fun column => !(row.value column).isFinite) = some column := by
    rw [List.find?_eq_some_iff_append]
    exact ⟨by rw [here]; rfl, before, after, split, fun other member => by rw [finite other member]; rfl⟩
  unfold finite?
  rw [found]

theorem exists_firstBadColumn {row : Sample} (bad : ¬row.Finite) : ∃ column, FirstBadColumn row column := by
  cases found : columns.find? fun column => !(row.value column).isFinite with
  | none =>
      refine absurd (fun column => ?_) bad
      have listed : column ∈ columns := by cases column <;> decide
      simpa using List.find?_eq_none.mp found column listed
  | some column =>
      refine ⟨column, ?_, by simpa using List.find?_some found⟩
      obtain ⟨-, before, after, split, good⟩ := List.find?_eq_some_iff_append.mp found
      exact ⟨before, after, split, fun other member => by simpa using good other member⟩

theorem finite?_eq_ok_iff {sample row : Sample} : finite? sample = .ok row ↔ sample = row ∧ row.Finite := by
  by_cases finite : sample.Finite
  · rw [finite?_of_finite finite]
    constructor
    · rintro ⟨⟩
      exact ⟨rfl, finite⟩
    · rintro ⟨rfl, -⟩
      rfl
  · obtain ⟨column, bad⟩ := exists_firstBadColumn finite
    rw [finite?_of_firstBadColumn bad]
    constructor
    · rintro ⟨⟩
    · rintro ⟨rfl, finite'⟩
      exact absurd finite' finite

end Sample

/-- A row at some position, and its first column that is not finite. -/
structure NotFiniteAt (rows : List Sample) (row : Sample) (position : Nat) (column : Sample.Column) : Prop where
  at_position : rows[position]? = some row
  first : row.FirstBadColumn column

namespace RecordFile

/-- The file of some rows, with a line for each. -/
def ofRows (path : String) (rows : List Sample) : RecordFile :=
  ⟨path, (rows.zipIdx 1).map fun (row, line) => ⟨line, row.texts.map String.ofList⟩⟩

theorem good_ofRows (path : String) {rows : List Sample} (finite : ∀ row ∈ rows, row.Finite) :
    (ofRows path rows).Good rows := by
  have same : rows = (rows.zipIdx 1).map Prod.fst := (List.zipIdx_map_fst 1 rows).symm
  unfold Good ofRows
  conv => rhs; rw [same]
  rw [List.forall₂_map_left_iff, List.forall₂_map_right_iff, List.forall₂_same]
  rintro ⟨row, line⟩ member
  exact (row.ofFields_texts).trans (Sample.finite?_of_finite (finite row (List.fst_mem_of_mem_zipIdx member)))

theorem getElem?_ofRows (path : String) (rows : List Sample) (position : Nat) : (ofRows path rows).records[position]? =
    rows[position]?.map fun row => ⟨position + 1, row.texts.map String.ofList⟩ := by
  unfold ofRows
  rw [List.getElem?_map, List.getElem?_zipIdx, Option.map_map, Nat.add_comm]
  rfl

theorem finite_of_good {path : String} {rows rows' : List Sample} (good : (ofRows path rows).Good rows') :
    ∀ row ∈ rows, row.Finite := by
  intro row member
  obtain ⟨position, found⟩ := List.mem_iff_getElem?.mp member
  have listed := getElem?_ofRows path rows position
  rw [found, Option.map_some] at listed
  obtain ⟨row', done⟩ := exists_of_forall₂ good _ (List.mem_of_getElem? listed)
  rw [Sample.ofFields_texts] at done
  obtain ⟨rfl, finite⟩ := Sample.finite?_eq_ok_iff.mp done
  exact finite

/-- A bad record stands for a row with a value that is not finite. -/
theorem notFiniteAt_of_badBehind {path : String} {rows : List Sample} {before : List Record} {record : Record}
    {error : RowError} (bad : (ofRows path rows).BadBehind before record error) :
    ∃ row column, NotFiniteAt rows row before.length column ∧ record.line = before.length + 1 ∧
      error = .notFinite column (row.value column) := by
  obtain ⟨⟨after, split⟩, failed⟩ := bad
  have found : (ofRows path rows).records[before.length]? = some record := by
    rw [split, getElem?_behind]
  rw [getElem?_ofRows, Option.map_eq_some_iff] at found
  obtain ⟨row, at_position, rfl⟩ := found
  rw [Sample.ofFields_texts] at failed
  have notFinite : ¬row.Finite := by
    intro finite
    rw [Sample.finite?_of_finite finite] at failed
    cases failed
  obtain ⟨column, first⟩ := Sample.exists_firstBadColumn notFinite
  rw [Sample.finite?_of_firstBadColumn first] at failed
  exact ⟨row, column, ⟨at_position, first⟩, rfl, (Except.error.inj failed).symm⟩

theorem finite_before {path : String} {rows : List Sample} {before : List Record} {record : Record} {error : RowError}
    (bad : (ofRows path rows).BadBehind before record error)
    (good : ∀ other ∈ before, ∃ row, Sample.ofFields other.fields = .ok row) :
    ∀ row ∈ rows.take before.length, row.Finite := by
  obtain ⟨⟨after, split⟩, -⟩ := bad
  intro row member
  obtain ⟨index, early, rfl⟩ := List.mem_take_iff_getElem.mp member
  obtain ⟨early, inside⟩ := lt_min_iff.mp early
  have found := getElem?_ofRows path rows index
  rw [split, List.getElem?_append_left early, List.getElem?_eq_getElem early, List.getElem?_eq_getElem inside,
    Option.map_some] at found
  obtain ⟨row, done⟩ := good before[index] (List.getElem_mem early)
  rw [Option.some.inj found, Sample.ofFields_texts] at done
  obtain ⟨same, finite⟩ := Sample.finite?_eq_ok_iff.mp done
  rw [same]
  exact finite

theorem samplesOf_single (schedule : Schedule) (file : RecordFile) :
    (samplesOf schedule [file]).result = file.samples schedule := by
  unfold samplesOf
  cases file.samples schedule with
  | error error => rfl
  | ok rows =>
      unfold samplesOf
      dsimp only [Except.map]
      rw [List.append_nil]

end RecordFile

namespace Samples

/-- Columns of one length are those of their rows. -/
theorem ofRows_rows {samples : Samples} (aligned : samples.Aligned) : ofRows samples.rows = samples := by
  rcases samples with ⟨sizes, sortedness, times⟩
  obtain ⟨second, third⟩ := aligned
  dsimp only [length] at second third
  induction sizes generalizing sortedness times with
  | nil =>
      cases List.eq_nil_of_length_eq_zero second
      cases List.eq_nil_of_length_eq_zero third
      rfl
  | cons size sizes ih =>
      cases sortedness with
      | nil => cases second
      | cons value sortedness =>
          cases times with
          | nil => cases third
          | cons time times =>
              have rest := ih sortedness times (Nat.succ.inj second) (Nat.succ.inj third)
              obtain ⟨first, second, third⟩ := Samples.mk.inj rest
              exact congr (congr (congrArg Samples.mk (congrArg (size :: ·) first))
                (congrArg (value :: ·) second)) (congrArg (time :: ·) third)

end Samples

end QuicksortStudy
