import Mathlib
import QuicksortStudy.Proofs.Decimal.Grammar
import QuicksortStudy.Proofs.Results.Blame
import QuicksortStudy.Proofs.Results.Records
import QuicksortStudy.Proofs.Results.Rows
import QuicksortStudy.Proofs.Results.Unquoted
import QuicksortStudy.Proofs.Text.Layout

/-!
# What a results file may be

A text without quotes is loaded if and only if each of its lines has three fields that are literals of finite
numbers.  Then the columns hold these numbers, line by line.  So the layout of the text makes no difference,
but a line of spaces is a bad row.
-/

namespace QuicksortStudy

open Layout

/-! ## Rows -/

namespace Sample

/-- A field that stands for a finite number. -/
structure IsNumber (field : List Char) (x : Float) : Prop where
  literal : Literal.IsLiteral field
  value : Literal.read? field = some x
  finite : x.isFinite = true

/-- Three fields that stand for a size, a sortedness and a time. -/
inductive IsRow : List (List Char) → Sample → Prop where
  | fields {size sortedness time : List Char} {row : Sample} (hasSize : IsNumber size row.size)
      (hasSortedness : IsNumber sortedness row.sortedness) (hasTime : IsNumber time row.time) :
      IsRow [size, sortedness, time] row

/-- The finite number that a field stands for. -/
def ofWord? (field : List Char) : Option Float := (Literal.read? field).filter Float.isFinite

/-- The sample that some words stand for. -/
def ofWords? : List (List Char) → Option Sample
  | [size, sortedness, time] => do return ⟨← ofWord? size, ← ofWord? sortedness, ← ofWord? time⟩
  | _ => none

theorem IsNumber.of_read? {field : List Char} {x : Float} (value : Literal.read? field = some x)
    (finite : x.isFinite = true) : IsNumber field x :=
  ⟨Literal.exists_read?_iff.mp ⟨x, value⟩, value, finite⟩

theorem ofWord?_eq_some_iff {field : List Char} {x : Float} : ofWord? field = some x ↔ IsNumber field x := by
  unfold ofWord?
  rw [Option.filter_eq_some_iff]
  constructor
  · rintro ⟨value, finite⟩
    exact .of_read? value finite
  · exact fun number => ⟨number.value, number.finite⟩

theorem ofWords?_eq_some_iff {fields : List (List Char)} {row : Sample} :
    ofWords? fields = some row ↔ IsRow fields row := by
  constructor
  · intro given
    unfold ofWords? at given
    split at given
    · next size sortedness time =>
        obtain ⟨x, hasSize, given⟩ := Option.bind_eq_some_iff.mp given
        obtain ⟨y, hasSortedness, given⟩ := Option.bind_eq_some_iff.mp given
        obtain ⟨z, hasTime, given⟩ := Option.bind_eq_some_iff.mp given
        cases given
        exact .fields (ofWord?_eq_some_iff.mp hasSize) (ofWord?_eq_some_iff.mp hasSortedness)
          (ofWord?_eq_some_iff.mp hasTime)
    · cases given
  · rintro ⟨hasSize, hasSortedness, hasTime⟩
    dsimp only [ofWords?]
    rw [ofWord?_eq_some_iff.mpr hasSize, ofWord?_eq_some_iff.mpr hasSortedness, ofWord?_eq_some_iff.mpr hasTime]
    rfl

theorem number?_eq_ok_iff {index : Nat} {field : List Char} {x : Float} :
    number? index (String.ofList field) = .ok x ↔ Literal.read? field = some x := by
  unfold number? Literal.parse?
  rw [String.toList_ofList]
  cases Literal.read? field with
  | none => exact ⟨nofun, nofun⟩
  | some y =>
      exact ⟨fun same => congrArg some (Except.ok.inj same), fun same => congrArg Except.ok (Option.some.inj same)⟩

theorem finite_iff {row : Sample} :
    row.Finite ↔ row.size.isFinite = true ∧ row.sortedness.isFinite = true ∧ row.time.isFinite = true := by
  constructor
  · exact fun finite => ⟨finite .size, finite .sortedness, finite .time⟩
  · rintro ⟨size, sortedness, time⟩ (_ | _ | _)
    · exact size
    · exact sortedness
    · exact time

/-- Three numbers are a sample if they are finite. -/
theorem numbers_of_sample {a b c : String} {row : Sample}
    (given : (do finite? ⟨← number? 0 a, ← number? 1 b, ← number? 2 c⟩) = .ok row) :
    number? 0 a = .ok row.size ∧ number? 1 b = .ok row.sortedness ∧ number? 2 c = .ok row.time ∧ row.Finite := by
  obtain ⟨size, hasSize, given⟩ := exists_of_bind given
  obtain ⟨sortedness, hasSortedness, given⟩ := exists_of_bind given
  obtain ⟨time, hasTime, given⟩ := exists_of_bind given
  obtain ⟨rfl, finite⟩ := finite?_eq_ok_iff.mp given
  exact ⟨hasSize, hasSortedness, hasTime, finite⟩

/-- Every sample is finite. -/
theorem finite_of_ofFields {fields : List String} {row : Sample} (given : ofFields fields = .ok row) : row.Finite := by
  unfold ofFields at given
  split at given
  · exact (numbers_of_sample given).2.2.2
  · cases given

/-- Empty fields are passed over, and the others have to be a row. -/
theorem ofFields_eq_ok_iff {line : List Char} {row : Sample} :
    ofFields ((line.splitOnP isSpace).map String.ofList) = .ok row ↔ IsRow (Layout.fields line) row := by
  have kept : ((line.splitOnP isSpace).map String.ofList).filter (· ≠ "") =
      (Layout.fields line).map String.ofList := by
    have filled (cs : List Char) : decide (String.ofList cs ≠ "") = !cs.isEmpty := by
      cases cs with
      | nil => rfl
      | cons c cs => simp
    rw [List.filter_map]
    simp only [Function.comp_def, filled]
    rfl
  unfold ofFields
  rw [kept]
  generalize Layout.fields line = fields
  constructor
  · intro given
    split at given
    · next a b c three =>
        obtain ⟨size, others, rfl, rfl, two⟩ := List.map_eq_cons_iff.mp three
        obtain ⟨sortedness, others, rfl, rfl, one⟩ := List.map_eq_cons_iff.mp two
        obtain ⟨time, others, rfl, rfl, none⟩ := List.map_eq_cons_iff.mp one
        rw [List.map_eq_nil_iff.mp none]
        obtain ⟨hasSize, hasSortedness, hasTime, finite⟩ := numbers_of_sample given
        obtain ⟨finiteSize, finiteSortedness, finiteTime⟩ := finite_iff.mp finite
        rw [number?_eq_ok_iff] at hasSize hasSortedness hasTime
        exact .fields (.of_read? hasSize finiteSize) (.of_read? hasSortedness finiteSortedness)
          (.of_read? hasTime finiteTime)
    · cases given
  · rintro ⟨hasSize, hasSortedness, hasTime⟩
    simp only [List.map_cons, List.map_nil]
    rw [number?_eq_ok_iff.mpr hasSize.value, number?_eq_ok_iff.mpr hasSortedness.value,
      number?_eq_ok_iff.mpr hasTime.value]
    exact finite?_eq_ok_iff.mpr ⟨rfl, finite_iff.mpr ⟨hasSize.finite, hasSortedness.finite, hasTime.finite⟩⟩

end Sample

/-! ## Records of a text -/

namespace RecordReader

/-- The mark before the bytes of a text is the mark before the text. -/
theorem drop_byteOrderMark (cs : List Char) :
    (if byteOrderMark.isPrefixOf (cs.flatMap String.utf8EncodeChar) then
      (cs.flatMap String.utf8EncodeChar).drop byteOrderMark.length
      else cs.flatMap String.utf8EncodeChar) = (body cs).flatMap String.utf8EncodeChar := by
  have mark : String.utf8EncodeChar '\uFEFF' = byteOrderMark := rfl
  by_cases marked : cs.head? = some '\uFEFF'
  · obtain ⟨rest, rfl⟩ := List.head?_eq_some_iff.mp marked
    rw [List.flatMap_cons, mark, if_pos (List.isPrefixOf_iff_prefix.mpr (List.prefix_append ..)), List.drop_left]
    rfl
  · have unmarked : body cs = cs := by
      unfold body
      split
      · exact absurd rfl marked
      · rfl
    rw [unmarked, if_neg]
    intro begins
    obtain ⟨bytes, same⟩ := List.isPrefixOf_iff_prefix.mp begins
    cases cs with
    | nil => cases same
    | cons c cs =>
        rw [← mark, List.flatMap_cons] at same
        exact marked (congrArg some (Utf8.eq_of_utf8EncodeChar_append same).symm)

/-- Without quotes, the records of a text are its lines. -/
theorem fields_readAll_encode {cs : List Char} (unquoted : '"' ∉ cs) :
    (readAll (cs.flatMap String.utf8EncodeChar)).map RawRecord.fields =
      (lines (body cs)).map fun line => Record.encoded (line.splitOnP isSpace) := by
  have separator (c : Char) (ends : endsLine c = true) :
      ∃ b, String.utf8EncodeChar c = [b] ∧ endsRecord b = true := by
    rcases Bool.or_eq_true_iff.mp ends with same | same
    · rw [eq_of_beq same]
      exact ⟨lineFeed, rfl, rfl⟩
    · rw [eq_of_beq same]
      exact ⟨carriageReturn, rfl, rfl⟩
  have space (c : Char) (isSpace : isSpace c = true) :
      ∃ b, String.utf8EncodeChar c = [b] ∧ (b == blank) = true := by
    rw [eq_of_beq isSpace]
    exact ⟨blank, rfl, rfl⟩
  have unlike {c d : Char} (ascii : d.toNat < 128) (other : c ≠ d) {b : UInt8}
      (member : b ∈ String.utf8EncodeChar c) : (b == Utf8.asciiByte d) = false := by
    rw [beq_eq_false_iff_ne]
    rintro rfl
    exact other ((Utf8.asciiByte_mem_utf8EncodeChar ascii).mp member)
  have inLine (c : Char) (inLine : endsLine c = false) : ∀ b ∈ String.utf8EncodeChar c, endsRecord b = false := by
    intro b member
    obtain ⟨notFeed, notReturn⟩ := Bool.or_eq_false_iff.mp inLine
    exact Bool.or_eq_false_iff.mpr ⟨unlike (by decide) (beq_eq_false_iff_ne.mp notFeed) member,
      unlike (by decide) (beq_eq_false_iff_ne.mp notReturn) member⟩
  have visible (c : Char) (visible : isSpace c = false) : ∀ b ∈ String.utf8EncodeChar c, (b == blank) = false :=
    fun b member => unlike (by decide) (beq_eq_false_iff_ne.mp visible) member
  have unquotedBytes : quote ∉ cs.flatMap String.utf8EncodeChar := fun member =>
    unquoted ((Utf8.asciiByte_mem_flatMap (by decide)).mp member)
  rw [fields_readAll unquotedBytes, drop_byteOrderMark, words_flatMap separator inLine, List.map_map]
  apply List.map_congr_left
  intro line _
  exact Utf8.splitOnP_flatMap space visible line

end RecordReader

/-- Without quotes, each line of a text is a record with all pieces between spaces. -/
theorem Record.readAll_encode {text : String} (unquoted : '"' ∉ text.toList) :
    ∃ records, readAll (Utf8.encode text) = .ok records ∧ records.map fields =
      (lines (body text.toList)).map fun line => (line.splitOnP isSpace).map String.ofList := by
  have raw := RecordReader.fields_readAll_encode unquoted
  rw [← Utf8.encode_eq] at raw
  unfold readAll
  generalize RecordReader.readAll (Utf8.encode text) = records at raw ⊢
  obtain ⟨cells, isCells⟩ : ∃ cells, cells = (lines (body text.toList)).map (List.splitOnP isSpace) := ⟨_, rfl⟩
  have raw : records.map RawRecord.fields = cells.map encoded := by
    rw [raw, isCells, List.map_map]
    rfl
  have sameLength : cells.length = records.length := by
    have lengths := congrArg List.length raw
    rw [List.length_map, List.length_map] at lengths
    exact lengths.symm
  -- The numbers of the lines are those of the raw records, whatever they are.
  have numbered : records.map RecordReader.view =
      ((records.map RawRecord.line).zip cells).map (Prod.map id encoded) := by
    unfold RecordReader.view
    rw [← List.zip_map', raw, List.zip_map_right]
  refine ⟨_, mapM_decode 0 numbered, ?_⟩
  have numbers : cells.length ≤ (records.map RawRecord.line).length := by rw [List.length_map, sameLength]
  rw [List.map_map]
  have texts := congrArg (List.map (List.map String.ofList)) (List.map_snd_zip numbers)
  rw [List.map_map] at texts
  refine texts.trans ?_
  rw [isCells, List.map_map]
  rfl

/-! ## Files of a text -/

namespace RecordFile

/-- A file is good if its lines are rows. -/
theorem good_iff {file : RecordFile} {lines : List (List Char)}
    (same : file.records.map Record.fields = lines.map fun line => (line.splitOnP isSpace).map String.ofList)
    (rows : List Sample) : file.Good rows ↔ List.Forall₂ Sample.IsRow (lines.map fields) rows := by
  unfold Good
  rw [← List.forall₂_map_left_iff (f := Record.fields) (R := fun fields row => Sample.ofFields fields = .ok row),
    same, List.forall₂_map_left_iff, List.forall₂_map_left_iff]
  simp only [Sample.ofFields_eq_ok_iff]

end RecordFile

/-! ## Loading -/

namespace Samples

variable {schedule : Schedule} {folder : Folder} {pattern : String} {place : Place} {text : String}

/-- A single file without quotes, matched by a pattern. -/
structure Holds (folder : Folder) (pattern : String) (place : Place) (text : String) : Prop where
  matched : folder.Matches pattern [.ok place]
  held : folder.read place.path = .ok (Utf8.encode text)
  unquoted : '"' ∉ text.toList

/-- What comes of loading the table of a text. -/
structure Loads (path : String) (table : List (List (List Char))) (result : Except LoadError Samples) : Prop where
  agrees : result.toOption = (table.mapM Sample.ofWords?).map ofRows
  accepted : (∃ samples, result = .ok samples) ↔ ∀ fields ∈ table, ∃ row, Sample.IsRow fields row
  columns : ∀ samples, result = .ok samples → ∃ rows, List.Forall₂ Sample.IsRow table rows ∧
    samples.sizes = rows.map Sample.size ∧ samples.sortedness = rows.map Sample.sortedness ∧
    samples.times = rows.map Sample.time
  refused : ∀ error, result = .error error → ∃ line reason, error = .badRow path line reason

theorem loads_of_rows {path : String} {table : List (List (List Char))} {rows : List Sample}
    (isTable : List.Forall₂ Sample.IsRow table rows) : Loads path table (.ok (ofRows rows)) := by
  have read := mapM_eq_some_iff.mpr (isTable.imp fun _ _ isRow => Sample.ofWords?_eq_some_iff.mpr isRow)
  constructor
  · rw [read]
    rfl
  · exact ⟨fun _ => exists_of_forall₂ isTable, fun _ => ⟨_, rfl⟩⟩
  · rintro samples ⟨⟩
    exact ⟨rows, isTable, rfl, rfl, rfl⟩
  · rintro error ⟨⟩

theorem loads_of_badRow {path : String} {table : List (List (List Char))} {line : Nat} {reason : RowError}
    (bad : ∃ fields ∈ table, ∀ row, ¬Sample.IsRow fields row) :
    Loads path table (.error (.badRow path line reason)) := by
  obtain ⟨fields, member, noRow⟩ := bad
  constructor
  · cases read : table.mapM Sample.ofWords? with
    | none => rfl
    | some rows =>
        obtain ⟨row, isRow⟩ := exists_of_forall₂ (mapM_eq_some_iff.mp read) fields member
        exact absurd (Sample.ofWords?_eq_some_iff.mp isRow) (noRow row)
  · constructor
    · rintro ⟨samples, ⟨⟩⟩
    · intro all
      obtain ⟨row, isRow⟩ := all fields member
      exact absurd isRow (noRow row)
  · rintro samples ⟨⟩
  · rintro error ⟨⟩
    exact ⟨line, reason, rfl⟩

theorem loads_of_holds (holds : Holds folder pattern place text) :
    Loads place.path (table (body text.toList)) (load schedule folder pattern).result := by
  obtain ⟨records, isRecords, same⟩ := Record.readAll_encode holds.unquoted
  have reads := RecordFile.Reads.file holds.held isRecords
  have good := @RecordFile.good_iff ⟨place.path, records⟩ _ same
  have result : (load schedule folder pattern).result =
      (RecordFile.samples schedule ⟨place.path, records⟩).map ofRows := by
    rw [load_of_reads holds.matched (List.cons_ne_nil _ _) (.cons reads .nil)]
    exact congrArg (Except.map ofRows) (RecordFile.samplesOf_single _ _)
  rw [result]
  cases looked : RecordFile.samples schedule ⟨place.path, records⟩ with
  | ok rows => exact loads_of_rows ((good rows).mp (RecordFile.samples_eq_ok_iff.mp looked))
  | error reason =>
      obtain ⟨before, record, error, ⟨⟨after, split⟩, failed⟩, rfl, -⟩ := RecordFile.badBehind_of_samples looked
      refine loads_of_badRow ?_
      have member : record ∈ records := by
        rw [show records = before ++ record :: after from split]
        exact List.mem_append_right _ (List.mem_cons_self ..)
      have listed := List.mem_map_of_mem (f := Record.fields) member
      rw [same] at listed
      obtain ⟨line, inText, cells⟩ := List.mem_map.mp listed
      refine ⟨fields line, List.mem_map_of_mem inText, fun row isRow => ?_⟩
      have done := Sample.ofFields_eq_ok_iff.mpr isRow
      rw [cells, failed] at done
      cases done

/-- Loading a text is cutting it into rows of three finite numbers, whatever its layout and the schedule. -/
theorem load_text (holds : Holds folder pattern place text) :
    Loads place.path (table (body text.toList)) (load schedule folder pattern).result ∧
    (∀ line ∈ lines (body text.toList), (∀ c ∈ line, c = ' ') →
      ∃ number reason, (load schedule folder pattern).result = .error (.badRow place.path number reason)) ∧
    ∀ schedule' folder' pattern' place' text', Holds folder' pattern' place' text' →
      Relation.EqvGen Relaid (body text.toList) (body text'.toList) →
      (load schedule' folder' pattern').result.toOption = (load schedule folder pattern).result.toOption := by
  have loads := @loads_of_holds schedule _ _ _ _ holds
  refine ⟨loads, fun line member spaces => ?_, fun schedule' folder' pattern' place' text' holds' relaid => ?_⟩
  · have listed : [] ∈ table (body text.toList) := by
      rw [← fields_eq_nil spaces]
      exact List.mem_map_of_mem member
    cases result : (load schedule folder pattern).result with
    | ok samples =>
        obtain ⟨row, isRow⟩ := loads.accepted.mp ⟨samples, result⟩ [] listed
        cases isRow
    | error error =>
        obtain ⟨number, reason, rfl⟩ := loads.refused error result
        exact ⟨number, reason, rfl⟩
  · rw [loads.agrees, (loads_of_holds holds').agrees, table_eq_of_relaid relaid]

/-- Two rows with a mark before them, spaces and a blank line around them, and no line end after them. -/
def looseText : String := "\uFEFF 1 2.5  3e2\r\n\n-1 0 .5"

/-- A folder with a single file of two rows. -/
def looseFolder : Folder := ⟨["work"], [], [(["work", "rows.csv"], .file (Utf8.encode looseText))]⟩

theorem holds_looseFolder : Holds looseFolder "rows.csv" ⟨"rows.csv", ["work", "rows.csv"]⟩ looseText where
  matched := ⟨⟨false, [.name ("rows.csv".toList.map .literal)], false⟩, by decide +kernel, by decide +kernel⟩
  held := by decide +kernel
  unquoted := by decide +kernel

/-- Both rows are there, column by column. -/
theorem load_text_looseFolder :
    Holds looseFolder "rows.csv" ⟨"rows.csv", ["work", "rows.csv"]⟩ looseText ∧
      (load .inOrder looseFolder "rows.csv").result.toOption = some ⟨[1, -1], [2.5, 0], [300, 0.5]⟩ :=
  ⟨holds_looseFolder, (load_text holds_looseFolder).1.agrees.trans (by decide +kernel)⟩

end Samples

end QuicksortStudy
