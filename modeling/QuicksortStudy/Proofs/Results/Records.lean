import Mathlib
import QuicksortStudy.Proofs.Text.Utf8
import QuicksortStudy.Results.Record

/-!
# Plain lines read as records

A file of lines whose fields are plain, that is nonempty ASCII texts without blanks, quotes and line ends,
is read as one record a line.  The record holds the fields of the line and the number of the line.
-/

namespace QuicksortStudy

/-! ## The reader on a line -/

namespace RecordReader

/-- A byte that is only ever kept. -/
def Plain (b : UInt8) : Prop := b ≠ blank ∧ b ≠ quote ∧ b ≠ lineFeed ∧ b ≠ carriageReturn

/-- A field that is written without quotes. -/
def PlainField (field : List UInt8) : Prop := field ≠ [] ∧ ∀ b ∈ field, Plain b

/-- Fields with blanks between them and a line end. -/
def lineBytes : List (List UInt8) → List UInt8
  | [] => [lineFeed]
  | [field] => field ++ [lineFeed]
  | field :: rest => field ++ blank :: lineBytes rest

/-- A field may start here. -/
structure Fresh (r : RecordReader) : Prop where
  phase : r.phase = .betweenRecords ∨ r.phase = .fieldStart
  field : r.field = []

theorem count_plain (r : RecordReader) {b : UInt8} (plain : Plain b) :
    r.count b = { r with offset := r.offset + 1 } := by
  simp [count, plain.2.2.1]

theorem endsRecord_plain {b : UInt8} (plain : Plain b) : endsRecord b = false := by
  simp [endsRecord, plain.2.2.1, plain.2.2.2]

theorem plain_plain (r : RecordReader) {b : UInt8} (plain : Plain b) : r.plain b = r.keep b .unquoted := by
  simp [RecordReader.plain, plain.1, endsRecord_plain plain]

theorem startField_plain (r : RecordReader) {b : UInt8} (plain : Plain b) :
    r.startField b = r.keep b .unquoted := by
  simp [startField, plain.2.1, plain_plain r plain]

theorem step_unquoted {r : RecordReader} {b : UInt8} (phase : r.phase = .unquoted) (plain : Plain b) :
    r.step b = { r with offset := r.offset + 1, field := b :: r.field } := by
  rcases r with ⟨_, line, offset, recordLine, recordOffset, field, fields, records⟩
  cases phase
  unfold step
  rw [count_plain _ plain]
  exact plain_plain _ plain

theorem step_fresh {r : RecordReader} {b : UInt8} (fresh : Fresh r) (plain : Plain b) :
    r.step b = { r with phase := .unquoted, offset := r.offset + 1, field := [b] } := by
  rcases r with ⟨phase, line, offset, recordLine, recordOffset, field, fields, records⟩
  cases fresh.field
  unfold step
  rw [count_plain _ plain]
  rcases fresh.phase with between | start
  · cases between
    dsimp only
    rw [endsRecord_plain plain, if_neg Bool.false_ne_true]
    exact startField_plain _ plain
  · cases start
    exact startField_plain _ plain

theorem foldl_unquoted {r : RecordReader} {bytes : List UInt8} (phase : r.phase = .unquoted)
    (plain : ∀ b ∈ bytes, Plain b) :
    bytes.foldl step r = { r with offset := r.offset + bytes.length, field := bytes.reverse ++ r.field } := by
  induction bytes generalizing r with
  | nil => rfl
  | cons b bytes ih =>
      have phase' : ({ r with offset := r.offset + 1, field := b :: r.field } : RecordReader).phase = .unquoted :=
        phase
      rw [List.foldl_cons, step_unquoted phase (plain b (List.mem_cons_self ..)),
        ih phase' fun b' member => plain b' (List.mem_cons_of_mem b member)]
      simp only [List.reverse_cons, List.append_assoc, List.singleton_append, List.length_cons,
        Nat.add_assoc, Nat.add_comm 1]

/-- A plain field is kept as it is. -/
theorem foldl_field {r : RecordReader} {field : List UInt8} (fresh : Fresh r) (plain : PlainField field) :
    field.foldl step r =
      { r with phase := .unquoted, offset := r.offset + field.length, field := field.reverse } := by
  obtain ⟨some, plain⟩ := plain
  cases field with
  | nil => exact absurd rfl some
  | cons b rest =>
      rw [List.foldl_cons, step_fresh fresh (plain b (List.mem_cons_self ..)),
        foldl_unquoted rfl fun b' member => plain b' (List.mem_cons_of_mem b member)]
      simp only [List.reverse_cons, List.length_cons, Nat.add_assoc, Nat.add_comm 1]

theorem step_blank {r : RecordReader} (phase : r.phase = .unquoted) :
    r.step blank = { r with
      phase := .fieldStart, offset := r.offset + 1, field := [], fields := r.field.reverse :: r.fields } := by
  rcases r with ⟨_, line, offset, recordLine, recordOffset, field, fields, records⟩
  cases phase
  rfl

theorem step_lineFeed {r : RecordReader} (phase : r.phase = .unquoted) :
    r.step lineFeed = { r with
      phase := .betweenRecords, line := r.line + 1, offset := r.offset + 1, recordLine := r.line + 1
      recordOffset := r.offset + 1, field := [], fields := []
      records := ⟨r.recordLine, r.recordOffset, (r.field.reverse :: r.fields).reverse⟩ :: r.records } := by
  rcases r with ⟨_, line, offset, recordLine, recordOffset, field, fields, records⟩
  cases phase
  rfl

/-! ## Files of lines -/

/-- The reader has ended a record and stands on a line. -/
structure Between (r : RecordReader) (line : Nat) : Prop where
  phase : r.phase = .betweenRecords
  current : r.line = line
  recordLine : r.recordLine = line
  field : r.field = []
  fields : r.fields = []

/-- The line and the fields of a record. -/
def view (record : RawRecord) : Nat × List (List UInt8) := (record.line, record.fields)

/-- One line adds one record and leaves the reader on the next line. -/
theorem foldl_lineBytes {r : RecordReader} {fields : List (List UInt8)} (fresh : Fresh r) (some : fields ≠ [])
    (plain : ∀ field ∈ fields, PlainField field) :
    Between ((lineBytes fields).foldl step r) (r.line + 1) ∧
      ((lineBytes fields).foldl step r).records.map view =
        (r.recordLine, r.fields.reverse ++ fields) :: r.records.map view := by
  induction fields generalizing r with
  | nil => exact absurd rfl some
  | cons field rest ih =>
      have first := plain field (List.mem_cons_self ..)
      cases rest with
      | nil =>
          unfold lineBytes
          rw [List.foldl_append, foldl_field fresh first, List.foldl_cons, List.foldl_nil, step_lineFeed rfl]
          refine ⟨⟨rfl, rfl, rfl, rfl, rfl⟩, ?_⟩
          simp only [List.map_cons, view, List.reverse_cons, List.reverse_reverse]
      | cons field' rest =>
          unfold lineBytes
          rw [List.foldl_append, foldl_field fresh first, List.foldl_cons, step_blank rfl]
          have next := ih (r := { r with
            phase := .fieldStart, offset := r.offset + field.length + 1, field := []
            fields := field.reverse.reverse :: r.fields })
            ⟨.inr rfl, rfl⟩ (List.cons_ne_nil field' rest)
            (fun other member => plain other (List.mem_cons_of_mem field member))
          simp only [List.reverse_cons, List.reverse_reverse, List.append_assoc,
            List.singleton_append] at next ⊢
          exact next

/-- A file of lines adds one record a line, each with the number of its line. -/
theorem foldl_lines {r : RecordReader} {line : Nat} (lines : List (List (List UInt8)))
    (between : Between r line)
    (some : ∀ fields ∈ lines, fields ≠ []) (plain : ∀ fields ∈ lines, ∀ field ∈ fields, PlainField field) :
    Between ((lines.flatMap lineBytes).foldl step r) (line + lines.length) ∧
      (((lines.flatMap lineBytes).foldl step r).records.map view).reverse =
        (r.records.map view).reverse ++ (lines.zipIdx line).map Prod.swap := by
  induction lines generalizing r line with
  | nil => exact ⟨between, (List.append_nil _).symm⟩
  | cons fields rest ih =>
      have head := List.mem_cons_self (a := fields) (l := rest)
      obtain ⟨after, records⟩ := foldl_lineBytes ⟨.inl between.phase, between.field⟩ (some fields head)
        (plain fields head)
      rw [between.current] at after
      rw [between.recordLine, between.fields] at records
      obtain ⟨last, all⟩ := ih after (fun other member => some other (List.mem_cons_of_mem fields member))
        (fun other member => plain other (List.mem_cons_of_mem fields member))
      rw [List.flatMap_cons, List.foldl_append]
      constructor
      · rw [List.length_cons, Nat.add_comm rest.length, ← Nat.add_assoc]
        exact last
      · rw [all, records, List.zipIdx_cons, List.map_cons, List.reverse_cons, List.append_assoc]
        rfl

theorem between_start : Between (start 0) 1 := ⟨rfl, rfl, rfl, rfl, rfl⟩

/-- The first byte of a line of ASCII fields begins no byte order mark. -/
theorem no_byteOrderMark {lines : List (List (List UInt8))} (some : ∀ fields ∈ lines, fields ≠ [])
    (plain : ∀ fields ∈ lines, ∀ field ∈ fields, PlainField field)
    (ascii : ∀ fields ∈ lines, ∀ field ∈ fields, ∀ b ∈ field, b.toNat < 128) :
    byteOrderMark.isPrefixOf (lines.flatMap lineBytes) = false := by
  cases lines with
  | nil => rfl
  | cons fields rest =>
      have head := List.mem_cons_self (a := fields) (l := rest)
      cases fields with
      | nil => exact absurd rfl (some [] head)
      | cons field fields =>
          have first := List.mem_cons_self (a := field) (l := fields)
          cases field with
          | nil => exact absurd rfl (plain _ head [] first).1
          | cons b field =>
              have small := ascii _ head _ first b (List.mem_cons_self ..)
              have unlike : (0xef : UInt8) ≠ b := by
                rintro rfl
                exact absurd small (by decide)
              obtain ⟨bytes, begins⟩ : ∃ bytes, lineBytes ((b :: field) :: fields) = b :: bytes := by
                cases fields with
                | nil => exact ⟨_, rfl⟩
                | cons other fields => exact ⟨_, rfl⟩
              rw [List.flatMap_cons, begins, List.cons_append, byteOrderMark, List.isPrefixOf_cons_cons]
              simp [unlike]

/-- The records of a file of plain lines. -/
theorem readAll_lines {lines : List (List (List UInt8))} (some : ∀ fields ∈ lines, fields ≠ [])
    (plain : ∀ fields ∈ lines, ∀ field ∈ fields, PlainField field)
    (ascii : ∀ fields ∈ lines, ∀ field ∈ fields, ∀ b ∈ field, b.toNat < 128) :
    (readAll (lines.flatMap lineBytes)).map view = (lines.zipIdx 1).map Prod.swap := by
  obtain ⟨last, all⟩ := foldl_lines lines between_start some plain
  unfold readAll
  rw [no_byteOrderMark some plain ascii, if_neg Bool.false_ne_true]
  unfold finish
  rw [last.phase, List.map_reverse, all]
  rfl

end RecordReader

/-! ## Records of plain texts -/

namespace Record

open RecordReader

/-- A text that is written as a field without quotes. -/
structure PlainText (cs : List Char) : Prop where
  some : cs ≠ []
  ascii : ∀ c ∈ cs, c.toNat < 128
  visible : ∀ c ∈ cs, c ≠ ' ' ∧ c ≠ '"' ∧ c ≠ '\n' ∧ c ≠ '\r'

/-- The bytes of some texts. -/
def fieldBytes (fields : List (List Char)) : List (List UInt8) := fields.map (List.map Utf8.asciiByte)

theorem PlainText.plainField {cs : List Char} (plain : PlainText cs) : PlainField (cs.map Utf8.asciiByte) := by
  refine ⟨fun empty => plain.some (List.map_eq_nil_iff.mp empty), ?_⟩
  intro b member
  obtain ⟨c, inText, rfl⟩ := List.mem_map.mp member
  have ascii := plain.ascii c inText
  have unlike (d : Char) (small : d.toNat < 128) (differ : c ≠ d) :
      Utf8.asciiByte c ≠ Utf8.asciiByte d := by
    intro same
    apply differ
    apply Char.toNat_inj.mp
    rw [← Utf8.toNat_asciiByte ascii, ← Utf8.toNat_asciiByte small, same]
  obtain ⟨space, quote, lineFeed, carriageReturn⟩ := plain.visible c inText
  exact ⟨unlike ' ' (by decide) space, unlike '"' (by decide) quote, unlike '\n' (by decide) lineFeed,
    unlike '\r' (by decide) carriageReturn⟩

/-- The bytes of some texts, whatever their characters are. -/
def encoded (fields : List (List Char)) : List (List UInt8) := fields.map (List.flatMap String.utf8EncodeChar)

theorem fieldBytes_eq_encoded {fields : List (List Char)} (ascii : ∀ cs ∈ fields, ∀ c ∈ cs, c.toNat < 128) :
    fieldBytes fields = encoded fields :=
  List.map_congr_left fun cs member => (Utf8.flatMap_ascii (ascii cs member)).symm

theorem decodeFields_encoded (record : RawRecord) (index position : Nat) (fields : List (List Char)) :
    record.decodeFields index position (encoded fields) = .ok (fields.map String.ofList) := by
  induction fields generalizing position with
  | nil => rfl
  | cons cs rest ih =>
      have others := ih (position + 1)
      unfold encoded at others ⊢
      rw [List.map_cons, RawRecord.decodeFields, Utf8.decode_flatMap]
      dsimp only
      rw [others]
      rfl

/-- Records whose fields encode texts are decoded, each with its line. -/
theorem mapM_decode {raw : List RawRecord} {lines : List (Nat × List (List Char))} (index : Nat)
    (same : raw.map view = lines.map fun (line, fields) => (line, encoded fields)) :
    (raw.zipIdx index).mapM (fun (record, index) => record.decode index) =
      .ok (lines.map fun (line, fields) => ⟨line, fields.map String.ofList⟩) := by
  induction raw generalizing lines index with
  | nil =>
      cases lines with
      | nil => rfl
      | cons line rest => cases same
  | cons record raw ih =>
      cases lines with
      | nil => cases same
      | cons line rest =>
          obtain ⟨first, others⟩ := List.cons_eq_cons.mp same
          have decoded := decodeFields_encoded record index 0 line.2
          rw [← (Prod.mk.inj first).2] at decoded
          rw [List.zipIdx_cons, List.mapM_cons, ih (index + 1) others]
          dsimp only [RawRecord.decode]
          rw [decoded, (Prod.mk.inj first).1]
          rfl

/-- A file of lines of plain texts holds these texts, a record a line. -/
theorem readAll_lines {lines : List (List (List Char))} (some : ∀ fields ∈ lines, fields ≠ [])
    (plain : ∀ fields ∈ lines, ∀ cs ∈ fields, PlainText cs) :
    Record.readAll (lines.flatMap fun fields => lineBytes (fieldBytes fields)) =
      .ok ((lines.zipIdx 1).map fun (fields, line) => ⟨line, fields.map String.ofList⟩) := by
  have raw := @RecordReader.readAll_lines (lines.map fieldBytes)
    (by
      intro fields member
      obtain ⟨texts, inLines, rfl⟩ := List.mem_map.mp member
      exact fun empty => some texts inLines (List.map_eq_nil_iff.mp empty))
    (by
      intro fields member field inFields
      obtain ⟨texts, inLines, rfl⟩ := List.mem_map.mp member
      obtain ⟨cs, inTexts, rfl⟩ := List.mem_map.mp inFields
      exact (plain texts inLines cs inTexts).plainField)
    (by
      intro fields member field inFields b inField
      obtain ⟨texts, inLines, rfl⟩ := List.mem_map.mp member
      obtain ⟨cs, inTexts, rfl⟩ := List.mem_map.mp inFields
      obtain ⟨c, inText, rfl⟩ := List.mem_map.mp inField
      have ascii := (plain texts inLines cs inTexts).ascii c inText
      rwa [Utf8.toNat_asciiByte ascii])
  rw [List.flatMap_map] at raw
  have same : (RecordReader.readAll (lines.flatMap fun fields => lineBytes (fieldBytes fields))).map view =
      ((lines.zipIdx 1).map Prod.swap).map fun (line, fields) => (line, encoded fields) := by
    rw [raw, List.zipIdx_map, List.map_map, List.map_map]
    apply List.map_congr_left
    intro numbered member
    have ascii : ∀ cs ∈ numbered.1, ∀ c ∈ cs, c.toNat < 128 := fun cs inFields =>
      (plain numbered.1 (List.fst_mem_of_mem_zipIdx member) cs inFields).ascii
    exact congrArg (Prod.mk numbered.2) (fieldBytes_eq_encoded ascii)
  unfold Record.readAll
  rw [mapM_decode 0 same, List.map_map]
  rfl

end Record

end QuicksortStudy
