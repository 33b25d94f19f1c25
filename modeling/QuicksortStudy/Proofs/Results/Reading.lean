import Mathlib
import QuicksortStudy.Proofs.Results.Passages
import QuicksortStudy.Proofs.Results.Records
import QuicksortStudy.Proofs.Results.Unquoted

/-!
# Passages read as records

However a file is cut into passages, the reader finds the fields of each of them, with the line on which it stood when
the passage began.  It has then counted the line feeds of all passages before, those in quotes included, but none of
the gap that comes first in the passage.
-/

namespace QuicksortStudy

/-! ## The reader on a passage -/

namespace RecordReader

/-- The reader is in a record and takes the next blank for the end of a field. -/
def Ready (r : RecordReader) : Prop := InRecord r ∨ r.phase = .afterQuote

theorem step_ready {r : RecordReader} {b : UInt8} (ready : Ready r) (unquoted : b ≠ quote) :
    r.step b = (r.count b).plain b := by
  rcases ready with inRecord | closed
  · exact step_inRecord inRecord unquoted
  · have phase : (r.count b).phase = .afterQuote := closed
    unfold step
    dsimp only
    rw [phase]
    exact if_neg (by simpa using unquoted)

theorem step_ready_lineEnd {r : RecordReader} {e : UInt8} (ready : Ready r) (ends : endsRecord e = true) :
    r.step e = (r.count e).endRecord := by
  have notQuote : e ≠ quote := by
    rintro rfl
    cases ends
  have notBlank : ¬(e == blank) = true := by
    intro same
    rw [eq_of_beq same] at ends
    cases ends
  rw [step_ready ready notQuote, plain, if_neg notBlank, if_pos ends]

/-- Before the first byte of a record the reader is as at the start of any field. -/
theorem step_begins {r : RecordReader} {b : UInt8} (between : r.phase = .betweenRecords)
    (begins : endsRecord b = false) : r.step b = { r with phase := .fieldStart }.step b := by
  have phase : (r.count b).phase = .betweenRecords := between
  unfold step
  dsimp only
  rw [phase]
  dsimp only
  rw [begins, if_neg Bool.false_ne_true]
  rfl

/-- The reader has added to its field and done nothing else but moved on. -/
structure Adds (value : List UInt8) (r r' : RecordReader) : Prop where
  field : r'.field = value.reverse ++ r.field
  fields : r'.fields = r.fields
  records : r'.records = r.records
  recordLine : r'.recordLine = r.recordLine

theorem Adds.trans {value value' : List UInt8} {r r' r'' : RecordReader} (first : Adds value r r')
    (second : Adds value' r' r'') : Adds (value ++ value') r r'' where
  field := by rw [second.field, first.field, List.reverse_append, List.append_assoc]
  fields := second.fields.trans first.fields
  records := second.records.trans first.records
  recordLine := second.recordLine.trans first.recordLine

theorem plain_inField (r : RecordReader) {b : UInt8} (inField : endsField b = false) :
    r.plain b = r.keep b .unquoted := by
  obtain ⟨notBlank, inRecord⟩ := Bool.or_eq_false_iff.mp inField
  rw [plain, notBlank, inRecord, if_neg Bool.false_ne_true, if_neg Bool.false_ne_true]

theorem foldl_inField {r : RecordReader} {bytes : List UInt8} (unquoted : r.phase = .unquoted)
    (inField : ∀ b ∈ bytes, endsField b = false) :
    (bytes.foldl step r).phase = .unquoted ∧ Adds bytes r (bytes.foldl step r) := by
  induction bytes generalizing r with
  | nil => exact ⟨unquoted, rfl, rfl, rfl, rfl⟩
  | cons b bytes ih =>
      obtain ⟨first, others⟩ := List.forall_mem_cons.mp inField
      have kept : r.step b = (r.count b).keep b .unquoted := by
        have phase : (r.count b).phase = .unquoted := unquoted
        unfold step
        dsimp only
        rw [phase]
        exact plain_inField _ first
      have added : Adds [b] r ((r.count b).keep b .unquoted) := ⟨rfl, rfl, rfl, rfl⟩
      obtain ⟨phase, adds⟩ := ih (r := (r.count b).keep b .unquoted) rfl others
      rw [List.foldl_cons, kept]
      exact ⟨phase, added.trans adds⟩

theorem foldl_tail {r : RecordReader} {bytes : List UInt8} (ready : Ready r) (tail : Tail bytes) :
    Ready (bytes.foldl step r) ∧ Adds bytes r (bytes.foldl step r) := by
  cases bytes with
  | nil => exact ⟨ready, rfl, rfl, rfl, rfl⟩
  | cons b bytes =>
      obtain ⟨first, others⟩ := List.forall_mem_cons.mp tail.inField
      have unquoted : b ≠ quote := fun same => tail.front (congrArg some same)
      have added : Adds [b] r ((r.count b).keep b .unquoted) := ⟨rfl, rfl, rfl, rfl⟩
      obtain ⟨phase, adds⟩ := foldl_inField (r := (r.count b).keep b .unquoted) rfl others
      rw [List.foldl_cons, step_ready ready unquoted, plain_inField _ first]
      exact ⟨.inl (.inr phase), added.trans adds⟩

theorem foldl_doubled {r : RecordReader} (quoted : r.phase = .quoted) (inside : List UInt8) :
    ((doubled inside).foldl step r).phase = .quoted ∧ Adds inside r ((doubled inside).foldl step r) := by
  induction inside generalizing r with
  | nil => exact ⟨quoted, rfl, rfl, rfl, rfl⟩
  | cons b inside ih =>
      have kept : ((if b = quote then [quote, quote] else [b]).foldl step r).phase = .quoted ∧
          Adds [b] r ((if b = quote then [quote, quote] else [b]).foldl step r) := by
        obtain ⟨phase, line, offset, recordLine, recordOffset, field, fields, records⟩ := r
        cases quoted
        by_cases isQuote : b = quote
        · rw [if_pos isQuote, isQuote]
          exact ⟨rfl, rfl, rfl, rfl, rfl⟩
        · have other : (b == quote) = false := beq_eq_false_iff_ne.mpr isQuote
          rw [if_neg isQuote, List.foldl_cons, List.foldl_nil]
          unfold step
          dsimp only [count]
          rw [other, if_neg Bool.false_ne_true]
          exact ⟨rfl, rfl, rfl, rfl, rfl⟩
      obtain ⟨phase, adds⟩ := ih kept.1
      have first : doubled (b :: inside) = (if b = quote then [quote, quote] else [b]) ++ doubled inside :=
        List.flatMap_cons
      rw [first, List.foldl_append]
      exact ⟨phase, kept.2.trans adds⟩

theorem foldl_quoted {r : RecordReader} (start : r.phase = .fieldStart) (inside : List UInt8) :
    ((quote :: doubled inside).foldl step r).phase = .quoted ∧
      Adds inside r ((quote :: doubled inside).foldl step r) := by
  have opened : (r.step quote).phase = .quoted ∧ Adds [] r (r.step quote) := by
    obtain ⟨phase, line, offset, recordLine, recordOffset, field, fields, records⟩ := r
    cases start
    exact ⟨rfl, rfl, rfl, rfl, rfl⟩
  obtain ⟨phase, adds⟩ := foldl_doubled opened.1 inside
  rw [List.foldl_cons]
  exact ⟨phase, opened.2.trans adds⟩

theorem foldl_fieldText {r : RecordReader} {text field : List UInt8} (start : r.phase = .fieldStart)
    (isField : FieldText text field) :
    Ready (text.foldl step r) ∧ Adds field r (text.foldl step r) := by
  cases isField with
  | bare plain => exact foldl_tail (.inl (.inl start)) plain
  | quoted inside plain =>
      rename_i tail
      obtain ⟨quoted, within⟩ := foldl_quoted start inside
      have closed : ∀ {r' : RecordReader}, r'.phase = .quoted →
          (r'.step quote).phase = .afterQuote ∧ Adds [] r' (r'.step quote) := by
        rintro ⟨phase, line, offset, recordLine, recordOffset, field, fields, records⟩ ⟨⟩
        exact ⟨rfl, rfl, rfl, rfl, rfl⟩
      obtain ⟨phase, nothing⟩ := closed quoted
      obtain ⟨ready, behind⟩ := foldl_tail (.inr phase) plain
      have split : quote :: (doubled inside ++ quote :: tail) = (quote :: doubled inside) ++ quote :: tail := rfl
      rw [split, List.foldl_append, List.foldl_cons]
      exact ⟨ready, within.trans (nothing.trans behind)⟩

theorem foldl_lastFieldText {r : RecordReader} {text field : List UInt8} (start : r.phase = .fieldStart)
    (isField : LastFieldText text field) :
    (text.foldl step r).phase ≠ .betweenRecords ∧ Adds field r (text.foldl step r) := by
  cases isField with
  | closed isField =>
      obtain ⟨ready, adds⟩ := foldl_fieldText start isField
      refine ⟨fun between => ?_, adds⟩
      rcases ready with (phase | phase) | phase <;> rw [between] at phase <;> cases phase
  | unclosed =>
      obtain ⟨phase, adds⟩ := foldl_quoted start field
      refine ⟨fun between => ?_, adds⟩
      rw [between] at phase
      cases phase

/-- A record is read field by field; only its last field depends on what may come behind the record. -/
theorem foldl_joined {IsLast : List UInt8 → List UInt8 → Prop} {P : RecordReader → Prop}
    (last : ∀ {r : RecordReader} {text field : List UInt8}, r.phase = .fieldStart → IsLast text field →
      P (text.foldl step r) ∧ Adds field r (text.foldl step r))
    {r : RecordReader} {text : List UInt8} {fields : List (List UInt8)} (start : r.phase = .fieldStart)
    (empty : r.field = []) (joined : Joined IsLast text fields) :
    P (text.foldl step r) ∧ current (text.foldl step r) = r.fields.reverse ++ fields ∧
      (text.foldl step r).records = r.records ∧ (text.foldl step r).recordLine = r.recordLine := by
  -- On the text, for any reader with an empty field: a blank ends the field and leaves such a reader.
  induction joined generalizing r with
  | last isLast =>
      obtain ⟨done, adds⟩ := last start isLast
      refine ⟨done, ?_, adds.records, adds.recordLine⟩
      rw [current, adds.field, adds.fields, empty, List.append_nil, List.reverse_reverse]
  | @cons text field rest fields isField others ih =>
      obtain ⟨ready, adds⟩ := foldl_fieldText start isField
      have ended : (text.foldl step r).step blank = ((text.foldl step r).count blank).endField :=
        step_ready ready (by decide)
      obtain ⟨done, fieldsRead, records, recordLine⟩ := ih (r := ((text.foldl step r).count blank).endField) rfl rfl
      have before : ((text.foldl step r).count blank).endField.fields.reverse = r.fields.reverse ++ [field] := by
        have last : (text.foldl step r).field.reverse = field := by
          rw [adds.field, empty, List.append_nil, List.reverse_reverse]
        change ((text.foldl step r).field.reverse :: (text.foldl step r).fields).reverse = _
        rw [last, adds.fields, List.reverse_cons]
      rw [List.foldl_append, List.foldl_cons, ended]
      refine ⟨done, ?_, records.trans adds.records, recordLine.trans adds.recordLine⟩
      rw [fieldsRead, before, List.append_assoc, List.singleton_append]

/-! ## The reader on a file -/

theorem line_plain (r : RecordReader) (b : UInt8) : (r.plain b).line = r.line := by
  unfold plain
  split
  · rfl
  · split <;> rfl

theorem line_startField (r : RecordReader) (b : UInt8) : (r.startField b).line = r.line := by
  unfold startField
  split
  · rfl
  · exact line_plain r b

/-- Every line feed is counted, wherever it stands. -/
theorem line_step (r : RecordReader) (b : UInt8) : (r.step b).line = r.line + [b].count lineFeed := by
  have counted : (r.count b).line = r.line + [b].count lineFeed := by
    rw [List.count_singleton]
    unfold count
    split <;> rfl
  rw [← counted]
  unfold step
  dsimp only
  split
  · split
    · rfl
    · exact line_startField _ b
  · exact line_startField _ b
  · exact line_plain _ b
  · split <;> rfl
  · split
    · rfl
    · exact line_plain _ b

theorem line_foldl (r : RecordReader) (bytes : List UInt8) :
    (bytes.foldl step r).line = r.line + bytes.count lineFeed := by
  induction bytes generalizing r with
  | nil => rfl
  | cons b bytes ih =>
      rw [List.foldl_cons, ih, line_step, Nat.add_assoc, ← List.count_append, List.singleton_append]

theorem foldl_gap {r : RecordReader} {gap : List UInt8} (outside : Outside r)
    (passed : ∀ b ∈ gap, endsRecord b = true) :
    Outside (gap.foldl step r) ∧ (gap.foldl step r).records = r.records ∧
      (gap.foldl step r).recordLine = r.recordLine := by
  induction gap generalizing r with
  | nil => exact ⟨outside, rfl, rfl⟩
  | cons b gap ih =>
      obtain ⟨first, others⟩ := List.forall_mem_cons.mp passed
      have skipped : r.step b = r.count b := by
        have notQuote : b ≠ quote := by
          rintro rfl
          cases first
        rw [step_between outside.phase notQuote, if_pos first]
      rw [List.foldl_cons, skipped]
      exact ih ⟨outside.phase, outside.field, outside.fields⟩ others

/-- The record of a passage is read after its gap, with the line noted before the gap. -/
theorem foldl_holds {IsLast : List UInt8 → List UInt8 → Prop} {P : RecordReader → Prop}
    (last : ∀ {r : RecordReader} {text field : List UInt8}, r.phase = .fieldStart → IsLast text field →
      P (text.foldl step r) ∧ Adds field r (text.foldl step r))
    {r : RecordReader} {p : Passage} (outside : Outside r) (holds : p.Holds IsLast) :
    P ((p.gap ++ p.text).foldl step r) ∧ current ((p.gap ++ p.text).foldl step r) = p.fields ∧
      ((p.gap ++ p.text).foldl step r).records = r.records ∧
      ((p.gap ++ p.text).foldl step r).recordLine = r.recordLine := by
  obtain ⟨before, records, recordLine⟩ := foldl_gap outside holds.gap
  rw [List.foldl_append]
  generalize p.gap.foldl step r = r' at before records recordLine ⊢
  obtain ⟨b, first, begins⟩ := holds.begins
  have asField : p.text.foldl step r' = p.text.foldl step { r' with phase := .fieldStart } := by
    obtain ⟨others, split⟩ := List.head?_eq_some_iff.mp first
    rw [split, List.foldl_cons, List.foldl_cons, step_begins before.phase begins]
  obtain ⟨done, fields, records', recordLine'⟩ :=
    foldl_joined last (r := { r' with phase := .fieldStart }) rfl before.field holds.text
  rw [← asField] at done fields records' recordLine'
  refine ⟨done, ?_, records'.trans records, recordLine'.trans recordLine⟩
  rw [fields]
  change r'.fields.reverse ++ p.fields = p.fields
  rw [before.fields]
  rfl

theorem Between.outside {r : RecordReader} {line : Nat} (between : Between r line) : Outside r :=
  ⟨between.phase, between.field, between.fields⟩

theorem view_endRecord (r : RecordReader) :
    r.endRecord.records.map view = (r.recordLine, current r) :: r.records.map view := by
  have reversed : (r.field.reverse :: r.fields).reverse = current r := List.reverse_cons
  rw [← reversed]
  rfl

/-- A passage that ends with a line end adds its record, and the next passage begins where it ends. -/
theorem foldl_closed {r : RecordReader} {line : Nat} {p : Passage} (between : Between r line) (closed : p.Closed) :
    Between (p.bytes.foldl step r) (line + p.bytes.count lineFeed) ∧
      (p.bytes.foldl step r).records.map view = (line, p.fields) :: r.records.map view := by
  obtain ⟨e, ending, ends⟩ := closed.ending
  obtain ⟨ready, fields, records, recordLine⟩ := foldl_holds foldl_fieldText between.outside closed.holds
  have lines := line_foldl r p.bytes
  have whole : p.bytes = (p.gap ++ p.text) ++ [e] := by rw [Passage.bytes, ending, List.append_assoc]
  rw [between.current, whole, List.foldl_append, List.foldl_cons, List.foldl_nil,
    step_ready_lineEnd ready ends, ← whole] at lines
  rw [whole, List.foldl_append, List.foldl_cons, List.foldl_nil, step_ready_lineEnd ready ends, ← whole]
  refine ⟨⟨rfl, lines, lines, rfl, rfl⟩, ?_⟩
  have noted : ((p.gap ++ p.text).foldl step r).recordLine = line := recordLine.trans between.recordLine
  rw [view_endRecord]
  change (((p.gap ++ p.text).foldl step r).recordLine, current ((p.gap ++ p.text).foldl step r)) ::
    ((p.gap ++ p.text).foldl step r).records.map view = _
  rw [noted, fields, records]

/-- The file ends the record of the last passage. -/
theorem finish_unclosed {r : RecordReader} {line : Nat} {p : Passage} (between : Between r line)
    (unclosed : p.Unclosed) :
    (p.bytes.foldl step r).finish.map view = (r.records.map view).reverse ++ [(line, p.fields)] := by
  obtain ⟨within, fields, records, recordLine⟩ :=
    foldl_holds (P := fun r => r.phase ≠ .betweenRecords) foldl_lastFieldText between.outside unclosed.holds
  have whole : p.bytes = p.gap ++ p.text := by rw [Passage.bytes, unclosed.ending, List.append_nil]
  have ended : ((p.gap ++ p.text).foldl step r).finish =
      ((p.gap ++ p.text).foldl step r).endRecord.records.reverse := by
    unfold finish
    split
    · next phase => exact absurd phase within
    · rfl
  rw [whole, ended, List.map_reverse, view_endRecord, fields, records, recordLine, between.recordLine,
    List.reverse_cons]

theorem finish_isFile {r : RecordReader} {line : Nat} {passages : List Passage} {bytes : List UInt8}
    (between : Between r line) (isFile : IsFile passages bytes) :
    (bytes.foldl step r).finish.map view = (r.records.map view).reverse ++ Passage.numbered line passages := by
  -- The records read so far stand in front; the reader between two records knows only its line.
  induction isFile generalizing r line with
  | gap passed =>
      obtain ⟨outside, records, -⟩ := foldl_gap between.outside passed
      rw [finish, outside.phase]
      dsimp only
      rw [records, List.map_reverse]
      exact (List.append_nil _).symm
  | last unclosed => exact finish_unclosed between unclosed
  | cons closed others ih =>
      obtain ⟨next, records⟩ := foldl_closed between closed
      rw [List.foldl_append, ih next, records, List.reverse_cons, List.append_assoc]
      rfl

/-- The bytes of a file behind the mark that it may begin with. -/
def content (bytes : List UInt8) : List UInt8 :=
  if byteOrderMark.isPrefixOf bytes then bytes.drop byteOrderMark.length else bytes

/-- The records of a file are those of its passages, each with the line on which its passage begins. -/
theorem view_readAll {bytes : List UInt8} {passages : List Passage} (isFile : IsFile passages (content bytes)) :
    (readAll bytes).map view = Passage.numbered 1 passages := by
  unfold content at isFile
  unfold readAll
  split
  · next marked =>
      rw [if_pos marked] at isFile
      exact finish_isFile (r := start byteOrderMark.length) ⟨rfl, rfl, rfl, rfl, rfl⟩ isFile
  · next unmarked =>
      rw [if_neg unmarked] at isFile
      exact finish_isFile between_start isFile

end RecordReader

end QuicksortStudy
