import Mathlib
import QuicksortStudy.Proofs.Text.Words
import QuicksortStudy.Results.Record

/-!
# Files without quotes

Without quotes the reader does no more than cut: a record is a line that is not empty, and its fields are
the pieces of the line between blanks.
-/

namespace QuicksortStudy

namespace RecordReader

/-- The pieces of a line between blanks, the empty ones too. -/
def cells (line : List UInt8) : List (List UInt8) := line.splitOnP (· == blank)

/-- The reader is in a record, but not in quotes. -/
def InRecord (r : RecordReader) : Prop := r.phase = .fieldStart ∨ r.phase = .unquoted

/-- The fields of the record that the reader is in, the current one included. -/
def current (r : RecordReader) : List (List UInt8) := r.fields.reverse ++ [r.field.reverse]

theorem step_inRecord {r : RecordReader} {b : UInt8} (inRecord : InRecord r) (unquoted : b ≠ quote) :
    r.step b = (r.count b).plain b := by
  unfold step
  dsimp only
  rcases inRecord with start | middle
  · have phase : (r.count b).phase = .fieldStart := start
    rw [phase]
    exact if_neg (by simpa using unquoted)
  · have phase : (r.count b).phase = .unquoted := middle
    rw [phase]

theorem step_between {r : RecordReader} {b : UInt8} (between : r.phase = .betweenRecords) (unquoted : b ≠ quote) :
    r.step b = if endsRecord b then r.count b else (r.count b).plain b := by
  have phase : (r.count b).phase = .betweenRecords := between
  have start : (r.count b).startField b = (r.count b).plain b := if_neg (by simpa using unquoted)
  unfold step
  dsimp only
  rw [phase]
  dsimp only
  rw [start]

/-- A byte of a line adds to the current record and to nothing else. -/
theorem plain_inLine (r : RecordReader) {b : UInt8} (inLine : endsRecord b = false) (rest : List UInt8) :
    InRecord (r.plain b) ∧ (r.plain b).records = r.records ∧
      (r.plain b).fields.reverse ++ (cells rest).modifyHead ((r.plain b).field.reverse ++ ·) =
        r.fields.reverse ++ (cells (b :: rest)).modifyHead (r.field.reverse ++ ·) := by
  unfold plain cells
  rw [List.splitOnP_cons_eq_if_modifyHead]
  cases isBlank : b == blank with
  | true =>
      refine ⟨.inl rfl, rfl, ?_⟩
      have fresh : (rest.splitOnP (· == blank)).modifyHead ([] ++ ·) = rest.splitOnP (· == blank) :=
        congrFun List.modifyHead_id _
      simp only [if_true, endField, List.reverse_cons, List.append_assoc, List.singleton_append,
        List.modifyHead_cons, List.append_nil]
      exact congrArg (fun pieces => r.fields.reverse ++ r.field.reverse :: pieces) fresh
  | false =>
      rw [if_neg Bool.false_ne_true, if_neg Bool.false_ne_true, inLine, if_neg Bool.false_ne_true]
      refine ⟨.inr rfl, rfl, ?_⟩
      rw [List.modifyHead_modifyHead]
      simp only [keep, List.reverse_cons, Function.comp_def, List.append_assoc, List.singleton_append]

theorem foldl_inLine {r : RecordReader} {line : List UInt8} (inRecord : InRecord r) (unquoted : quote ∉ line)
    (inLine : ∀ b ∈ line, endsRecord b = false) :
    InRecord (line.foldl step r) ∧ (line.foldl step r).records = r.records ∧
      current (line.foldl step r) = r.fields.reverse ++ (cells line).modifyHead (r.field.reverse ++ ·) := by
  induction line generalizing r with
  | nil =>
      refine ⟨inRecord, rfl, ?_⟩
      rw [List.foldl_nil, cells, List.splitOnP_nil, List.modifyHead_cons, List.append_nil]
      rfl
  | cons b line ih =>
      obtain ⟨notQuote, unquoted⟩ := List.ne_and_not_mem_of_not_mem_cons unquoted
      obtain ⟨first, others⟩ := List.forall_mem_cons.mp inLine
      obtain ⟨stays, records, fields⟩ := (r.count b).plain_inLine first line
      rw [List.foldl_cons, step_inRecord inRecord notQuote.symm]
      obtain ⟨stays', records', fields'⟩ := ih stays unquoted others
      exact ⟨stays', records'.trans records, fields'.trans fields⟩

/-- The reader has ended a record, or not begun any. -/
structure Outside (r : RecordReader) : Prop where
  phase : r.phase = .betweenRecords
  field : r.field = []
  fields : r.fields = []

/-- A line that is not empty is a record. -/
theorem foldl_line {r : RecordReader} {line : List UInt8} (outside : Outside r) (some : line ≠ [])
    (unquoted : quote ∉ line) (inLine : ∀ b ∈ line, endsRecord b = false) :
    InRecord (line.foldl step r) ∧ (line.foldl step r).records = r.records ∧
      current (line.foldl step r) = cells line := by
  cases line with
  | nil => exact absurd rfl some
  | cons b line =>
      obtain ⟨notQuote, unquoted⟩ := List.ne_and_not_mem_of_not_mem_cons unquoted
      obtain ⟨first, others⟩ := List.forall_mem_cons.mp inLine
      obtain ⟨stays, records, fields⟩ := (r.count b).plain_inLine first line
      obtain ⟨stays', records', fields'⟩ := foldl_inLine stays unquoted others
      rw [List.foldl_cons, step_between outside.phase notQuote.symm, first, if_neg Bool.false_ne_true]
      refine ⟨stays', records'.trans records, ?_⟩
      have nothing : (r.count b).fields.reverse ++ (cells (b :: line)).modifyHead ((r.count b).field.reverse ++ ·) =
          cells (b :: line) := by
        have field : (r.count b).field = [] := outside.field
        have fields : (r.count b).fields = [] := outside.fields
        rw [field, fields]
        exact congrFun List.modifyHead_id _
      rw [fields', fields, nothing]

theorem endRecord_outside (r : RecordReader) : Outside r.endRecord := ⟨rfl, rfl, rfl⟩

theorem fields_endRecord (r : RecordReader) :
    r.endRecord.records.map RawRecord.fields = current r :: r.records.map RawRecord.fields := by
  have reversed : (r.field.reverse :: r.fields).reverse = current r := List.reverse_cons
  rw [← reversed]
  rfl

theorem step_lineEnd {r : RecordReader} {e : UInt8} (inRecord : InRecord r) (ends : endsRecord e = true) :
    r.step e = (r.count e).endRecord := by
  have notQuote : e ≠ quote := by
    rintro rfl
    cases ends
  have notBlank : (e == blank) = false := by
    rw [beq_eq_false_iff_ne]
    rintro rfl
    cases ends
  rw [step_inRecord inRecord notQuote, plain, notBlank, if_neg Bool.false_ne_true, ends, if_pos rfl]

theorem finish_inRecord {r : RecordReader} (inRecord : InRecord r) : r.finish = r.endRecord.records.reverse := by
  unfold finish
  rcases inRecord with start | middle
  · rw [start]
  · rw [middle]

/-- Without quotes the records are the lines that are not empty, cut at blanks. -/
theorem finish_unquoted {r : RecordReader} {bytes : List UInt8} (outside : Outside r) (unquoted : quote ∉ bytes) :
    (bytes.foldl step r).finish.map RawRecord.fields =
      (r.records.map RawRecord.fields).reverse ++ (words endsRecord bytes).map cells := by
  -- The induction is on the number of bytes: what is left after the first line end is read from outside again.
  induction length : bytes.length using Nat.strong_induction_on generalizing r bytes with
  | _ n ih =>
      cases found : bytes.find? endsRecord with
      | none =>
          have inLine : ∀ b ∈ bytes, endsRecord b = false := by simpa using List.find?_eq_none.mp found
          by_cases some : bytes = []
          · rw [some, words_nil, List.map_nil, List.append_nil, List.foldl_nil, finish, outside.phase,
              List.map_reverse]
          · obtain ⟨inRecord, records, fields⟩ := foldl_line outside some unquoted inLine
            rw [finish_inRecord inRecord, List.map_reverse, fields_endRecord, records, fields,
              words_of_none inLine some, List.reverse_cons]
            rfl
      | some e =>
          obtain ⟨ends, line, rest, rfl, before⟩ := List.find?_eq_some_iff_append.mp found
          have inLine : ∀ b ∈ line, endsRecord b = false := by simpa using before
          have unquotedLine : quote ∉ line := fun member => unquoted (List.mem_append_left _ member)
          have unquotedRest : quote ∉ rest := fun member =>
            unquoted (List.mem_append_right _ (List.mem_cons_of_mem e member))
          have shorter : rest.length < n := by
            rw [← length, List.length_append, List.length_cons]
            omega
          rw [List.foldl_append, List.foldl_cons, words_append_cons line rest ends, List.map_append]
          by_cases some : line = []
          · have notQuote : e ≠ quote := by
              rintro rfl
              cases ends
            subst some
            rw [List.foldl_nil, step_between outside.phase notQuote, ends, if_pos rfl, words_nil, List.map_nil,
              List.nil_append]
            exact ih rest.length shorter (r := r.count e) ⟨outside.phase, outside.field, outside.fields⟩
              unquotedRest rfl
          · obtain ⟨inRecord, records, fields⟩ := foldl_line outside some unquotedLine inLine
            have counted : current ((line.foldl step r).count e) = current (line.foldl step r) := rfl
            have kept : ((line.foldl step r).count e).records = (line.foldl step r).records := rfl
            rw [step_lineEnd inRecord ends, ih rest.length shorter (endRecord_outside _) unquotedRest rfl,
              fields_endRecord, counted, kept, records, fields, words_of_none inLine some, List.reverse_cons,
              List.append_assoc]
            rfl

theorem fields_readAll {bytes : List UInt8} (unquoted : quote ∉ bytes) :
    (readAll bytes).map RawRecord.fields =
      (words endsRecord (if byteOrderMark.isPrefixOf bytes then bytes.drop byteOrderMark.length else bytes)).map
        cells := by
  unfold readAll
  split
  · exact finish_unquoted ⟨rfl, rfl, rfl⟩ fun member => unquoted (List.mem_of_mem_drop member)
  · exact finish_unquoted ⟨rfl, rfl, rfl⟩ unquoted

end RecordReader

end QuicksortStudy
