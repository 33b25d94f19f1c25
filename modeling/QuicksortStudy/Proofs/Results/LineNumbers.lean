import Mathlib
import QuicksortStudy.Proofs.Results.Blame
import QuicksortStudy.Proofs.Results.Reading

/-!
# The line named with a bad row

A bad row is reported with a line.  It is the line on which the passage of the row begins, that is, the line where the
row before has ended.  The text of the row begins on this line or on a later one, as many lines below as the gap before
it has line feeds.  So the line is that of the text unless a blank line stands before it or the row before ends with a
carriage return and a line feed.
-/

namespace QuicksortStudy

open RecordReader

/-! ## Passages as texts -/

/-- The fields of a passage are some texts. -/
def Passage.Means (p : Passage) (texts : List String) : Prop :=
  List.Forall₂ (fun field text => Utf8.decode field = .ok text) p.fields texts

/-- A passage that is a sample. -/
def Passage.IsGood (p : Passage) : Prop := ∃ texts row, p.Means texts ∧ Sample.ofFields texts = .ok row

/-- A passage that is no sample, with the passages before it. -/
structure BadPassage (passages before : List Passage) (p : Passage) (error : RowError) : Prop where
  split : ∃ after, passages = before ++ p :: after
  bad : ∃ texts, p.Means texts ∧ Sample.ofFields texts = .error error

/-- The number of the line on which stands what comes next after some bytes.  A line ends with a line feed, alone or
behind a carriage return. -/
def lineAfter (bytes : List UInt8) : Nat := 1 + bytes.count lineFeed

theorem RawRecord.decodeFields_ok {record : RawRecord} {index position : Nat} {fields : List (List UInt8)}
    {texts : List String} (done : record.decodeFields index position fields = .ok texts) :
    List.Forall₂ (fun field text => Utf8.decode field = .ok text) fields texts := by
  induction fields generalizing position texts with
  | nil =>
      cases done
      exact .nil
  | cons field fields ih =>
      unfold decodeFields at done
      split at done
      · cases done
      · next text first =>
          obtain ⟨others, rest, done⟩ := exists_of_bind done
          cases done
          exact .cons first (ih rest)

/-- A record as texts is one that was seen as bytes. -/
structure Record.IsSeen (seen : Nat × List (List UInt8)) (record : Record) : Prop where
  line : record.line = seen.1
  fields : List.Forall₂ (fun field text => Utf8.decode field = .ok text) seen.2 record.fields

theorem Record.forall₂_of_readAll {bytes : List UInt8} {records : List Record} (done : readAll bytes = .ok records) :
    List.Forall₂ IsSeen ((RecordReader.readAll bytes).map view) records := by
  have raw : (RecordReader.readAll bytes).map view = (RecordReader.readAll bytes).zipIdx.map (view ∘ Prod.fst) := by
    rw [← List.map_map, List.zipIdx_map_fst]
  rw [raw, List.forall₂_map_left_iff]
  refine (mapM_eq_ok_iff.mp done).imp fun numbered record decoded => ?_
  obtain ⟨texts, fields, decoded⟩ := exists_of_bind decoded
  cases decoded
  exact ⟨rfl, RawRecord.decodeFields_ok fields⟩

/-- A record among others stands in a passage among others, whose line counts the passages before. -/
theorem Passage.exists_split {line : Nat} {passages : List Passage} {before after : List Record} {record : Record}
    (seen : List.Forall₂ Record.IsSeen (numbered line passages) (before ++ record :: after)) :
    ∃ earlier p later, passages = earlier ++ p :: later ∧
      List.Forall₂ (fun q other => q.Means other.fields) earlier before ∧ p.Means record.fields ∧
      record.line = line + (earlier.flatMap bytes).count lineFeed := by
  induction before generalizing line passages with
  | nil =>
      cases passages with
      | nil => cases seen
      | cons p passages =>
          obtain ⟨first, -⟩ := List.forall₂_cons.mp seen
          exact ⟨[], p, passages, rfl, .nil, first.fields, first.line⟩
  | cons other before ih =>
      cases passages with
      | nil => cases seen
      | cons q passages =>
          obtain ⟨first, others⟩ := List.forall₂_cons.mp seen
          obtain ⟨earlier, p, later, rfl, meanings, meaning, named⟩ := ih others
          refine ⟨q :: earlier, p, later, rfl, .cons first.fields meanings, meaning, ?_⟩
          rw [named, List.flatMap_cons, List.count_append, Nat.add_assoc]

/-! ## Bad rows -/

namespace RecordFile

/-- A bad record of a file stands in a bad passage, and has the line on which this begins. -/
theorem badPassage {folder : Folder} {place : Place} {file : RecordFile} {records : List Record} {record : Record}
    {error : RowError} (reads : Reads folder (.ok place) file) (bad : file.BadBehind records record error) :
    ∃ bytes, folder.read place.path = .ok bytes ∧ ∀ passages, IsFile passages (content bytes) →
      ∃ before p, BadPassage passages before p error ∧ record.line = lineAfter (before.flatMap Passage.bytes) ∧
        ((∀ other ∈ records, ∃ row, Sample.ofFields other.fields = .ok row) → ∀ q ∈ before, q.IsGood) := by
  obtain ⟨⟨after, split⟩, failed⟩ := bad
  cases reads with
  | @file _ bytes all held isRecords =>
      refine ⟨bytes, held, fun passages isFile => ?_⟩
      have split : all = records ++ record :: after := split
      have seen := Record.forall₂_of_readAll isRecords
      rw [view_readAll isFile, split] at seen
      obtain ⟨earlier, p, later, rfl, meanings, meaning, named⟩ := Passage.exists_split seen
      refine ⟨earlier, p, ⟨⟨later, rfl⟩, record.fields, meaning, failed⟩, named, fun good q member => ?_⟩
      obtain ⟨other, inFile, meaning'⟩ := exists_mem_of_forall₂ meanings q member
      obtain ⟨row, done⟩ := good other inFile
      exact ⟨other.fields, row, meaning', done⟩

end RecordFile

namespace Samples

open RecordFile

variable {schedule : Schedule} {folder : Folder} {pattern : String} {places : List Place}

/-- The files that a pattern matches can all be read, and some row of some file is no sample. -/
structure Malformed (folder : Folder) (pattern : String) (places : List Place) : Prop where
  matched : folder.Matches pattern (places.map .ok)
  readable : ∀ place ∈ places, ∃ file, Reads folder (.ok place) file
  bad : ∃ place ∈ places, ∃ file, Reads folder (.ok place) file ∧
    ∃ record ∈ file.records, ∀ row, Sample.ofFields record.fields ≠ .ok row

/-- Then a row of one of the files is blamed. -/
theorem exists_badRow (malformed : Malformed folder pattern places) (schedule : Schedule) :
    ∃ place ∈ places, ∃ file before record error, Reads folder (.ok place) file ∧
      file.BadBehind before record error ∧
      (schedule = .inOrder → ∀ other ∈ before, ∃ row, Sample.ofFields other.fields = .ok row) ∧
      (load schedule folder pattern).result = .error (.badRow place.path record.line error) := by
  obtain ⟨matched, readable, badPlace, listed, badFile, isFile, badRecord, inFile, noRow⟩ := malformed
  have outcome : LoadOutcome (fun file record error => ∃ before, file.BadBehind before record error ∧
      (schedule = .inOrder → ∀ other ∈ before, ∃ row, Sample.ofFields other.fields = .ok row)) folder pattern
      (places.map .ok) (load schedule folder pattern) := by
    refine outcome_of_load matched fun file reason failed => ?_
    obtain ⟨before, record, error, bad, rfl, good⟩ := badBehind_of_samples failed
    exact ⟨record, error, ⟨before, bad, good⟩, rfl⟩
  generalize load schedule folder pattern = answer at outcome ⊢
  generalize found : places.map Except.ok = entries at outcome
  have listed : .ok badPlace ∈ entries := found ▸ List.mem_map_of_mem listed
  cases outcome with
  | noFile => cases listed
  | @unreadable before after entry error others bad =>
      have member : entry ∈ places.map Except.ok := found ▸ List.mem_append_right before (List.mem_cons_self ..)
      obtain ⟨place, inPlaces, rfl⟩ := List.mem_map.mp member
      obtain ⟨file, reads⟩ := readable place inPlaces
      have failed := readFound_eq_error_iff.mpr bad
      rw [readFound_eq_ok_iff.mpr reads] at failed
      cases failed
  | @badRow _ before after file blocks record error read good blamed =>
      obtain ⟨entry, inEntries, reads⟩ := exists_mem_of_forall₂ read.flip file
        (List.mem_append_right before (List.mem_cons_self ..))
      obtain ⟨place, inPlaces, rfl⟩ := List.mem_map.mp (found ▸ inEntries)
      obtain ⟨records, bad, first⟩ := blamed
      have path : file.path = place.path := by cases reads; rfl
      exact ⟨place, inPlaces, file, records, record, error, reads, bad, first, by rw [path]⟩
  | @loaded _ files blocks some read good =>
      obtain ⟨file, inFiles, reads⟩ := exists_mem_of_forall₂ read (.ok badPlace) listed
      obtain ⟨rows, isGood⟩ := exists_of_forall₂ good file inFiles
      rw [isFile.unique reads] at inFile
      obtain ⟨row, done⟩ := exists_of_forall₂ isGood badRecord inFile
      exact absurd done (noRow row)

/-! ## Two short rows -/

/-- A passage of three fields of one byte each. -/
def shortPassage (gap : List UInt8) (size sortedness time ending : UInt8) : Passage :=
  ⟨gap, [size, blank, sortedness, blank, time], [ending], [[size], [sortedness], [time]]⟩

theorem closed_shortPassage {gap : List UInt8} {size sortedness time ending : UInt8}
    (passed : ∀ b ∈ gap, endsRecord b = true)
    (plain : ∀ b ∈ [size, sortedness, time], endsField b = false ∧ b ≠ quote) (ends : endsRecord ending = true) :
    (shortPassage gap size sortedness time ending).Closed := by
  have field : ∀ b ∈ [size, sortedness, time], FieldText [b] [b] := fun b member =>
    .bare ⟨List.forall_mem_singleton.mpr (plain b member).1, fun same => (plain b member).2 (Option.some.inj same)⟩
  simp only [List.forall_mem_cons] at field
  obtain ⟨isSize, isSortedness, isTime, -⟩ := field
  have begins := (Bool.or_eq_false_iff.mp (plain size (List.mem_cons_self ..)).1).2
  exact ⟨⟨passed, ⟨size, rfl, begins⟩, .cons isSize (.cons isSortedness (.last isTime))⟩, ending, rfl, ends⟩

/-- The rows `1 2 3` and `x 5 6`, each with the same byte behind it, and a gap between them. -/
def goodAndBad (gap : List UInt8) (ending : UInt8) : List Passage :=
  [shortPassage [] 0x31 0x32 0x33 ending, shortPassage gap 0x78 0x35 0x36 ending]

theorem isFile_goodAndBad {gap last : List UInt8} {ending : UInt8} (passed : ∀ b ∈ gap, endsRecord b = true)
    (ends : endsRecord ending = true) (behind : ∀ b ∈ last, endsRecord b = true) :
    IsFile (goodAndBad gap ending) ((goodAndBad gap ending).flatMap Passage.bytes ++ last) := by
  have good : (shortPassage [] 0x31 0x32 0x33 ending).Closed :=
    closed_shortPassage (List.forall_mem_nil _) (by decide +kernel) ends
  have bad : (shortPassage gap 0x78 0x35 0x36 ending).Closed := closed_shortPassage passed (by decide +kernel) ends
  have file := IsFile.cons good (.cons bad (.gap behind))
  simpa only [goodAndBad, List.flatMap_cons, List.flatMap_nil, List.append_nil, List.append_assoc] using file

theorem means_shortPassage {gap : List UInt8} {size sortedness time ending : UInt8} {texts : List String}
    (decoded : [[size], [sortedness], [time]].mapM Utf8.decode = .ok texts) :
    (shortPassage gap size sortedness time ending).Means texts := mapM_eq_ok_iff.mp decoded

theorem badPassage_goodAndBad (gap : List UInt8) (ending : UInt8) :
    BadPassage (goodAndBad gap ending) [shortPassage [] 0x31 0x32 0x33 ending]
      (shortPassage gap 0x78 0x35 0x36 ending) (.notNumber 0) where
  split := ⟨[], rfl⟩
  bad := ⟨["x", "5", "6"], means_shortPassage (by decide +kernel), by decide +kernel⟩

theorem isGood_goodAndBad (ending : UInt8) : (shortPassage [] 0x31 0x32 0x33 ending).IsGood :=
  ⟨["1", "2", "3"], ⟨1, 2, 3⟩, means_shortPassage (by decide +kernel), by decide +kernel⟩

/-- A file with a blank line between the two rows. -/
def blankLineFolder : Folder :=
  ⟨["work"], [], [(["work", "rows.csv"], .file (Utf8.encode "1 2 3\n\nx 5 6\n"))]⟩

theorem malformed_blankLineFolder :
    Malformed blankLineFolder "rows.csv" [⟨"rows.csv", ["work", "rows.csv"]⟩] := by
  have held : blankLineFolder.read "rows.csv" = .ok (Utf8.encode "1 2 3\n\nx 5 6\n") := by decide +kernel
  have reads : Reads blankLineFolder (.ok ⟨"rows.csv", ["work", "rows.csv"]⟩)
      ⟨"rows.csv", [⟨1, ["1", "2", "3"]⟩, ⟨2, ["x", "5", "6"]⟩]⟩ :=
    @Reads.file _ ⟨"rows.csv", ["work", "rows.csv"]⟩ _ _ held (by decide +kernel)
  have failed : Sample.ofFields ["x", "5", "6"] = .error (.notNumber 0) := by decide +kernel
  constructor
  case matched => exact ⟨⟨false, [.name ("rows.csv".toList.map .literal)], false⟩, by decide +kernel, by decide +kernel⟩
  case readable => exact List.forall_mem_singleton.mpr ⟨_, reads⟩
  case bad =>
    refine ⟨_, List.mem_cons_self .., _, reads, ⟨2, ["x", "5", "6"]⟩, by decide, fun row done => ?_⟩
    rw [failed] at done
    cases done

/-! ## The line and the text -/

/-- The line that is named with a bad row is the one on which its passage begins.  The text of the row begins below it
by the line feeds of the gap, so the line is right if and only if the gap has none.  It is the first bad row of its file
if the rows are looked at one after the other. -/
theorem badRow_line (malformed : Malformed folder pattern places) :
    ∃ place ∈ places, ∃ bytes line error, folder.read place.path = .ok bytes ∧
      (load schedule folder pattern).result = .error (.badRow place.path line error) ∧
      (∃ passages, IsFile passages (content bytes)) ∧
      ∀ passages, IsFile passages (content bytes) → ∃ before p, BadPassage passages before p error ∧
        (schedule = .inOrder → ∀ q ∈ before, q.IsGood) ∧
        line = lineAfter (before.flatMap Passage.bytes) ∧
        lineAfter (before.flatMap Passage.bytes ++ p.gap) = line + p.gap.count lineFeed ∧
        (line = lineAfter (before.flatMap Passage.bytes ++ p.gap) ↔ lineFeed ∉ p.gap) := by
  obtain ⟨place, listed, file, records, record, error, reads, bad, first, failed⟩ := exists_badRow malformed schedule
  obtain ⟨bytes, held, stands⟩ := badPassage reads bad
  refine ⟨place, listed, bytes, record.line, error, held, failed, exists_isFile _, fun passages isFile => ?_⟩
  obtain ⟨before, p, isBad, named, good⟩ := stands passages isFile
  have below : lineAfter (before.flatMap Passage.bytes ++ p.gap) = record.line + p.gap.count lineFeed := by
    rw [named, lineAfter, lineAfter, List.count_append, Nat.add_assoc]
  refine ⟨before, p, isBad, fun inOrder => good (first inOrder), named, below, ?_⟩
  rw [below, ← List.count_eq_zero]
  omega

/-- The line that is named is the blank one; the text of the bad row is on the line below. -/
theorem badRow_line_blankLine :
    Malformed blankLineFolder "rows.csv" [⟨"rows.csv", ["work", "rows.csv"]⟩] ∧
      ∃ before p line, BadPassage (goodAndBad [lineFeed] lineFeed) before p (.notNumber 0) ∧
        (∀ q ∈ before, q.IsGood) ∧
        (load .inOrder blankLineFolder "rows.csv").result = .error (.badRow "rows.csv" line (.notNumber 0)) ∧
        line = 2 ∧ lineAfter (before.flatMap Passage.bytes ++ p.gap) = 3 := by
  obtain ⟨place, listed, bytes, line, error, held, failed, -, stands⟩ :=
    @badRow_line .inOrder _ _ _ malformed_blankLineFolder
  cases List.mem_singleton.mp listed
  have result : (load .inOrder blankLineFolder "rows.csv").result = .error (.badRow "rows.csv" 2 (.notNumber 0)) := by
    decide +kernel
  have answer : blankLineFolder.read "rows.csv" =
      .ok ((goodAndBad [lineFeed] lineFeed).flatMap Passage.bytes ++ []) := by decide +kernel
  cases answer.symm.trans held
  cases result.symm.trans failed
  obtain ⟨before, p, bad, good, named, below, -⟩ := stands (goodAndBad [lineFeed] lineFeed)
    (isFile_goodAndBad (by decide +kernel) rfl (List.forall_mem_nil _))
  refine ⟨malformed_blankLineFolder, before, p, 2, bad, good rfl, result, rfl, below.trans ?_⟩
  -- The file has two passages, and the first one begins on line 1.
  obtain ⟨after, split⟩ := bad.split
  match before, split, named with
  | [], _, named => cases named
  | [_], split, _ =>
      cases split
      rfl
  | _ :: _ :: _, split, _ => simp [goodAndBad] at split

/-- A file with a carriage return and a line feed behind each of the two rows. -/
def carriageReturnFolder : Folder :=
  ⟨["work"], [], [(["work", "rows.csv"], .file (Utf8.encode "1 2 3\r\nx 5 6\r\n"))]⟩

/-- Line 1 is named, on which the good row stands; the only bad row is the text of line 2.  No blank line is needed for
that: the row before ends at its carriage return, and the line feed is left to the gap. -/
theorem badRow_line_ne_textLine :
    ∃ bytes passages before p, carriageReturnFolder.read "rows.csv" = .ok bytes ∧
      IsFile passages (content bytes) ∧ BadPassage passages before p (.notNumber 0) ∧ (∀ q ∈ before, q.IsGood) ∧
      lineAfter (before.flatMap Passage.bytes ++ p.gap) = 2 ∧
      (load .inOrder carriageReturnFolder "rows.csv").result = .error (.badRow "rows.csv" 1 (.notNumber 0)) := by
  refine ⟨(goodAndBad [lineFeed] carriageReturn).flatMap Passage.bytes ++ [lineFeed],
    goodAndBad [lineFeed] carriageReturn, _, _, by decide +kernel, ?_, badPassage_goodAndBad _ _,
    List.forall_mem_singleton.mpr (isGood_goodAndBad carriageReturn), by decide +kernel, by decide +kernel⟩
  exact isFile_goodAndBad (by decide +kernel) (by decide +kernel) (by decide +kernel)

end Samples

end QuicksortStudy
