import Mathlib
import QuicksortStudy.Proofs.Results.SideBySide

/-!
# What loading several files comes to

Loading has one of four ends, told apart in a fixed order: nothing matches, a file cannot be read, a row is no sample,
or all rows of all files are there.  A file that cannot be read is blamed before any row, the first such file before
later ones.  A row is blamed only if all files could be read, and it is a row of the first file that has any bad one.
Which of its bad rows that is depends on the schedule.  Each of them is blamed under some schedule, and one row after
the other the first of them is.
-/

namespace QuicksortStudy

/-! ## Files -/

/-- A text is a pattern, and the walk along it comes to this, in this order. -/
def Folder.Matches (folder : Folder) (pattern : String) (found : List (Except WalkError Place)) : Prop :=
  ∃ parsed, PathPattern.parse pattern = .ok parsed ∧ folder.walk parsed = found

namespace RecordFile

/-- A walk has come to a file, which holds the records that its bytes are read as. -/
inductive Reads (folder : Folder) : Except WalkError Place → RecordFile → Prop where
  | file {place : Place} {bytes : List UInt8} {records : List Record} (content : folder.read place.path = .ok bytes)
      (split : Record.readAll bytes = .ok records) : Reads folder (.ok place) ⟨place.path, records⟩

/-- Why there are no records where a walk has come to: a directory on the way that may not be listed, or, at the end of
it, a directory, a file that cannot be opened, or a field that is no text. -/
inductive Unreadable (folder : Folder) : Except WalkError Place → LoadError → Prop where
  | unlisted (error : WalkError) : Unreadable folder (.error error) (.cannotList error)
  | directory {place : Place} (found : folder.read place.path = .error .isDirectory) :
      Unreadable folder (.ok place) (.unreadable .isDirectory)
  | closed {place : Place} {error : PathError} (found : folder.read place.path = .error error)
      (other : error ≠ .isDirectory) : Unreadable folder (.ok place) (.cannotOpen place.path error)
  | encoding {place : Place} {bytes : List UInt8} {error : EncodingError} (found : folder.read place.path = .ok bytes)
      (bad : Record.readAll bytes = .error error) : Unreadable folder (.ok place) (.notText error)

section reading

variable {folder : Folder} {entry : Except WalkError Place}

theorem readFound_eq_ok_iff {file : RecordFile} : readFound folder entry = .ok file ↔ Reads folder entry file := by
  constructor
  · intro opened
    cases entry with
    | error error => cases opened
    | ok place =>
        unfold readFound read at opened
        dsimp only at opened
        split at opened
        · cases opened
        · cases opened
        · next bytes found =>
            split at opened
            · cases opened
            · next records isRecords =>
                cases opened
                exact .file found isRecords
  · rintro ⟨found, isRecords⟩
    unfold readFound read
    dsimp only
    rw [found]
    dsimp only
    rw [isRecords]

theorem readFound_eq_error_iff {error : LoadError} :
    readFound folder entry = .error error ↔ Unreadable folder entry error := by
  constructor
  · intro failed
    cases entry with
    | error error =>
        cases failed
        exact .unlisted error
    | ok place =>
        unfold readFound read at failed
        dsimp only at failed
        split at failed
        · next found =>
            cases failed
            exact .directory found
        · next reason other found =>
            cases failed
            exact .closed found other
        · next bytes found =>
            split at failed
            · next reason bad =>
                cases failed
                exact .encoding found bad
            · cases failed
  · rintro (_ | found | ⟨found, other⟩ | ⟨found, bad⟩)
    · rfl
    · unfold readFound read
      dsimp only
      rw [found]
    · unfold readFound read
      dsimp only
      rw [found]
      split
      · next same => exact absurd (Except.error.inj same) other
      · next same => rw [Except.error.inj same]
      · next same => cases same
    · unfold readFound read
      dsimp only
      rw [found]
      dsimp only
      rw [bad]

theorem Reads.unique {file file' : RecordFile} (reads : Reads folder entry file) (reads' : Reads folder entry file') :
    file = file' := by
  have same := (readFound_eq_ok_iff.mpr reads).symm.trans (readFound_eq_ok_iff.mpr reads')
  exact Except.ok.inj same

end reading

/-! ## Rows of a file -/

/-- Each record of a file is one of some samples. -/
def Good (file : RecordFile) (rows : List Sample) : Prop :=
  List.Forall₂ (fun record row => Sample.ofFields record.fields = .ok row) file.records rows

/-- A record of a file that is no sample, with the records before it. -/
structure BadBehind (file : RecordFile) (before : List Record) (record : Record) (error : RowError) : Prop where
  split : ∃ after, file.records = before ++ record :: after
  bad : Sample.ofFields record.fields = .error error

/-- What is logged about files with their samples. -/
def logOf (files : List RecordFile) (blocks : List (List Sample)) : List LogLine :=
  List.zipWith (fun file rows => file.logLine rows.length) files blocks

section samples

variable {schedule : Schedule} {file : RecordFile} {record : Record} {error : RowError}

theorem sample_eq_ok_iff {path : String} {row : Sample} :
    sample path record = .ok row ↔ Sample.ofFields record.fields = .ok row := by
  unfold sample
  cases Sample.ofFields record.fields with
  | error error =>
      constructor
      · rintro ⟨⟩
      · rintro ⟨⟩
  | ok row' =>
      constructor
      · exact fun done => congrArg Except.ok (Except.ok.inj done)
      · exact fun done => congrArg Except.ok (Except.ok.inj done)

theorem sample_eq_error_iff {path : String} {reason : LoadError} : sample path record = .error reason ↔
    ∃ error, Sample.ofFields record.fields = .error error ∧ reason = .badRow path record.line error := by
  unfold sample
  cases Sample.ofFields record.fields with
  | error error =>
      constructor
      · rintro ⟨⟩
        exact ⟨error, rfl, rfl⟩
      · rintro ⟨error', ⟨⟩, rfl⟩
        rfl
  | ok row =>
      constructor
      · rintro ⟨⟩
      · rintro ⟨error, ⟨⟩, -⟩

/-- A file gives its samples under every schedule, if all of its records are samples. -/
theorem samples_eq_ok_iff {rows : List Sample} : file.samples schedule = .ok rows ↔ file.Good rows := by
  unfold samples Good
  rw [Schedule.collect_eq_ok_iff, map_eq_map_iff]
  simp only [sample_eq_ok_iff]

/-- A bad row is blamed when a file gives no samples.  One row after the other, no bad one stands before it. -/
theorem badBehind_of_samples {reason : LoadError} (failed : file.samples schedule = .error reason) :
    ∃ before record error, file.BadBehind before record error ∧ reason = .badRow file.path record.line error ∧
      (schedule = .inOrder → ∀ other ∈ before, ∃ row, Sample.ofFields other.fields = .ok row) := by
  obtain ⟨position, failed, earliest⟩ := Schedule.comesUp_of_collect failed
  rw [List.getElem?_map, Option.map_eq_some_iff] at failed
  obtain ⟨record, listed, failed⟩ := failed
  obtain ⟨error, bad, rfl⟩ := sample_eq_error_iff.mp failed
  obtain ⟨inside, found⟩ := List.getElem?_eq_some_iff.mp listed
  refine ⟨file.records.take position, record, error, ⟨⟨file.records.drop (position + 1), ?_⟩, bad⟩, rfl, ?_⟩
  · rw [← found, List.getElem_cons_drop, List.take_append_drop]
  · rintro rfl other member
    obtain ⟨index, early, rfl⟩ := List.mem_take_iff_getElem.mp member
    obtain ⟨early, inside⟩ := lt_min_iff.mp early
    cases bad' : Sample.ofFields file.records[index].fields with
    | ok row => exact ⟨row, rfl⟩
    | error error' =>
        have failed' : (file.records.map (sample file.path))[index]? =
            some (.error (.badRow file.path file.records[index].line error')) := by
          rw [List.getElem?_map, List.getElem?_eq_getElem inside, Option.map_some,
            sample_eq_error_iff.mpr ⟨error', bad', rfl⟩]
        exact absurd early (Nat.not_lt.mpr (earliest index _ failed'))

end samples

/-! ## Rows of several files -/

section samplesOf

variable {schedule : Schedule} {files before after : List RecordFile} {blocks : List (List Sample)} {file : RecordFile}

/-- Files that are all good are passed one by one, and each is logged. -/
theorem samplesOf_append (good : List.Forall₂ Good files blocks) (rest : List RecordFile) :
    samplesOf schedule (files ++ rest) =
      ⟨(samplesOf schedule rest).result.map (blocks.flatten ++ ·),
        logOf files blocks ++ (samplesOf schedule rest).log⟩ := by
  induction good with
  | nil =>
      cases remaining : samplesOf schedule rest with
      | mk result log =>
          rw [List.nil_append, remaining]
          cases result <;> rfl
  | @cons file rows files blocks first others ih =>
      rw [List.cons_append, samplesOf, samples_eq_ok_iff.mpr first, ih]
      cases (samplesOf schedule rest).result with
      | error error => rfl
      | ok later =>
          simp only [Except.map, List.flatten_cons, List.append_assoc]
          rfl

theorem samplesOf_good (good : List.Forall₂ Good files blocks) :
    samplesOf schedule files = ⟨.ok blocks.flatten, logOf files blocks⟩ := by
  have all := @samplesOf_append schedule _ _ good []
  rw [List.append_nil] at all
  rw [all]
  simp only [samplesOf, Except.map, List.append_nil]

theorem samplesOf_bad {reason : LoadError} (good : List.Forall₂ Good before blocks)
    (failed : file.samples schedule = .error reason) :
    samplesOf schedule (before ++ file :: after) = ⟨.error reason, logOf before blocks⟩ := by
  rw [samplesOf_append good, samplesOf, failed]
  simp only [Except.map, List.append_nil]

theorem all_good_or_bad (schedule : Schedule) (files : List RecordFile) :
    (∃ blocks, List.Forall₂ Good files blocks) ∨
      ∃ before file after blocks reason, files = before ++ file :: after ∧
        List.Forall₂ Good before blocks ∧ file.samples schedule = .error reason := by
  induction files with
  | nil => exact .inl ⟨[], .nil⟩
  | cons file files ih =>
      cases first : file.samples schedule with
      | error reason => exact .inr ⟨[], file, files, [], reason, rfl, .nil, first⟩
      | ok rows =>
          have good := samples_eq_ok_iff.mp first
          rcases ih with ⟨blocks, all⟩ | ⟨before, file', after, blocks, reason, rfl, all, failed⟩
          · exact .inl ⟨rows :: blocks, .cons good all⟩
          · exact .inr ⟨file :: before, file', after, rows :: blocks, reason, rfl, .cons good all, failed⟩

end samplesOf

end RecordFile

/-! ## Loading -/

open RecordFile

/-- The four ends of loading what a walk comes to, with what is logged, where some records of a file may be blamed. -/
inductive LoadOutcome (blames : RecordFile → Record → RowError → Prop) (folder : Folder) (pattern : String) :
    List (Except WalkError Place) → Logged (Except LoadError Samples) → Prop where
  /-- There is nothing to load. -/
  | noFile : LoadOutcome blames folder pattern [] ⟨.error (.noFile pattern), []⟩
  /-- What cannot be read first is blamed, whatever rows the files before it hold. -/
  | unreadable {before after : List (Except WalkError Place)} {entry : Except WalkError Place} {error : LoadError}
      (readable : ∀ other ∈ before, ∃ file, Reads folder other file) (bad : Unreadable folder entry error) :
      LoadOutcome blames folder pattern (before ++ entry :: after) ⟨.error error, []⟩
  /-- All files can be read, and a bad row of the first file with any is blamed. -/
  | badRow {found : List (Except WalkError Place)} {before after : List RecordFile} {file : RecordFile}
      {blocks : List (List Sample)} {record : Record} {error : RowError}
      (read : List.Forall₂ (Reads folder) found (before ++ file :: after))
      (good : List.Forall₂ Good before blocks) (blamed : blames file record error) :
      LoadOutcome blames folder pattern found ⟨.error (.badRow file.path record.line error), logOf before blocks⟩
  /-- All rows of all files are there, in order. -/
  | loaded {found : List (Except WalkError Place)} {files : List RecordFile} {blocks : List (List Sample)}
      (some : found ≠ []) (read : List.Forall₂ (Reads folder) found files) (good : List.Forall₂ Good files blocks) :
      LoadOutcome blames folder pattern found ⟨.ok (.ofRows blocks.flatten), logOf files blocks⟩

namespace Samples

variable {schedule : Schedule} {folder : Folder} {pattern : String} {found : List (Except WalkError Place)}
  {answer : Logged (Except LoadError Samples)} {blames : RecordFile → Record → RowError → Prop}

theorem load_of_matches (matched : folder.Matches pattern found) :
    load schedule folder pattern =
      match found.mapM (readFound folder) with
      | .error error => ⟨.error error, []⟩
      | .ok [] => ⟨.error (.noFile pattern), []⟩
      | .ok files => ⟨(samplesOf schedule files).result.map ofRows, (samplesOf schedule files).log⟩ := by
  obtain ⟨parsed, isParsed, rfl⟩ := matched
  unfold load readAll
  rw [isParsed]
  dsimp only
  cases (folder.walk parsed).mapM (readFound folder) with
  | error error => rfl
  | ok files =>
      cases files with
      | nil => rfl
      | cons file files => rfl

theorem load_of_reads (matched : folder.Matches pattern found) (some : found ≠ []) {files : List RecordFile}
    (read : List.Forall₂ (Reads folder) found files) :
    load schedule folder pattern =
      ⟨(samplesOf schedule files).result.map ofRows, (samplesOf schedule files).log⟩ := by
  have opened := mapM_eq_ok_iff.mpr (read.imp fun _ _ reads => readFound_eq_ok_iff.mpr reads)
  rw [load_of_matches matched, opened]
  cases read with
  | nil => exact absurd rfl some
  | cons first others => rfl

/-- Loading ends in one of these ways, if the schedule blames such rows only. -/
theorem outcome_of_load (matched : folder.Matches pattern found)
    (blamed : ∀ file reason, file.samples schedule = .error reason →
      ∃ record error, blames file record error ∧ reason = .badRow file.path record.line error) :
    LoadOutcome blames folder pattern found (load schedule folder pattern) := by
  by_cases some : found = []
  · subst some
    rw [load_of_matches matched, List.mapM_nil]
    exact .noFile
  · rcases all_ok_or_first_error (readFound folder) found with
      ⟨files, opened⟩ | ⟨before, entry, after, error, rfl, ⟨files, opened⟩, failed⟩
    · have read := opened.imp fun _ _ opened => readFound_eq_ok_iff.mp opened
      rw [load_of_reads matched some read]
      rcases all_good_or_bad schedule files with
        ⟨blocks, good⟩ | ⟨before, file, after, blocks, reason, rfl, good, failed⟩
      · rw [samplesOf_good good]
        exact .loaded some read good
      · obtain ⟨record, error, bad, rfl⟩ := blamed file reason failed
        rw [samplesOf_bad good failed]
        exact .badRow read good bad
    · rw [load_of_matches matched, mapM_of_first_error (exists_of_forall₂ opened) failed]
      refine .unreadable (fun other member => ?_) (readFound_eq_error_iff.mp failed)
      obtain ⟨file, opened⟩ := exists_of_forall₂ opened other member
      exact ⟨file, readFound_eq_ok_iff.mp opened⟩

end Samples

end QuicksortStudy
