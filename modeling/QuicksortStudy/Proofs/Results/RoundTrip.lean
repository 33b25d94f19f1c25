import Mathlib
import QuicksortStudy.Proofs.Folder.Written
import QuicksortStudy.Proofs.Results.Rows

/-!
# Results that were written are loaded again

Loading what was written gives back the samples, bit for bit, as long as all of them are finite.  Otherwise it names a
row with a value that is not, and of this row the first such value.  This holds for every path that is no pattern of
others, except those that the walk along a pattern cannot take: an empty name directly after the working directory.
-/

namespace QuicksortStudy

theorem Samples.held_of_write {samples : Samples} {path : String} {folder written : Folder}
    (wrote : samples.write path folder = .ok written) :
    path.toList.getLast? ≠ some '/' ∧ ∃ there, written.locate path = .ok there ∧
      written.held? there = some (.file samples.bytes) := by
  unfold write at wrote
  cases stored : folder.write path samples.bytes with
  | error error =>
      rw [stored] at wrote
      cases wrote
  | ok folder' =>
      rw [stored] at wrote
      cases wrote
      exact Folder.locate_written stored

namespace RecordFile

theorem read_of_held {folder : Folder} {path : String} {there : Location} (samples : Samples)
    (located : folder.locate path = .ok there) (held : folder.held? there = some (.file samples.bytes)) :
    read folder path = .ok (ofRows path samples.rows) := by
  have content : folder.read path = .ok samples.bytes := by
    unfold Folder.read
    rw [located]
    dsimp only [bind, Except.bind]
    rw [held]
  unfold read
  rw [content]
  dsimp only
  rw [samples.readAll_bytes]
  rfl

variable {samples : Samples} {path pattern : String} {folder written : Folder} {parsed : PathPattern}
    {place : Place}

/-- A pattern whose only place is where samples were written gives one file with their records. -/
theorem readAll_only (wrote : samples.write path folder = .ok written)
    (isParsed : PathPattern.parse pattern = .ok parsed)
    (only : written.walk parsed = [.ok place]) (leads : written.locate place.path = written.locate path) :
    readAll written pattern = .ok [ofRows place.path samples.rows] := by
  obtain ⟨-, there, located, held⟩ := Samples.held_of_write wrote
  unfold readAll
  rw [isParsed]
  dsimp only
  rw [only, List.mapM_cons, readFound, read_of_held samples (leads.trans located) held]
  rfl

/-- The path of a file that was written matches that file only, if the walk along it can be taken. -/
theorem only_of_written (unmarked : Unmarked path.toList) (wrote : samples.write path folder = .ok written)
    (free : Folder.emptyAfterHere (Split.text '/' path) = false) :
    ∃ parsed place, PathPattern.parse path = .ok parsed ∧ written.walk parsed = [.ok place] ∧
      written.locate place.path = written.locate path := by
  obtain ⟨ends, there, located, held⟩ := Samples.held_of_write wrote
  obtain ⟨parsed, isParsed, matched⟩ := Folder.walk_unmarked unmarked ends located
      (Option.isSome_of_eq_some held)
  rw [free, if_neg Bool.false_ne_true] at matched
  obtain ⟨place, only, leads⟩ := matched
  exact ⟨parsed, place, isParsed, only, leads.trans located.symm⟩

end RecordFile

namespace Samples

variable {schedule : Schedule} {samples : Samples} {path pattern : String} {folder written : Folder}

theorem load_of_emptyAfterHere (unmarked : Unmarked path.toList)
    (wrote : samples.write path folder = .ok written)
    (blocked : Folder.emptyAfterHere (Split.text '/' path) = true) :
    (load schedule written path).result = .error (.noFile path) := by
  obtain ⟨ends, there, located, held⟩ := held_of_write wrote
  obtain ⟨parsed, isParsed, none⟩ := Folder.walk_unmarked unmarked ends located
      (Option.isSome_of_eq_some held)
  rw [if_pos blocked] at none
  unfold load RecordFile.readAll
  rw [isParsed]
  dsimp only
  rw [none]
  rfl

theorem load_of_only (wrote : samples.write path folder = .ok written) {parsed : PathPattern} {place : Place}
    (isParsed : PathPattern.parse pattern = .ok parsed) (only : written.walk parsed = [.ok place])
    (leads : written.locate place.path = written.locate path) : (load schedule written pattern).result =
      ((RecordFile.ofRows place.path samples.rows).samples schedule).map ofRows := by
  unfold load
  rw [RecordFile.readAll_only wrote isParsed only leads]
  exact congrArg (Except.map ofRows) (RecordFile.samplesOf_single _ _)

/-- Finite samples are loaded again by every pattern that matches nothing but their file. -/
theorem load_only (aligned : samples.Aligned) (finite : ∀ row ∈ samples.rows, row.Finite)
    (wrote : samples.write path folder = .ok written) {parsed : PathPattern} {place : Place}
    (isParsed : PathPattern.parse pattern = .ok parsed) (only : written.walk parsed = [.ok place])
    (leads : written.locate place.path = written.locate path) :
    (load schedule written pattern).result = .ok samples := by
  rw [load_of_only wrote isParsed only leads, RecordFile.samples_eq_ok_iff.mpr (RecordFile.good_ofRows _ finite)]
  exact congrArg Except.ok (ofRows_rows aligned)

theorem load_of_finite (aligned : samples.Aligned) (finite : ∀ row ∈ samples.rows, row.Finite)
    (unmarked : Unmarked path.toList) (wrote : samples.write path folder = .ok written)
    (free : Folder.emptyAfterHere (Split.text '/' path) = false) :
    (load schedule written path).result = .ok samples := by
  obtain ⟨parsed, place, isParsed, only, leads⟩ := RecordFile.only_of_written unmarked wrote free
  exact load_only aligned finite wrote isParsed only leads

theorem load_of_not_finite (bad : ¬∀ row ∈ samples.rows, row.Finite) (unmarked : Unmarked path.toList)
    (wrote : samples.write path folder = .ok written)
    (free : Folder.emptyAfterHere (Split.text '/' path) = false) :
    ∃ shown row position column, written.locate shown = written.locate path ∧
      NotFiniteAt samples.rows row position column ∧
      (schedule = .inOrder → ∀ other ∈ samples.rows.take position, other.Finite) ∧
      (load schedule written path).result =
        .error (.badRow shown (position + 1) (.notFinite column (row.value column))) := by
  obtain ⟨parsed, place, isParsed, only, leads⟩ := RecordFile.only_of_written unmarked wrote free
  rw [load_of_only wrote isParsed only leads]
  cases looked : (RecordFile.ofRows place.path samples.rows).samples schedule with
  | ok rows => exact absurd (RecordFile.finite_of_good (RecordFile.samples_eq_ok_iff.mp looked)) bad
  | error reason =>
      obtain ⟨before, record, error, blamed, rfl, good⟩ := RecordFile.badBehind_of_samples looked
      obtain ⟨row, column, stands, line, rfl⟩ := RecordFile.notFiniteAt_of_badBehind blamed
      refine ⟨place.path, row, before.length, column, leads, stands, fun inOrder => ?_, ?_⟩
      · exact RecordFile.finite_before blamed (good inOrder)
      · rw [line]
        rfl

/-- Samples that were written are loaded again as they were, unless a value is not finite: then a row with such a value
is reported with its line, and the first such value of the row.  It is the first such row if the rows are looked at one
after the other.  The paths that match nothing are told apart by their names. -/
theorem load_written (aligned : samples.Aligned) (unmarked : Unmarked path.toList)
    (wrote : samples.write path folder = .ok written) :
    (Folder.emptyAfterHere (Split.text '/' path) = true →
      (load schedule written path).result = .error (.noFile path)) ∧
    (Folder.emptyAfterHere (Split.text '/' path) = false →
      ((∀ row ∈ samples.rows, row.Finite) → (load schedule written path).result = .ok samples) ∧
      ((¬∀ row ∈ samples.rows, row.Finite) →
        ∃ shown row position column, written.locate shown = written.locate path ∧
          NotFiniteAt samples.rows row position column ∧
          (schedule = .inOrder → ∀ other ∈ samples.rows.take position, other.Finite) ∧
          (load schedule written path).result =
            .error (.badRow shown (position + 1) (.notFinite column (row.value column))))) := by
  constructor
  · intro blocked
    exact load_of_emptyAfterHere unmarked wrote blocked
  · intro free
    exact ⟨fun finite => load_of_finite aligned finite unmarked wrote free,
      fun bad => load_of_not_finite bad unmarked wrote free⟩

/-- Values at the edges of what is finite. -/
def edges : Samples := ⟨[1.0, -0.0], [5e-324, 1.7976931348623157e308], [0.1, 2.0]⟩

theorem aligned_edges : edges.Aligned := by
  unfold Aligned
  decide +kernel

theorem finite_edges : ∀ row ∈ edges.rows, row.Finite := by
  intro row member column
  cases column <;> revert row <;> decide +kernel

/-- A folder with a single directory in it. -/
def dataFolder : Folder := ⟨["work"], [], [(["work", "data"], .directory)]⟩

theorem write_of_writable {samples : Samples} {path : String} {folder : Folder} {there : Location}
    (found : folder.writable path = .ok there) :
    samples.write path folder = .ok (folder.put there (.file samples.bytes)) := by
  unfold write Folder.write
  rw [found]
  rfl

theorem load_written_edges :
    edges.Aligned ∧ Unmarked "./data/../data//run.csv".toList ∧
      edges.write "./data/../data//run.csv" dataFolder =
        .ok (dataFolder.put ["work", "data", "run.csv"] (.file edges.bytes)) ∧
      (load .inOrder (dataFolder.put ["work", "data", "run.csv"] (.file edges.bytes))
        "./data/../data//run.csv").result = .ok edges := by
  have unmarked : Unmarked "./data/../data//run.csv".toList := by simp [Unmarked]
  have wrote : edges.write "./data/../data//run.csv" dataFolder =
      .ok (dataFolder.put ["work", "data", "run.csv"] (.file edges.bytes)) :=
    write_of_writable (by decide +kernel)
  have free : Folder.emptyAfterHere (Split.text '/' "./data/../data//run.csv") = false := by decide +kernel
  have loaded := (@load_written .inOrder _ _ _ _ aligned_edges unmarked wrote).2 free
  exact ⟨aligned_edges, unmarked, wrote, loaded.1 finite_edges⟩

/-- An empty name directly after the working directory: the file is written, but the path matches nothing. -/
theorem not_load_written_after_here :
    edges.Aligned ∧ (∀ row ∈ edges.rows, row.Finite) ∧ Unmarked ".//run.csv".toList ∧
      edges.write ".//run.csv" dataFolder = .ok (dataFolder.put ["work", "run.csv"] (.file edges.bytes)) ∧
      ∀ schedule, (load schedule (dataFolder.put ["work", "run.csv"] (.file edges.bytes)) ".//run.csv").result =
        .error (.noFile ".//run.csv") := by
  have unmarked : Unmarked ".//run.csv".toList := by simp [Unmarked]
  have wrote : edges.write ".//run.csv" dataFolder =
      .ok (dataFolder.put ["work", "run.csv"] (.file edges.bytes)) :=
    write_of_writable (by decide +kernel)
  have blocked : Folder.emptyAfterHere (Split.text '/' ".//run.csv") = true := by decide +kernel
  exact ⟨aligned_edges, finite_edges, unmarked, wrote, fun _ => load_of_emptyAfterHere unmarked wrote blocked⟩

end Samples

end QuicksortStudy
