import Mathlib
import QuicksortStudy.Proofs.Results.Accepted

/-!
# What is known of loaded samples

Whatever the files hold, samples that were loaded have columns of one length and finite values only, and
nothing more urgent is logged than what is meant for debugging.
-/

namespace QuicksortStudy

namespace RecordFile

theorem finite_of_samples {schedule : Schedule} {file : RecordFile} {rows : List Sample}
    (done : file.samples schedule = .ok rows) :
    ∀ row ∈ rows, row.Finite := by
  intro row member
  obtain ⟨record, given⟩ := exists_of_forall₂ (samples_eq_ok_iff.mp done).flip row member
  exact Sample.finite_of_ofFields given

theorem finite_of_samplesOf {schedule : Schedule} {files : List RecordFile} {rows : List Sample}
    (done : (samplesOf schedule files).result = .ok rows) : ∀ row ∈ rows, row.Finite := by
  induction files generalizing rows with
  | nil =>
      cases done
      exact List.forall_mem_nil _
  | cons file rest ih =>
      unfold samplesOf at done
      split at done
      · cases done
      · next first good =>
          obtain ⟨later, others, rfl⟩ := exists_of_map done
          exact List.forall_mem_append.mpr ⟨finite_of_samples good, ih others⟩

theorem level_of_mem_log {schedule : Schedule} {files : List RecordFile} :
    ∀ line ∈ (samplesOf schedule files).log, line.level = .debug := by
  induction files with
  | nil => exact List.forall_mem_nil _
  | cons file rest ih =>
      unfold samplesOf
      split
      · exact List.forall_mem_nil _
      · exact List.forall_mem_cons.mpr ⟨rfl, ih⟩

end RecordFile

namespace Samples

variable {schedule : Schedule} {folder : Folder} {pattern : String}

/-- Loaded samples are in order, column by column and value by value. -/
theorem aligned_and_finite_of_load {samples : Samples} (loaded : (load schedule folder pattern).result = .ok samples) :
    samples.Aligned ∧ ∀ row ∈ samples.rows, row.Finite := by
  unfold load at loaded
  split at loaded
  · cases loaded
  · next files read =>
      obtain ⟨rows, done, rfl⟩ := exists_of_map loaded
      rw [rows_ofRows]
      exact ⟨aligned_ofRows rows, RecordFile.finite_of_samplesOf done⟩

theorem level_of_mem_log_load : ∀ line ∈ (load schedule folder pattern).log, line.level = .debug := by
  unfold load
  split
  · exact List.forall_mem_nil _
  · exact RecordFile.level_of_mem_log

end Samples

end QuicksortStudy
