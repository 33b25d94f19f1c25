import Mathlib
import QuicksortStudy.CommandLine.Plotting
import QuicksortStudy.Log.Filter
import QuicksortStudy.Proofs.Chart.Pictures
import QuicksortStudy.Proofs.Results.Loaded
import QuicksortStudy.Proofs.Samples.Blocks

/-!
# Runs of the plotting command

A run draws from good input or not at all.  What is loaded is finite, so once there are rows and blocks only the library
can stop the run, and if it can draw all pictures they are there in the end, with the numbers of rows and of the points
of both curves on the way.
-/

namespace QuicksortStudy

open Gallery

/-- Without a setting, a line is shown from the level of information on. -/
theorem LogFilter.shows_standard (line : LogLine) :
    LogFilter.standard.shows line = decide (line.level.rank ≤ Level.info.rank) := Bool.and_true _

namespace PlottingOptions

variable {library : DrawingLibrary} {schedule : Schedule} {o : PlottingOptions} {folder : Folder} {samples : Samples}

/-! ## Stages of a run -/

theorem run_of_error {error : LoadError} (failed : (Samples.load schedule folder o.input).result = .error error) :
    o.run library schedule folder = ⟨.error (.load error), folder, (Samples.load schedule folder o.input).log⟩ := by
  unfold run
  dsimp only
  rw [failed]

theorem run_of_zero (loaded : (Samples.load schedule folder o.input).result = .ok samples) (zero : o.rowsPerSize = 0) :
    o.run library schedule folder = ⟨.error (.blocks .zeroSize), folder,
      (Samples.load schedule folder o.input).log ++ [o.parsed samples.length]⟩ := by
  unfold run
  dsimp only
  rw [loaded]
  dsimp only
  rw [zero]
  rfl

/-- The curves of samples in blocks of some size. -/
def curvesOf (samples : Samples) (blockSize : Nat) : Envelopes :=
  ⟨.ofRows (Blocks.firsts blockSize samples.rows), .ofRows (Blocks.lasts blockSize samples.rows)⟩

/-- What is logged before anything is drawn. -/
def preface (o : PlottingOptions) (schedule : Schedule) (folder : Folder) (samples : Samples) : List LogLine :=
  (Samples.load schedule folder o.input).log ++ [o.parsed samples.length] ++
    partialBlock samples.length o.rowsPerSize (samples.length % o.rowsPerSize) ++
    [curves (curvesOf samples o.rowsPerSize)]

/-- With rows in blocks, the run is the drawing of all images. -/
theorem run_of_positive (loaded : (Samples.load schedule folder o.input).result = .ok samples)
    (positive : o.rowsPerSize ≠ 0) {drawn : Drawing (Except GalleryError (List String))}
    (draws : Gallery.draw library o.profile samples (curvesOf samples o.rowsPerSize) o.rowsPerSize o.directory folder =
      drawn) :
    o.run library schedule folder =
      ⟨(drawn.result.mapError .gallery).map fun paths => toString paths.length ++ " images done", drawn.folder,
        o.preface schedule folder samples ++ drawn.log⟩ := by
  have sampled : samples.envelopes o.rowsPerSize = .ok (curvesOf samples o.rowsPerSize) := if_neg positive
  have divided : remainder? samples.length o.rowsPerSize = some (samples.length % o.rowsPerSize) := if_neg positive
  unfold run
  dsimp only
  rw [loaded]
  dsimp only
  rw [sampled]
  dsimp only
  rw [divided]
  dsimp only
  rw [draws]
  cases drawn.result with
  | error error => rfl
  | ok paths => rfl

/-! ## What is logged -/

/-- The warnings of a log. -/
def warnings (log : List LogLine) : List LogLine := log.filter fun line => decide (line.level = .warn)

/-- What a run over some rows shows without a setting, up to the images. -/
def told (o : PlottingOptions) (rows : Nat) : List String :=
  ["INFO parsed " ++ toString rows ++ " rows from " ++ o.input] ++
    (if rows % o.rowsPerSize = 0 then []
      else ["WARN " ++ toString rows ++ " rows is not a multiple of the block size " ++ toString o.rowsPerSize ++
        ", the last block is partial"]) ++
    ["INFO envelopes: " ++ toString (rows ⌈/⌉ o.rowsPerSize) ++ " worst case, " ++
      toString (rows / o.rowsPerSize) ++ " best case points"]

theorem text_parsed (o : PlottingOptions) (rows : Nat) :
    (o.parsed rows).text = "INFO parsed " ++ toString rows ++ " rows from " ++ o.input := by
  have level : "INFO parsed " = "INFO" ++ " " ++ "parsed " := rfl
  rw [level]
  unfold LogLine.text parsed Level.name
  simp only [String.append_assoc]

theorem text_partialBlock (rows blockSize remainder : Nat) :
    (partialBlock rows blockSize remainder).map LogLine.text =
      if remainder = 0 then []
      else ["WARN " ++ toString rows ++ " rows is not a multiple of the block size " ++ toString blockSize ++
        ", the last block is partial"] := by
  have level : "WARN " = "WARN" ++ " " := rfl
  rw [level]
  unfold partialBlock
  split
  · rfl
  · rw [List.map_singleton]
    unfold LogLine.text Level.name
    simp only [String.append_assoc]

theorem text_curves (aligned : samples.Aligned) {blockSize : Nat} (positive : blockSize ≠ 0) :
    (curves (curvesOf samples blockSize)).text = "INFO envelopes: " ++ toString (samples.length ⌈/⌉ blockSize) ++
      " worst case, " ++ toString (samples.length / blockSize) ++ " best case points" := by
  have level : "INFO envelopes: " = "INFO" ++ " " ++ "envelopes: " := rfl
  have positive := Nat.pos_of_ne_zero positive
  have rows : samples.rows.length = samples.length := by
    rw [← Samples.length_ofRows, Samples.ofRows_rows aligned]
  have worst : (curvesOf samples blockSize).worst.length = samples.length ⌈/⌉ blockSize := by
    rw [curvesOf, Samples.length_ofRows, Blocks.length_firsts positive, rows, Nat.ceilDiv_eq_add_pred_div]
    rfl
  have best : (curvesOf samples blockSize).best.length = samples.length / blockSize := by
    rw [curvesOf, Samples.length_ofRows, Blocks.length_lasts positive, rows]
  rw [level]
  unfold LogLine.text curves Level.name
  rw [worst, best]
  simp only [String.append_assoc]

theorem text_wrote (path : String) : (wrote path).text = "INFO wrote " ++ path := by
  have level : "INFO wrote " = "INFO" ++ " " ++ "wrote " := rfl
  rw [level]
  unfold LogLine.text wrote Level.name
  simp only [String.append_assoc]

/-- What is meant for debugging is passed over. -/
theorem filter_debug {keep : LogLine → Bool} (drops : ∀ line, line.level = .debug → keep line = false)
    {log : List LogLine} (debug : ∀ line ∈ log, line.level = .debug) : log.filter keep = [] := by
  rw [List.filter_eq_nil_iff]
  intro line member
  rw [drops line (debug line member)]
  exact Bool.false_ne_true

/-- All that a run logs, as it is while all images are drawn. -/
def fullLog (o : PlottingOptions) (schedule : Schedule) (folder : Folder) (samples : Samples) : List LogLine :=
  o.preface schedule folder samples ++
    opening samples o.rowsPerSize :: logOf o.directory samples.rows o.profile.images

/-- Only five kinds of lines are more than debugging. -/
theorem filter_fullLog {keep : LogLine → Bool} (drops : ∀ line, line.level = .debug → keep line = false)
    (o : PlottingOptions) (schedule : Schedule) (folder : Folder) (samples : Samples) :
    (o.fullLog schedule folder samples).filter keep = [o.parsed samples.length].filter keep ++
      (partialBlock samples.length o.rowsPerSize (samples.length % o.rowsPerSize)).filter keep ++
      [curves (curvesOf samples o.rowsPerSize)].filter keep ++
      o.profile.images.flatMap fun image => [wrote (pathOf o.directory image)].filter keep := by
  have loaded := filter_debug drops (@Samples.level_of_mem_log_load schedule folder o.input)
  have opened : ¬keep (opening samples o.rowsPerSize) = true := by
    rw [drops _ rfl]
    exact Bool.false_ne_true
  have drawn : (logOf o.directory samples.rows o.profile.images).filter keep =
      o.profile.images.flatMap fun image => [wrote (pathOf o.directory image)].filter keep := by
    apply filter_logOf
    intro image _
    rw [List.filter_append, filter_debug drops fun line member => (level_of_mem_remarked line member).1,
      List.nil_append]
  unfold fullLog preface
  rw [List.filter_append, List.filter_append, List.filter_append, List.filter_append, loaded, List.nil_append,
    List.filter_cons_of_neg opened, drawn]

theorem warnings_fullLog (o : PlottingOptions) (schedule : Schedule) (folder : Folder) (samples : Samples) :
    (warnings (o.fullLog schedule folder samples)).length = if samples.length % o.rowsPerSize = 0 then 0 else 1 := by
  have drops (line : LogLine) (debug : line.level = .debug) : decide (line.level = .warn) = false := by
    rw [debug]
    rfl
  have parsed : [o.parsed samples.length].filter (fun line => decide (line.level = .warn)) = [] := rfl
  have sampled : [curves (curvesOf samples o.rowsPerSize)].filter (fun line => decide (line.level = .warn)) = [] := rfl
  have drawn : (o.profile.images.flatMap fun image =>
      [wrote (pathOf o.directory image)].filter fun line => decide (line.level = .warn)) = [] :=
    List.flatMap_eq_nil_iff.mpr fun image _ => rfl
  unfold warnings
  rw [filter_fullLog drops, parsed, sampled, drawn, List.nil_append, List.append_nil, List.append_nil]
  unfold partialBlock
  split
  · rfl
  · rfl

theorem shown_fullLog (o : PlottingOptions) (schedule : Schedule) (folder : Folder) (aligned : samples.Aligned)
    (positive : o.rowsPerSize ≠ 0) :
    ((o.fullLog schedule folder samples).filter LogFilter.standard.shows).map LogLine.text =
      o.told samples.length ++ o.profile.images.map fun image => "INFO wrote " ++ pathOf o.directory image := by
  have drops (line : LogLine) (debug : line.level = .debug) : LogFilter.standard.shows line = false := by
    rw [LogFilter.shows_standard, debug]
    rfl
  have warned : (partialBlock samples.length o.rowsPerSize (samples.length % o.rowsPerSize)).filter
      LogFilter.standard.shows =
        partialBlock samples.length o.rowsPerSize (samples.length % o.rowsPerSize) := by
    unfold partialBlock
    split
    · rfl
    · rfl
  have parsed : [o.parsed samples.length].filter LogFilter.standard.shows = [o.parsed samples.length] := rfl
  have sampled : [curves (curvesOf samples o.rowsPerSize)].filter LogFilter.standard.shows =
      [curves (curvesOf samples o.rowsPerSize)] := rfl
  have drawn : (o.profile.images.flatMap fun image =>
      [wrote (pathOf o.directory image)].filter LogFilter.standard.shows) =
        o.profile.images.map fun image => wrote (pathOf o.directory image) :=
    List.map_eq_flatMap.symm
  unfold told
  rw [filter_fullLog drops, parsed, warned, sampled, drawn, List.map_append, List.map_append, List.map_append,
    List.map_singleton, List.map_singleton, List.map_map, text_parsed, text_partialBlock, text_curves aligned positive]
  exact congrArg (_ ++ ·) (List.map_congr_left fun image _ => text_wrote _)

/-! ## Whole runs -/

theorem run_of_no_rows (loaded : (Samples.load schedule folder o.input).result = .ok samples)
    (positive : o.rowsPerSize ≠ 0) (none : samples.length = 0) :
    (o.run library schedule folder).folder = folder ∧
      ∃ path, (o.run library schedule folder).result = .error (.gallery (.chart path .noSamples)) := by
  have empty : samples.isEmpty = true := List.isEmpty_iff_length_eq_zero.mpr none
  have refused : Axes.ofSamples samples = .error .noSamples := if_pos empty
  obtain ⟨image, rest, -, drawn⟩ := @Gallery.draw_of_error library o.directory folder samples o.profile
    (curvesOf samples o.rowsPerSize) _ _ positive refused
  rw [run_of_positive loaded positive drawn]
  exact ⟨rfl, _, rfl⟩

theorem drawable_of_load (loaded : (Samples.load schedule folder o.input).result = .ok samples)
    (filled : samples.length ≠ 0) : Drawable samples.rows := by
  obtain ⟨aligned, finite⟩ := Samples.aligned_and_finite_of_load loaded
  refine ⟨fun none => filled ?_, finite⟩
  rw [← Samples.ofRows_rows aligned, none]
  rfl

/-- What a run shows of some samples. -/
def subject (o : PlottingOptions) (samples : Samples) : Subject :=
  subjectOf o.profile samples (curvesOf samples o.rowsPerSize) o.rowsPerSize

/-- Once there are rows and blocks, only the library can fail. -/
theorem backend_of_run (loaded : (Samples.load schedule folder o.input).result = .ok samples)
    (positive : o.rowsPerSize ≠ 0) (filled : samples.length ≠ 0) {error : PlottingError}
    (failed : (o.run library schedule folder).result = .error error) :
    ∃ path fault, error = .gallery (.chart path (.backend fault)) := by
  have whole := Samples.ofRows_rows (Samples.aligned_and_finite_of_load loaded).1
  have drawable := drawable_of_load loaded filled
  rw [run_of_positive loaded positive rfl, Gallery.draw_of_positive positive] at failed
  dsimp only at failed
  cases result : (drawImages library (o.subject samples) o.directory o.profile.images folder).result with
  | ok paths =>
      unfold subject at result
      rw [result] at failed
      cases failed
  | error reason =>
      unfold subject at result
      rw [result] at failed
      cases failed
      obtain ⟨image, -, fault, rfl⟩ := backend_of_drawImages drawable whole.symm result
      exact ⟨_, fault, rfl⟩

/-- A run over rows in blocks, if all images can be drawn and written. -/
theorem run_of_ready (loaded : (Samples.load schedule folder o.input).result = .ok samples)
    (positive : o.rowsPerSize ≠ 0) (filled : samples.length ≠ 0)
    (ready : Ready library (o.subject samples) folder o.directory o.profile.images) :
    ∃ after, o.run library schedule folder = ⟨.ok "2 images done", after, o.fullLog schedule folder samples⟩ ∧
      Pictured library (o.subject samples) o.directory o.profile.images folder after := by
  have whole := Samples.ofRows_rows (Samples.aligned_and_finite_of_load loaded).1
  have drawable := drawable_of_load loaded filled
  obtain ⟨after, done, pictured⟩ :=
    drawImages_ready drawable whole.symm o.profile.isFileName o.profile.nodup_files ready
  have two : toString (o.profile.images.map (pathOf o.directory)).length ++ " images done" = "2 images done" := by
    rw [List.length_map]
    cases o.profile with
    | editDistance => rfl
    | swaps => rfl
  refine ⟨after, ?_, pictured⟩
  unfold subject at done
  rw [run_of_positive loaded positive rfl, Gallery.draw_of_positive positive, done]
  exact congrArg (fun summary => (⟨.ok summary, after, o.fullLog schedule folder samples⟩ : Report PlottingError)) two

/-- The reasons to fail. -/
theorem error_of_run {error : PlottingError} (failed : (o.run library schedule folder).result = .error error) :
    (∃ reason, error = .load reason) ∨ error = .blocks .zeroSize ∨
      ∃ path reason, error = .gallery (.chart path reason) ∧ reason ≠ .notFinite := by
  cases loaded : (Samples.load schedule folder o.input).result with
  | error reason =>
      rw [run_of_error loaded] at failed
      cases failed
      exact .inl ⟨reason, rfl⟩
  | ok samples =>
      by_cases positive : o.rowsPerSize = 0
      · rw [run_of_zero loaded positive] at failed
        cases failed
        exact .inr (.inl rfl)
      · by_cases filled : samples.length = 0
        · obtain ⟨-, path, refused⟩ := run_of_no_rows loaded positive filled
          cases failed.symm.trans refused
          exact .inr (.inr ⟨path, _, rfl, nofun⟩)
        · obtain ⟨path, fault, rfl⟩ := backend_of_run loaded positive filled failed
          exact .inr (.inr ⟨path, _, rfl, nofun⟩)

/-- A run fails without any change when nothing can be loaded, when there are no blocks, and when there are no rows,
whatever the library does.  In every other case only the library can fail, and if it can draw all images and they may be
written, they are all there. -/
theorem run_all_or_nothing {report : Report PlottingError} (runs : o.run library schedule folder = report) :
    (∀ error, (Samples.load schedule folder o.input).result = .error error →
      report.result = .error (.load error) ∧ report.folder = folder) ∧
    (∀ samples, (Samples.load schedule folder o.input).result = .ok samples →
      (o.rowsPerSize = 0 → report.result = .error (.blocks .zeroSize) ∧ report.folder = folder) ∧
      (o.rowsPerSize ≠ 0 → samples.length = 0 → report.folder = folder ∧
        ∃ path, report.result = .error (.gallery (.chart path .noSamples))) ∧
      (o.rowsPerSize ≠ 0 → samples.length ≠ 0 →
        (∀ error, report.result = .error error → ∃ path fault, error = .gallery (.chart path (.backend fault))) ∧
        (Ready library (o.subject samples) folder o.directory o.profile.images →
          report.result = .ok "2 images done" ∧
          Pictured library (o.subject samples) o.directory o.profile.images folder report.folder ∧
          (warnings report.log).length = (if samples.length % o.rowsPerSize = 0 then 0 else 1) ∧
          (report.log.filter LogFilter.standard.shows).map LogLine.text = o.told samples.length ++
            o.profile.images.map fun image => "INFO wrote " ++ pathOf o.directory image))) ∧
    (∀ path, report.result ≠ .error (.gallery (.chart path .notFinite))) ∧
    report.result ≠ .error .remainderByZero := by
  subst runs
  refine ⟨fun error failed => ?_, fun samples loaded => ⟨fun zero => ?_, fun positive none => ?_,
    fun positive filled => ⟨fun error failed => ?_, fun ready => ?_⟩⟩, fun path failed => ?_, fun failed => ?_⟩
  · rw [run_of_error failed]
    exact ⟨rfl, rfl⟩
  · rw [run_of_zero loaded zero]
    exact ⟨rfl, rfl⟩
  · exact run_of_no_rows loaded positive none
  · exact backend_of_run loaded positive filled failed
  · obtain ⟨after, done, pictured⟩ := run_of_ready loaded positive filled ready
    rw [done]
    exact ⟨rfl, pictured, warnings_fullLog o schedule folder samples,
      shown_fullLog o schedule folder (Samples.aligned_and_finite_of_load loaded).1 positive⟩
  · rcases error_of_run failed with ⟨reason, ⟨⟩⟩ | ⟨⟨⟩⟩ | ⟨path, reason, same, other⟩
    cases same
    exact other rfl
  · rcases error_of_run failed with ⟨reason, ⟨⟩⟩ | ⟨⟨⟩⟩ | ⟨path, reason, ⟨⟩, -⟩

/-- Two rows are to be drawn in blocks of four. -/
def looseOptions : PlottingOptions := ⟨"rows.csv", .swaps, some 4, "."⟩

def looseSamples : Samples := ⟨[1, -1], [2.5, 0], [300, 0.5]⟩

theorem load_looseFolder : (Samples.load .inOrder Samples.looseFolder "rows.csv").result = .ok looseSamples := by
  have agrees := (@Samples.loads_of_holds .inOrder _ _ _ _ Samples.holds_looseFolder).agrees
  have rows : ((Layout.table (Layout.body Samples.looseText.toList)).mapM Sample.ofWords?).map Samples.ofRows =
      some looseSamples := by decide +kernel
  rw [rows] at agrees
  cases result : (Samples.load .inOrder Samples.looseFolder "rows.csv").result with
  | error error =>
      rw [result] at agrees
      cases agrees
  | ok samples =>
      rw [result] at agrees
      exact congrArg Except.ok (Option.some.inj agrees)

/-- Both images are there, with a warning about the only block. -/
theorem run_all_or_nothing_looseOptions :
    ∃ report, looseOptions.run captionLibrary .inOrder Samples.looseFolder = report ∧
      Ready captionLibrary (looseOptions.subject looseSamples) Samples.looseFolder "." Profile.swaps.images ∧
      report.result = .ok "2 images done" ∧ (warnings report.log).length = 1 := by
  have writable : ∀ image ∈ Profile.swaps.images,
      ∃ there, Samples.looseFolder.writable (pathOf "." image) = .ok there := by
    intro image member
    rcases List.mem_pair.mp member with rfl | rfl
    · exact ⟨["work", "execution_time_vs_no_swaps_and_array_size_3d.png"], by decide +kernel⟩
    · exact ⟨["work", "execution_time_vs_no_swaps.png"], by decide +kernel⟩
  have ready : Ready captionLibrary (looseOptions.subject looseSamples) Samples.looseFolder "." Profile.swaps.images :=
    ⟨writable, fun image _ => draws_captionLibrary _ _ image⟩
  obtain ⟨-, -, drawn⟩ :=
    (@run_all_or_nothing captionLibrary .inOrder looseOptions Samples.looseFolder _ rfl).2.1 _ load_looseFolder
  obtain ⟨result, -, warned, -⟩ := (drawn (by decide) (by decide)).2 ready
  exact ⟨_, rfl, ready, result, warned⟩

end PlottingOptions

end QuicksortStudy
