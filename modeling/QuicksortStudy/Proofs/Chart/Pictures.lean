import Mathlib
import QuicksortStudy.Chart.Gallery
import QuicksortStudy.Proofs.Chart.Checks
import QuicksortStudy.Proofs.Folder.Siblings
import QuicksortStudy.Proofs.Traversal

/-!
# All pictures or none

Bad samples are found out before the first picture, whatever the library does, and then nothing is drawn.  Samples that
pass the checks of the first picture pass those of all others, so that only the library can keep a picture from being
there.  If it can draw each picture and each path may be written at, all pictures are there in the end.
-/

namespace QuicksortStudy

open Folder

/-- A library draws a sheet and saves the image wherever a file may be written for the path.  Nothing else changes. -/
def DrawingLibrary.Saves (library : DrawingLibrary) (sheet : Sheet) (path : String) (image : List UInt8) : Prop :=
  ∀ folder there, folder.writable path = .ok there →
    library.render sheet path folder = (.ok (), folder.put there (.file image))

/-! ## Drawing a picture -/

namespace Drawing

variable {library : DrawingLibrary} {subject : Subject} {rows : List Sample} {picture : Picture} {path : String}
  {folder : Folder}

theorem draw_of_error {error : ChartError} (bad : Axes.ofSamples subject.samples = .error error) :
    draw library picture path subject folder = ⟨.error error, folder, []⟩ := by
  unfold draw
  rw [bad]

theorem draw_of_saves {axes : Axes} {image : List UInt8} {there : Location}
    (checked : Axes.ofSamples subject.samples = .ok axes)
    (saves : library.Saves (.ofPicture library picture subject axes) path image)
    (found : folder.writable path = .ok there) : draw library picture path subject folder =
      ⟨.ok (), folder.put there (.file image), remarks picture subject.samples⟩ := by
  unfold draw
  rw [checked]
  dsimp only
  rw [saves folder there found]
  rfl

/-- Good samples are refused only by the library. -/
theorem backend_of_drawable (drawable : Drawable rows) (whole : subject.samples = .ofRows rows) {error : ChartError}
    (failed : (draw library picture path subject folder).result = .error error) : ∃ fault, error = .backend fault := by
  obtain ⟨axes, checked⟩ := Axes.exists_ofSamples drawable
  unfold draw at failed
  rw [whole, checked] at failed
  dsimp only at failed
  cases drawn : (library.render (.ofPicture library picture subject axes) path folder).1 with
  | ok done =>
      rw [drawn] at failed
      cases failed
  | error fault =>
      rw [drawn] at failed
      cases failed
      exact ⟨fault, rfl⟩

end Drawing

/-! ## The images of a profile -/

namespace Profile

theorem isFileName (profile : Profile) : ∀ image ∈ profile.images, IsFileName image.file := by
  cases profile with
  | editDistance => decide +kernel
  | swaps => decide +kernel

theorem nodup_files (profile : Profile) : (profile.images.map Image.file).Nodup := by
  cases profile with
  | editDistance => decide
  | swaps => decide

/-- The first image shows all samples. -/
theorem exists_surface (profile : Profile) : ∃ file camera rest, profile.images = ⟨file, .surface camera⟩ :: rest := by
  cases profile with
  | editDistance => exact ⟨_, _, _, rfl⟩
  | swaps => exact ⟨_, _, _, rfl⟩

end Profile

/-! ## Drawing some images -/

namespace Gallery

variable {library : DrawingLibrary} {subject : Subject} {rows : List Sample} {directory : String} {folder : Folder}

/-- The path of an image. -/
def pathOf (directory : String) (image : Image) : String := joinPath directory image.file

/-- The library draws an image and saves it with some content, once the checks have given it axes. -/
def Draws (library : DrawingLibrary) (subject : Subject) (directory : String) (image : Image)
    (content : List UInt8) : Prop :=
  ∀ axes, Axes.ofSamples (shown image.picture subject).samples = .ok axes →
    library.Saves (.ofPicture library image.picture (shown image.picture subject) axes) (pathOf directory image) content

/-- Each of some images can be drawn, and may be written in a folder as it is. -/
structure Ready (library : DrawingLibrary) (subject : Subject) (folder : Folder) (directory : String)
    (images : List Image) : Prop where
  writable : ∀ image ∈ images, ∃ there, folder.writable (pathOf directory image) = .ok there
  draws : ∀ image ∈ images, ∃ content, Draws library subject directory image content

/-- Some images are saved with what the library makes of them, and nothing else has changed. -/
structure Pictured (library : DrawingLibrary) (subject : Subject) (directory : String) (images : List Image)
    (before after : Folder) : Prop where
  written : ∀ image ∈ images, ∃ content, Draws library subject directory image content ∧
    after.read (pathOf directory image) = .ok content
  others : ∀ location, (∀ image ∈ images, before.locate (pathOf directory image) ≠ .ok location) →
    after.held? location = before.held? location
  ways : ∀ path there, before.locate path = .ok there → after.locate path = .ok there

/-- What is logged about some images. -/
def logOf (directory : String) (rows : List Sample) (images : List Image) : List LogLine :=
  images.flatMap fun image => remarked image.picture rows ++ [wrote (pathOf directory image)]

theorem logOf_cons (directory : String) (rows : List Sample) (image : Image) (rest : List Image) :
    logOf directory rows (image :: rest) =
      remarked image.picture rows ++ wrote (pathOf directory image) :: logOf directory rows rest := by
  unfold logOf
  rw [List.flatMap_cons, List.append_assoc, List.singleton_append]

/-- A saved image stays while others are saved beside it. -/
theorem pictured_cons {image : Image} {rest : List Image} {there : Location} {content : List UInt8} {after : Folder}
    (files : ∀ other ∈ image :: rest, IsFileName other.file) (new : image.file ∉ rest.map Image.file)
    (found : folder.writable (pathOf directory image) = .ok there)
    (ready : ∀ other ∈ rest, ∃ there, folder.writable (pathOf directory other) = .ok there)
    (draws : Draws library subject directory image content)
    (pictured : Pictured library subject directory rest (folder.put there (.file content)) after) :
    Pictured library subject directory (image :: rest) folder after := by
  obtain ⟨located, free, -⟩ := writable_ok found
  obtain ⟨base, locations⟩ := exists_base folder directory
  have place := locations image.file there (files image (List.mem_cons_self ..)) located
  constructor
  · rw [List.forall_mem_cons]
    refine ⟨⟨content, draws, ?_⟩, pictured.written⟩
    refine read_of_held (pictured.ways _ _ (locate_put located free content)) ?_
    rw [pictured.others there, held?_put folder (isLasting_of_free free)]
    intro other member same
    obtain ⟨there', writable⟩ := ready other member
    have located' := (writable_ok writable).1
    have place' := locations other.file there' (files other (List.mem_cons_of_mem image member)) located'
    rw [locate_put located' free] at same
    have names : base ++ [other.file] = base ++ [image.file] := by
      rw [← place, ← place']
      exact Except.ok.inj same
    have name := List.singleton_injective (List.append_cancel_left names)
    exact new (name ▸ List.mem_map_of_mem member)
  · intro location elsewhere
    rw [List.forall_mem_cons] at elsewhere
    have apart : location ≠ there := by
      rintro rfl
      exact elsewhere.1 located
    rw [pictured.others location, held?_put_of_ne folder apart]
    intro other member same
    obtain ⟨there', writable⟩ := ready other member
    have located' := (writable_ok writable).1
    rw [locate_put located' free] at same
    exact elsewhere.2 other member (located'.trans same)
  · exact fun path there' way => pictured.ways path there' (locate_put way free _)

/-- Good samples are drawn in all images that can be drawn and written. -/
theorem drawImages_ready (drawable : Drawable rows) (whole : subject.samples = .ofRows rows) {images : List Image}
    (files : ∀ image ∈ images, IsFileName image.file) (distinct : (images.map Image.file).Nodup)
    (ready : Ready library subject folder directory images) :
    ∃ after, drawImages library subject directory images folder =
      ⟨.ok (images.map (pathOf directory)), after, logOf directory rows images⟩ ∧
      Pictured library subject directory images folder after := by
  induction images generalizing folder with
  | nil => exact ⟨folder, rfl, List.forall_mem_nil _, fun _ _ => rfl, fun _ _ way => way⟩
  | cons image rest ih =>
      obtain ⟨first, others⟩ := List.forall_mem_cons.mp files
      obtain ⟨new, distinct⟩ := List.nodup_cons.mp distinct
      obtain ⟨⟨there, found⟩, writable⟩ := List.forall_mem_cons.mp ready.writable
      obtain ⟨⟨content, draws⟩, drawsOthers⟩ := List.forall_mem_cons.mp ready.draws
      have free := (writable_ok found).2.1
      have stillReady : Ready library subject (folder.put there (.file content)) directory rest := by
        refine ⟨fun other member => ?_, drawsOthers⟩
        obtain ⟨there', writable⟩ := writable other member
        exact ⟨there', writable_put writable free _⟩
      obtain ⟨after, drawn, pictured⟩ := ih others distinct stillReady
      have shows := samples_shown image.picture whole
      obtain ⟨axes, checked⟩ := Axes.exists_ofSamples (drawable_shownRows drawable image.picture)
      rw [← shows] at checked
      have saved := Drawing.draw_of_saves checked (draws axes checked) found
      refine ⟨after, ?_, pictured_cons files new found writable draws pictured⟩
      unfold drawImages
      dsimp only
      unfold pathOf at saved
      rw [saved]
      dsimp only
      rw [drawn, shows, remarks_shownRows, logOf_cons]
      rfl

/-- Good samples are refused only by the library. -/
theorem backend_of_drawImages (drawable : Drawable rows) (whole : subject.samples = .ofRows rows) {images : List Image}
    {error : GalleryError} (failed : (drawImages library subject directory images folder).result = .error error) :
    ∃ image ∈ images, ∃ fault, error = .chart (pathOf directory image) (.backend fault) := by
  induction images generalizing folder with
  | nil => cases failed
  | cons image rest ih =>
      unfold drawImages at failed
      dsimp only at failed
      split at failed
      · next reason refused =>
          cases failed
          obtain ⟨fault, rfl⟩ := Drawing.backend_of_drawable (drawable_shownRows drawable image.picture)
            (samples_shown image.picture whole) refused
          exact ⟨image, List.mem_cons_self .., fault, rfl⟩
      · obtain ⟨other, member, fault, same⟩ := ih (error_of_map failed)
        exact ⟨other, List.mem_cons_of_mem image member, fault, same⟩

/-- The first image decides about bad samples. -/
theorem drawImages_of_error {image : Image} {error : ChartError}
    (bad : Axes.ofSamples (shown image.picture subject).samples = .error error) (rest : List Image) :
    drawImages library subject directory (image :: rest) folder =
      ⟨.error (.chart (pathOf directory image) error), folder, []⟩ := by
  unfold drawImages
  dsimp only
  rw [Drawing.draw_of_error bad]
  rfl

/-! ## Drawing all images of a profile -/

/-- What is logged before the images. -/
def opening (samples : Samples) (blockSize : Nat) : LogLine :=
  triangleCount (Mesh.ofRows blockSize samples.rows).length

/-- What the images of a profile show. -/
def subjectOf (profile : Profile) (samples : Samples) (envelopes : Envelopes) (blockSize : Nat) : Subject :=
  ⟨profile.sortednessLabel, samples, envelopes, (Mesh.ofRows blockSize samples.rows).map (.map Sample.point)⟩

/-- The ends of drawing all images, if each of them can be drawn and written. -/
inductive Outcome (library : DrawingLibrary) (profile : Profile) (samples : Samples) (envelopes : Envelopes)
    (blockSize : Nat) (directory : String) (folder : Folder) : Drawing (Except GalleryError (List String)) → Prop where
  /-- There are no blocks. -/
  | zeroSize (zero : blockSize = 0) :
      Outcome library profile samples envelopes blockSize directory folder ⟨.error (.blocks .zeroSize), folder, []⟩
  /-- There is nothing to show, and the first image says so. -/
  | noSamples {image : Image} {rest : List Image} (positive : blockSize ≠ 0) (images : profile.images = image :: rest)
      (none : samples.rows = []) :
      Outcome library profile samples envelopes blockSize directory folder
        ⟨.error (.chart (pathOf directory image) .noSamples), folder, [opening samples blockSize]⟩
  /-- A value is not finite, and the first image says so. -/
  | notFinite {image : Image} {rest : List Image} (positive : blockSize ≠ 0) (images : profile.images = image :: rest)
      (bad : ∃ row ∈ samples.rows, ¬row.Finite) :
      Outcome library profile samples envelopes blockSize directory folder
        ⟨.error (.chart (pathOf directory image) .notFinite), folder, [opening samples blockSize]⟩
  /-- All images are there. -/
  | drawn {after : Folder} (positive : blockSize ≠ 0) (drawable : Drawable samples.rows)
      (pictured :
        Pictured library (subjectOf profile samples envelopes blockSize) directory profile.images folder after) :
      Outcome library profile samples envelopes blockSize directory folder
        ⟨.ok (profile.images.map (pathOf directory)), after,
          opening samples blockSize :: logOf directory samples.rows profile.images⟩

variable {samples : Samples} {profile : Profile} {envelopes : Envelopes} {blockSize : Nat}

theorem draw_of_positive (positive : blockSize ≠ 0) :
    draw library profile samples envelopes blockSize directory folder =
      let drawn := drawImages library (subjectOf profile samples envelopes blockSize) directory profile.images folder
      { drawn with log := opening samples blockSize :: drawn.log } := by
  unfold draw Samples.surface
  rw [if_neg positive]
  dsimp only
  rw [List.length_map]
  rfl

/-- What the checks of the first image say ends the work before anything is drawn. -/
theorem draw_of_error {error : ChartError} (positive : blockSize ≠ 0) (bad : Axes.ofSamples samples = .error error) :
    ∃ image rest, profile.images = image :: rest ∧ draw library profile samples envelopes blockSize directory folder =
      ⟨.error (.chart (pathOf directory image) error), folder, [opening samples blockSize]⟩ := by
  obtain ⟨file, camera, rest, images⟩ := profile.exists_surface
  have refused := @drawImages_of_error library (subjectOf profile samples envelopes blockSize) directory folder
    ⟨file, .surface camera⟩ error bad rest
  refine ⟨_, rest, images, ?_⟩
  rw [draw_of_positive positive, images, refused]

/-- Whether the images can be drawn and written matters for good data only. -/
theorem outcome_of_ready (aligned : samples.Aligned) (ready : blockSize ≠ 0 → Drawable samples.rows →
      Ready library (subjectOf profile samples envelopes blockSize) folder directory profile.images) :
    Outcome library profile samples envelopes blockSize directory folder
      (draw library profile samples envelopes blockSize directory folder) := by
  by_cases positive : blockSize = 0
  · subst positive
    exact .zeroSize rfl
  · rcases Axes.ofSamples_cases aligned with ⟨none, refused⟩ | ⟨bad, refused⟩ | ⟨drawable, -⟩
    · obtain ⟨image, rest, images, failed⟩ := draw_of_error positive refused
      rw [failed]
      exact .noSamples positive images none
    · obtain ⟨image, rest, images, failed⟩ := draw_of_error positive refused
      rw [failed]
      exact .notFinite positive images bad
    · have whole := Samples.ofRows_rows aligned
      obtain ⟨after, done, pictured⟩ := drawImages_ready drawable whole.symm profile.isFileName profile.nodup_files
        (ready positive drawable)
      rw [draw_of_positive positive, done]
      exact .drawn positive drawable pictured

/-- Whatever the library does, the checks speak before anything is drawn or not at all. -/
theorem folder_of_check (aligned : samples.Aligned) {path : String} {error : ChartError}
    (failed : (draw library profile samples envelopes blockSize directory folder).result = .error (.chart path error))
    (checked : ∀ fault, error ≠ .backend fault) :
    (draw library profile samples envelopes blockSize directory folder).folder = folder ∧
      ∃ image rest, profile.images = image :: rest ∧ path = pathOf directory image := by
  by_cases positive : blockSize = 0
  · subst positive
    cases failed
  · cases refused : Axes.ofSamples samples with
    | error reason =>
        obtain ⟨image, rest, images, drawn⟩ := draw_of_error positive refused
        rw [drawn] at failed ⊢
        cases failed
        exact ⟨rfl, image, rest, images, rfl⟩
    | ok axes =>
        have drawable := Axes.drawable_of_ofSamples aligned refused
        rw [draw_of_positive positive] at failed
        obtain ⟨image, -, fault, same⟩ := backend_of_drawImages drawable (Samples.ofRows_rows aligned).symm failed
        cases same
        exact absurd rfl (checked fault)

/-- Lines about rows without any sortedness. -/
def isRemark (line : LogLine) : Bool := decide (line.source = .charts)

theorem level_of_mem_remarked {picture : Picture} {rows : List Sample} :
    ∀ line ∈ remarked picture rows, line.level = .debug ∧ isRemark line = true := by
  intro line member
  cases picture with
  | surface camera => cases member
  | scatter =>
      obtain ⟨row, -, rfl⟩ := List.mem_map.mp member
      exact ⟨rfl, rfl⟩

/-- A part of what is logged about some images, when it is known for each of them. -/
theorem filter_logOf {keep : LogLine → Bool} {part : Image → List LogLine} {images : List Image}
    (kept : ∀ image ∈ images, (remarked image.picture rows ++ [wrote (pathOf directory image)]).filter keep =
      part image) : (logOf directory rows images).filter keep = images.flatMap part := by
  unfold logOf
  rw [List.filter_flatMap]
  exact List.flatMap_congr kept

theorem filter_isRemark (directory : String) (rows : List Sample) (images : List Image) :
    (logOf directory rows images).filter isRemark = images.flatMap fun image => remarked image.picture rows := by
  apply filter_logOf
  intro image _
  have all : (remarked image.picture rows).filter isRemark = remarked image.picture rows :=
    List.filter_eq_self.mpr fun line member => (level_of_mem_remarked line member).2
  have none : [wrote (pathOf directory image)].filter isRemark = [] := rfl
  rw [List.filter_append, all, none, List.append_nil]

section Ends

variable {drawn : Drawing (Except GalleryError (List String))}
  (outcome : Outcome library profile samples envelopes blockSize directory folder drawn)

include outcome

/-- Nothing is drawn exactly for bad data. -/
theorem Outcome.fails_iff : (∃ error, drawn.result = .error error) ∧ drawn.folder = folder ↔
    blockSize = 0 ∨ samples.rows = [] ∨ ∃ row ∈ samples.rows, ¬row.Finite := by
  cases outcome with
  | zeroSize zero => exact ⟨fun _ => .inl zero, fun _ => ⟨⟨_, rfl⟩, rfl⟩⟩
  | noSamples positive images none => exact ⟨fun _ => .inr (.inl none), fun _ => ⟨⟨_, rfl⟩, rfl⟩⟩
  | notFinite positive images bad => exact ⟨fun _ => .inr (.inr bad), fun _ => ⟨⟨_, rfl⟩, rfl⟩⟩
  | drawn positive drawable pictured =>
      constructor
      · rintro ⟨⟨error, ⟨⟩⟩, -⟩
      · rintro (zero | none | ⟨row, member, bad⟩)
        · exact absurd zero positive
        · exact absurd none drawable.filled
        · exact absurd (drawable.finite row member) bad

theorem Outcome.of_drawable (positive : blockSize ≠ 0) (drawable : Drawable samples.rows) :
    drawn.result = .ok (profile.images.map (pathOf directory)) ∧
      Pictured library (subjectOf profile samples envelopes blockSize) directory profile.images folder drawn.folder ∧
      drawn.log.filter isRemark = profile.images.flatMap fun image => remarked image.picture samples.rows := by
  cases outcome with
  | zeroSize zero => exact absurd zero positive
  | noSamples positive images none => exact absurd none drawable.filled
  | notFinite positive images bad =>
      obtain ⟨row, member, bad⟩ := bad
      exact absurd (drawable.finite row member) bad
  | drawn positive drawable pictured =>
      have apart : ¬isRemark (opening samples blockSize) = true := Bool.false_ne_true
      refine ⟨rfl, pictured, ?_⟩
      rw [List.filter_cons_of_neg apart, filter_isRemark]

theorem Outcome.no_remark {error : GalleryError} (failed : drawn.result = .error error) :
    drawn.log.filter isRemark = [] := by
  cases outcome with
  | zeroSize zero => rfl
  | noSamples positive images none => rfl
  | notFinite positive images bad => rfl
  | drawn positive drawable pictured => cases failed

end Ends

/-- With bad data, what happens is the same whatever the library does. -/
theorem outcome_of_bad (aligned : samples.Aligned)
    (bad : blockSize = 0 ∨ samples.rows = [] ∨ ∃ row ∈ samples.rows, ¬row.Finite) :
    Outcome library profile samples envelopes blockSize directory folder
      (draw library profile samples envelopes blockSize directory folder) := by
  refine outcome_of_ready aligned fun positive drawable => ?_
  rcases bad with zero | none | ⟨row, member, notFinite⟩
  · exact absurd zero positive
  · exact absurd none drawable.filled
  · exact absurd (drawable.finite row member) notFinite

theorem message_chart (path : String) (error : ChartError) :
    (GalleryError.chart path error).message = "couldn't render " ++ path ++ (": " ++ error.message) :=
  String.append_assoc

/-- Drawing all images of a profile is all or nothing.  Whatever the library does, nothing is drawn for a block size of
zero, for no samples and for values that are not finite, in this order, and no check speaks after something was drawn.
If the library can draw all images and they may be written, they are all there for all other data, each with what the
library makes of its sheet; and the rows without any sortedness are told once all is well. -/
theorem draw_all_or_nothing (aligned : samples.Aligned) {drawn : Drawing (Except GalleryError (List String))}
    (draws : draw library profile samples envelopes blockSize directory folder = drawn) :
    (blockSize = 0 ∨ samples.rows = [] ∨ (∃ row ∈ samples.rows, ¬row.Finite) →
      (∃ error, drawn.result = .error error) ∧ drawn.folder = folder ∧
      Outcome library profile samples envelopes blockSize directory folder drawn) ∧
    (∀ path error, drawn.result = .error (.chart path error) → (∀ fault, error ≠ .backend fault) →
      drawn.folder = folder ∧ ∃ image rest, profile.images = image :: rest ∧ path = pathOf directory image) ∧
    (Ready library (subjectOf profile samples envelopes blockSize) folder directory profile.images →
      Outcome library profile samples envelopes blockSize directory folder drawn ∧
      ((∃ error, drawn.result = .error error) ∧ drawn.folder = folder ↔
        blockSize = 0 ∨ samples.rows = [] ∨ ∃ row ∈ samples.rows, ¬row.Finite) ∧
      (blockSize ≠ 0 → Drawable samples.rows →
        drawn.result = .ok (profile.images.map (pathOf directory)) ∧
        Pictured library (subjectOf profile samples envelopes blockSize) directory profile.images folder drawn.folder ∧
        drawn.log.filter isRemark = profile.images.flatMap fun image => remarked image.picture samples.rows) ∧
      ∀ error, drawn.result = .error error → drawn.log.filter isRemark = []) ∧
    (GalleryError.blocks .zeroSize).message = "block size must be at least 1" ∧
    (∀ path, (GalleryError.chart path .noSamples).message = "couldn't render " ++ path ++ ": no samples to plot") ∧
    ∀ path, (GalleryError.chart path .notFinite).message =
      "couldn't render " ++ path ++ ": non-finite values, can't plot" := by
  refine ⟨fun bad => ?_, fun path error failed checked => ?_, fun ready => ?_, rfl,
    fun path => message_chart path .noSamples, fun path => message_chart path .notFinite⟩
  · have outcome := @outcome_of_bad library directory folder samples profile envelopes blockSize aligned bad
    rw [draws] at outcome
    exact ⟨(outcome.fails_iff.mpr bad).1, (outcome.fails_iff.mpr bad).2, outcome⟩
  · rw [← draws] at failed ⊢
    exact folder_of_check aligned failed checked
  · have outcome := @outcome_of_ready library directory folder samples profile envelopes blockSize aligned
      fun _ _ => ready
    rw [draws] at outcome
    exact ⟨outcome, outcome.fails_iff, outcome.of_drawable, fun error failed => outcome.no_remark failed⟩

/-! ## A library -/

/-- The caption of a sheet. -/
def captionOf : Sheet → String
  | .surface sheet => sheet.frame.caption
  | .scatter sheet => sheet.caption

/-- A library that saves the caption of a sheet in place of its image. -/
def captionLibrary : DrawingLibrary where
  depth _ _ := 0
  render sheet path folder :=
    match folder.write path (Utf8.encode (captionOf sheet)) with
    | .error error => (.error (.refused error.message), folder)
    | .ok saved => (.ok (), saved)

theorem saves_captionLibrary (sheet : Sheet) (path : String) :
    captionLibrary.Saves sheet path (Utf8.encode (captionOf sheet)) := by
  intro folder there found
  unfold captionLibrary Folder.write
  dsimp only
  rw [found]
  rfl

/-- This library can draw everything. -/
theorem draws_captionLibrary (subject : Subject) (directory : String) (image : Image) :
    ∃ content, Draws captionLibrary subject directory image content := by
  cases checked : Axes.ofSamples (shown image.picture subject).samples with
  | error error =>
      refine ⟨[], fun axes checked' => ?_⟩
      rw [checked] at checked'
      cases checked'
  | ok axes =>
      let sheet := Sheet.ofPicture captionLibrary image.picture (shown image.picture subject) axes
      refine ⟨Utf8.encode (captionOf sheet), fun axes' checked' => ?_⟩
      rw [checked] at checked'
      cases checked'
      exact saves_captionLibrary sheet _

/-- Two rows without any sortedness, whatever the sign of the zero, and one with some. -/
def zeroRows : List Sample := [⟨2, 0.0, 1.5⟩, ⟨2, 1.0, 0.5⟩, ⟨12, -0.0, 2.5⟩]

def zeroSamples : Samples := .ofRows zeroRows

/-- A working directory without any files. -/
def emptyFolder : Folder := ⟨["work"], [], []⟩

/-- Both images of the profile are saved in an empty folder, and both rows are told. -/
theorem draw_all_or_nothing_zeroRows :
    zeroSamples.Aligned ∧
      Ready captionLibrary (subjectOf .swaps zeroSamples ⟨zeroSamples, zeroSamples⟩ 2) emptyFolder "."
        Profile.swaps.images ∧
      ∃ drawn, draw captionLibrary .swaps zeroSamples ⟨zeroSamples, zeroSamples⟩ 2 "." emptyFolder = drawn ∧
        drawn.result = .ok ["./execution_time_vs_no_swaps_and_array_size_3d.png", "./execution_time_vs_no_swaps.png"] ∧
        drawn.log.filter isRemark =
          [Drawing.zeroSortedness ⟨2, 0.0, 1.5⟩, Drawing.zeroSortedness ⟨12, -0.0, 2.5⟩] := by
  have aligned : zeroSamples.Aligned := Samples.aligned_ofRows zeroRows
  have writable : ∀ image ∈ Profile.swaps.images, ∃ there, emptyFolder.writable (pathOf "." image) = .ok there := by
    intro image member
    rcases List.mem_pair.mp member with rfl | rfl
    · exact ⟨["work", "execution_time_vs_no_swaps_and_array_size_3d.png"], by decide +kernel⟩
    · exact ⟨["work", "execution_time_vs_no_swaps.png"], by decide +kernel⟩
  have ready : Ready captionLibrary (subjectOf .swaps zeroSamples ⟨zeroSamples, zeroSamples⟩ 2) emptyFolder "."
      Profile.swaps.images := ⟨writable, fun image _ => draws_captionLibrary _ _ image⟩
  have drawable : Drawable zeroSamples.rows := by
    unfold zeroSamples
    rw [Samples.rows_ofRows]
    refine ⟨List.cons_ne_nil _ _, fun row member column => ?_⟩
    cases column <;> revert row <;> decide +kernel
  have drawn := @draw_all_or_nothing captionLibrary "." emptyFolder zeroSamples .swaps ⟨zeroSamples, zeroSamples⟩ 2
    aligned _ rfl
  obtain ⟨result, -, remarks⟩ := (drawn.2.2.1 ready).2.2.1 (by decide) drawable
  refine ⟨aligned, ready, _, rfl, result.trans ?_, remarks.trans ?_⟩
  · decide +kernel
  · decide +kernel

end Gallery

end QuicksortStudy
