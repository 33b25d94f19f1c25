import QuicksortStudy.Chart.Draw

/-!
# All pictures of a profile

The pictures of a profile are drawn one after the other into a directory and replace what is there.  The first that
cannot be drawn ends the work.  The surface shows all samples, the scatter only the last ones.
-/

namespace QuicksortStudy

inductive GalleryError where
  | blocks (error : BlockError)
  | chart (path : String) (error : ChartError)
  deriving Repr, DecidableEq

def GalleryError.message : GalleryError → String
  | blocks error => error.message
  | chart path error => "couldn't render " ++ path ++ ": " ++ error.message

/-- Whether the library has broken off, and with it everything else. -/
def GalleryError.isFatal : GalleryError → Bool
  | chart _ (.backend .brokeOff) => true
  | _ => false

namespace Gallery

def scatterRows : Nat := 100

def shown (picture : Picture) (subject : Subject) : Subject :=
  match picture with
  | .surface _ => subject
  | .scatter => { subject with samples := subject.samples.tail scatterRows }

def wrote (path : String) : LogLine := ⟨.info, .plotting, "wrote " ++ path⟩

def triangleCount (count : Nat) : LogLine :=
  ⟨.debug, .plotting, toString count ++ " triangles in the surface"⟩

/-- Draw some pictures into a directory; the result is their paths. -/
def drawImages (library : DrawingLibrary) (subject : Subject) (directory : String) :
    List Image → Folder → Drawing (Except GalleryError (List String))
  | [], folder => ⟨.ok [], folder, []⟩
  | image :: rest, folder =>
    let path := Folder.joinPath directory image.file
    let drawn := Drawing.draw library image.picture path (shown image.picture subject) folder
    match drawn.result with
    | .error error => ⟨.error (.chart path error), drawn.folder, drawn.log⟩
    | .ok () =>
      let others := drawImages library subject directory rest drawn.folder
      ⟨others.result.map (path :: ·), others.folder, drawn.log ++ wrote path :: others.log⟩

def draw (library : DrawingLibrary) (profile : Profile) (samples : Samples) (envelopes : Envelopes) (blockSize : Nat)
    (directory : String) (folder : Folder) : Drawing (Except GalleryError (List String)) :=
  match samples.surface blockSize with
  | .error error => ⟨.error (.blocks error), folder, []⟩
  | .ok triangles =>
    let subject : Subject := ⟨profile.sortednessLabel, samples, envelopes, triangles⟩
    let drawn := drawImages library subject directory profile.images folder
    { drawn with log := triangleCount triangles.length :: drawn.log }

end Gallery

end QuicksortStudy
