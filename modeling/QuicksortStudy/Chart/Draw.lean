import QuicksortStudy.Chart.Axis
import QuicksortStudy.Chart.Mesh
import QuicksortStudy.Decimal.Style
import QuicksortStudy.Folder
import QuicksortStudy.Log
import QuicksortStudy.Profile

/-!
# Drawing charts

The samples of a chart are checked first.  Then all that the chart shows is put on a sheet, and a library draws the
sheet and saves it.  There is no depth buffer, so a sheet lists the triangles of the surface in the order in which they
are painted, the far ones first; how far they are is told by the library.
-/

namespace QuicksortStudy

structure Colour where
  red : Nat
  green : Nat
  blue : Nat
  deriving Repr, DecidableEq

namespace Colour

/-- The scale of the surface, from dark purple through orange to pale yellow, evenly spaced. -/
def inferno : List Colour :=
  [⟨0x00, 0x00, 0x04⟩, ⟨0x1b, 0x0c, 0x41⟩, ⟨0x4a, 0x0c, 0x6b⟩, ⟨0x78, 0x1c, 0x6d⟩, ⟨0xa5, 0x2c, 0x60⟩,
    ⟨0xcf, 0x44, 0x46⟩, ⟨0xed, 0x69, 0x25⟩, ⟨0xfb, 0x9b, 0x06⟩, ⟨0xf7, 0xd1, 0x3d⟩, ⟨0xfc, 0xff, 0xa4⟩]

def white : Colour := ⟨0xff, 0xff, 0xff⟩

def black : Colour := ⟨0x00, 0x00, 0x00⟩

def worst : Colour := ⟨0xf2, 0x00, 0x89⟩

def best : Colour := ⟨0x89, 0x00, 0xf2⟩

end Colour

/-! ## Sheets -/

/-- A colour that lets a part of what lies below it through. -/
structure Ink where
  colour : Colour
  opacity : Float
  deriving Repr, DecidableEq

structure Lettering where
  font : String
  size : Nat
  deriving Repr, DecidableEq

namespace Lettering

def caption : Lettering := ⟨"sans-serif", 30⟩

def label : Lettering := ⟨"sans-serif", 18⟩

end Lettering

structure Line (α : Type) where
  points : List α
  colour : Colour
  width : Nat
  deriving Repr, DecidableEq

/-- What a surface is painted into: the sheet with its three axes, seen from a side. -/
structure SurfaceFrame where
  dimensions : Nat × Nat
  background : Colour
  caption : String
  captionLetters : Lettering
  margin : Nat
  axes : Axes
  labelLetters : Lettering
  /-- The angles of the view, in radians. -/
  pitch : Float
  yaw : Float
  scale : Float
  grid : Ink
  gridLines : Nat
  deriving Repr, DecidableEq

structure SurfaceSheet where
  frame : SurfaceFrame
  /-- The triangles in the order of painting, each with its place on the colour scale. -/
  triangles : List (Triangle Point × Float)
  colours : List Colour
  /-- The curves over the surface, each with its text in the legend. -/
  curves : List (Line Point × String)
  legend : Ink
  legendBorder : Colour
  legendLetters : Lettering
  /-- The length of the piece of a curve in front of its text. -/
  legendLine : Nat
  /-- A text and where it begins. -/
  note : String × (Nat × Nat)
  noteLetters : Lettering
  deriving Repr, DecidableEq

structure ScatterSheet where
  dimensions : Nat × Nat
  background : Colour
  caption : String
  captionLetters : Lettering
  margin : Nat
  labelLetters : Lettering
  /-- The room for the labels of the axes. -/
  labelArea : Nat × Nat
  across : Span
  up : Span
  acrossTitle : String
  upTitle : String
  line : Line (Float × Float)
  dots : List (Float × Float)
  dotRadius : Nat
  dotColour : Colour
  deriving Repr, DecidableEq

inductive Sheet where
  | surface (sheet : SurfaceSheet)
  | scatter (sheet : ScatterSheet)
  deriving Repr, DecidableEq

/-! ## The library -/

/-- Why a library has not drawn a sheet. -/
inductive DrawingFault where
  | refused (words : String)
  | brokeOff
  deriving Repr, DecidableEq

/-- A library that draws. -/
structure DrawingLibrary where
  /-- How far from the viewer a point of a surface lies. -/
  depth : SurfaceFrame → Point → Int
  /-- Draw a sheet and save it at a path. -/
  render : Sheet → String → Folder → Except DrawingFault Unit × Folder

inductive ChartError where
  | noSamples
  | notFinite
  | backend (fault : DrawingFault)
  deriving Repr, DecidableEq

/-- The words for a chart that cannot be drawn; there are none when the library breaks off. -/
def ChartError.message : ChartError → String
  | noSamples => "no samples to plot"
  | notFinite => "non-finite values, can't plot"
  | backend (.refused words) => words
  | backend .brokeOff => ""

def Axes.ofSamples (samples : Samples) : Except ChartError Axes :=
  if samples.isEmpty then .error .noSamples
  else match Span.axis samples.sizes, Span.axis samples.times, Span.axis samples.sortedness with
    | some size, some time, some sortedness => .ok ⟨size, time, sortedness⟩
    | _, _, _ => .error .notFinite

/-! ## Charts -/

structure Subject where
  label : String
  samples : Samples
  envelopes : Envelopes
  triangles : List (Triangle Point)
  deriving Repr, DecidableEq

/-- The place of a triangle on the colour scale, for a time axis. -/
def Triangle.shade (t : Triangle Point) (time : Span) : Float := time.place t.meanTime

def Camera.radians (degrees : Float) : Float := degrees * (3.141592653589793 / 180.0)

namespace Sheet

def surfaceFrame (axes : Axes) (camera : Camera) (label : String) : SurfaceFrame where
  dimensions := (1250, 1200)
  background := .white
  caption := "Execution Time vs Array Size and " ++ label
  captionLetters := .caption
  margin := 20
  axes := axes
  labelLetters := .label
  pitch := Camera.radians camera.elevation
  yaw := Camera.radians camera.azimuth
  scale := 0.8
  grid := ⟨.black, 0.15⟩
  gridLines := 3

/-- Triangles in the order of painting; those that are equally far stay as they are. -/
def farFirst (depth : Point → Int) (triangles : List (Triangle Point)) : List (Triangle Point) :=
  triangles.mergeSort fun before behind => decide (depth behind.centroid ≤ depth before.centroid)

def curve (samples : Samples) (colour : Colour) : Line Point := ⟨samples.rows.map Sample.point, colour, 3⟩

/-- The surface of some samples, with both reference curves over it. -/
def ofSurface (library : DrawingLibrary) (camera : Camera) (subject : Subject) (axes : Axes) : SurfaceSheet :=
  let frame := surfaceFrame axes camera subject.label
  { frame := frame
    triangles := (farFirst (library.depth frame) subject.triangles).map fun t => (t, t.shade axes.time)
    colours := Colour.inferno
    curves := [(curve subject.envelopes.worst .worst, "O(n^2)"), (curve subject.envelopes.best .best, "O(nlog(n))")]
    legend := ⟨.white, 0.8⟩
    legendBorder := .black
    legendLetters := .label
    legendLine := 20
    note := ("x: Array Size    y: Execution Time (ms)    z: " ++ subject.label, (20, 1160))
    noteLetters := .label }

/-- Sortedness against time, in the order of the samples. -/
def ofScatter (subject : Subject) (axes : Axes) : ScatterSheet :=
  let points := subject.samples.rows.map fun sample => (sample.sortedness, sample.time)
  { dimensions := (1000, 750)
    background := .white
    caption := "Execution Time vs " ++ subject.label
    captionLetters := .caption
    margin := 15
    labelLetters := .label
    labelArea := (50, 80)
    across := axes.sortedness
    up := axes.time
    acrossTitle := subject.label
    upTitle := "Execution Time (ms)"
    line := ⟨points, .best, 2⟩
    dots := points
    dotRadius := 3
    dotColour := .worst }

def ofPicture (library : DrawingLibrary) (picture : Picture) (subject : Subject) (axes : Axes) : Sheet :=
  match picture with
  | .surface camera => surface (ofSurface library camera subject axes)
  | .scatter => scatter (ofScatter subject axes)

end Sheet

structure Drawing (α : Type) where
  result : α
  folder : Folder
  log : List LogLine

namespace Drawing

/-- What is said about a sample without any sortedness. -/
def zeroSortedness (sample : Sample) : LogLine :=
  ⟨.debug, .charts, "zero sortedness at array size " ++ NumberStyle.message.text sample.size ++ ": " ++
    NumberStyle.message.text sample.time ++ "ms"⟩

def remarks (picture : Picture) (samples : Samples) : List LogLine :=
  match picture with
  | .surface _ => []
  | .scatter => (samples.rows.filter fun sample => sample.sortedness == 0.0).map zeroSortedness

def draw (library : DrawingLibrary) (picture : Picture) (path : String) (subject : Subject) (folder : Folder) :
    Drawing (Except ChartError Unit) :=
  match Axes.ofSamples subject.samples with
  | .error error => ⟨.error error, folder, []⟩
  | .ok axes =>
    let drawn := library.render (.ofPicture library picture subject axes) path folder
    ⟨drawn.1.mapError .backend, drawn.2, remarks picture subject.samples⟩

end Drawing

end QuicksortStudy
