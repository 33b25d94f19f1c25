import QuicksortStudy.Samples.Blocks

/-!
# The surface over the grid

Neighbouring blocks are stitched together: two neighbouring rows of a block and the two rows at the same
places of the next block are the corners of a quad, which becomes two triangles that share a diagonal.
Only places that both blocks have are used, and fewer than two blocks give no surface.

Stitching looks at positions only, so it works for entries of any kind.
-/

namespace QuicksortStudy

structure Triangle (α : Type) where
  first : α
  second : α
  third : α
  deriving Repr, DecidableEq

/-- A point of the chart.  Time goes upwards. -/
structure Point where
  size : Float
  time : Float
  sortedness : Float
  deriving Repr, DecidableEq

def Sample.point (sample : Sample) : Point := ⟨sample.size, sample.time, sample.sortedness⟩

namespace Triangle

variable {α β : Type}

def map (f : α → β) (t : Triangle α) : Triangle β := ⟨f t.first, f t.second, f t.third⟩

def corners (t : Triangle α) : List α := [t.first, t.second, t.third]

def mean (t : Triangle Point) (coordinate : Point → Float) : Float :=
  (coordinate t.first + coordinate t.second + coordinate t.third) / 3.0

def centroid (t : Triangle Point) : Point := ⟨t.mean Point.size, t.mean Point.time, t.mean Point.sortedness⟩

def meanTime (t : Triangle Point) : Float := t.centroid.time

end Triangle

namespace Mesh

variable {α : Type}

/-- The triangles between two neighbouring blocks. -/
def strip : List α → List α → List (Triangle α)
  | near :: next :: nears, far :: beyond :: fars =>
    ⟨near, next, far⟩ :: ⟨next, beyond, far⟩ :: strip (next :: nears) (beyond :: fars)
  | _, _ => []

/-- The triangles between all neighbouring blocks. -/
def stitch : List (List α) → List (Triangle α)
  | near :: far :: rest => strip near far ++ stitch (far :: rest)
  | _ => []

def ofRows (blockSize : Nat) (rows : List α) : List (Triangle α) := stitch (Blocks.cut blockSize rows)

end Mesh

/-- The surface over samples that come in blocks of a given size. -/
def Samples.surface (samples : Samples) (blockSize : Nat) : Except BlockError (List (Triangle Point)) :=
  if blockSize = 0 then .error .zeroSize
  else .ok ((Mesh.ofRows blockSize samples.rows).map (.map Sample.point))

end QuicksortStudy
