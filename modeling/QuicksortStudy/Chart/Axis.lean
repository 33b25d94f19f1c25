import QuicksortStudy.Samples

/-!
# Axes

The span of a column, and the places of values in a span.  An empty column has no span, nor has one with a
value that is not finite.
-/

namespace QuicksortStudy

/-- The numbers between two ends. -/
structure Span where
  low : Float
  high : Float
  deriving Repr, DecidableEq

namespace Span

/-- The lesser of two numbers, the second of equal ones. -/
def lesser (a b : Float) : Float := if a < b then a else b

def greater (a b : Float) : Float := if b < a then a else b

def meet (span : Span) (x : Float) : Span := ⟨lesser span.low x, greater span.high x⟩

/-- The ends of a column, if it has any. -/
def checked (column : List Float) (ends : Span) : Option Span :=
  if column.isEmpty ∨ !column.all Float.isFinite then none else some ends

def bounds (column : List Float) : Option Span := checked column (column.foldl meet ⟨1.0 / 0.0, -1.0 / 0.0⟩)

/-- One half to both sides of a single value. -/
def widened (span : Span) : Span := if span.low < span.high then span else ⟨span.low - 0.5, span.high + 0.5⟩

def axis (column : List Float) : Option Span := (bounds column).map widened

/-- A number held between zero and one; `NaN` stays as it is. -/
def clamp (x : Float) : Float := if x < 0.0 then 0.0 else if 1.0 < x then 1.0 else x

/-- The place of a value in a span, from zero at the low end to one at the high end.  In a span without
extent everything is at the low end. -/
def place (span : Span) (value : Float) : Float :=
  if span.low < span.high then clamp ((value - span.low) / (span.high - span.low)) else 0.0

/-! ## In rows of four

A processor can also go through a column in four runs at once.  Then the same values are compared in another order,
which shows in the sign of a zero, if zeros of both signs are at an end. -/

/-- The number that is left of a column when each of four numbers so far meets every fourth number of it,
then the four meet each other, and the result meets the numbers that do not fill a row of four. -/
def chooseInRows (choose : Float → Float → Float) : Float → Float → Float → Float → List Float → Float
  | a, b, c, d, w :: x :: y :: z :: rest =>
    chooseInRows choose (choose a w) (choose b x) (choose c y) (choose d z) rest
  | a, b, c, d, rest => rest.foldl choose (choose (choose b d) (choose a c))

/-- The number that is left of a column, from a number on that yields to all others. -/
def extreme (choose : Float → Float → Float) (start : Float) (column : List Float) : Float :=
  chooseInRows choose start start start start column

def boundsInRows (column : List Float) : Option Span :=
  checked column ⟨extreme lesser (1.0 / 0.0) column, extreme greater (-1.0 / 0.0) column⟩

def axisInRows (column : List Float) : Option Span := (boundsInRows column).map widened

end Span

structure Axes where
  size : Span
  time : Span
  sortedness : Span
  deriving Repr, DecidableEq

end QuicksortStudy
