import QuicksortStudy.Decimal

/-!
# Number text

Among all decimals that read back as a given finite double, `Decimal.shortest` picks one with the fewest
digits and, among those, the nearest.  The search walks down the decimal grids, from the leading digit of
the number to the last digit of its exact expansion.  On each grid only the two neighbours of the number
can be nearest; the exact expansion reads back, so the search ends.
-/

namespace QuicksortStudy

/-- What to do with a number that lies halfway between its two shortest decimals. -/
inductive Tie where
  | toEven
  | up
  deriving Repr, DecidableEq

namespace Decimal

/-- The number of decimal digits of a natural number; zero has one. -/
def length (n : Nat) : Nat := if n < 10 then 1 else length (n / 10) + 1

/-- How many zeros stand between the decimal point and the first other digit of `num / den`. -/
def leadingZeros (num den : Nat) : Nat :=
  if num = 0 ∨ den ≤ 10 * num then 0 else leadingZeros (10 * num) den + 1
termination_by den - num
decreasing_by omega

/-- The power of ten of the leading digit of the positive fraction `num / den`. -/
def leadingPower (num den : Nat) : Int :=
  if den ≤ num then (length (num / den) : Int) - 1 else -(leadingZeros num den : Int) - 1

def onGrid (num den : Nat) (power : Int) : Nat × Nat :=
  if 0 ≤ power then (num, den * Nat.pow 10 power.toNat) else (num * Nat.pow 10 (-power).toNat, den)

/-- The nearer one of the two neighbours of a fraction on the whole numbers. -/
def nearerNeighbour (tie : Tie) (num den : Nat) : Nat :=
  let below := num / den
  let twice := 2 * (num % den)
  if twice < den then below
  else if den < twice then below + 1
  else match tie with
    | .toEven => below + below % 2
    | .up => below + 1

/-- The decimal on the grid of `10 ^ power` that reads back as the magnitude, if there is one. -/
def onGrid? (tie : Tie) (bits : Nat) (power : Int) : Option Decimal :=
  let (num, den) := onGrid (Binary64.units bits) Binary64.unitsPerOne power
  let below : Decimal := ⟨num / den, power⟩
  let above : Decimal := ⟨num / den + 1, power⟩
  match below.nearest == bits, above.nearest == bits with
  | true, true => some ⟨nearerNeighbour tie num den, power⟩
  | true, false => some below
  | false, true => some above
  | false, false => none

def exact (bits : Nat) : Decimal := ⟨Binary64.units bits * Nat.pow 5 1074, -1074⟩

/-- The first hit among a number of grids, the coarsest first. -/
def search (tie : Tie) (bits : Nat) : Nat → Int → Decimal
  | 0, _ => exact bits
  | grids + 1, power => (onGrid? tie bits power).getD (search tie bits grids (power - 1))

/-- The shortest decimal that reads back as a finite magnitude. -/
def shortest (tie : Tie) (bits : Nat) : Decimal :=
  if bits = 0 then ⟨0, 0⟩
  else
    let lead := leadingPower (Binary64.units bits) Binary64.unitsPerOne
    trimZeros (search tie bits (lead + 1074).toNat lead)

end Decimal

/-! ## Styles

Two styles of writing a double: the one of results files, which always reads back as the same double and
switches to an exponent for large and small numbers, and the plain one of messages, which never shows an
exponent and leaves out an empty fraction. -/

structure NumberStyle where
  /-- Which shortest decimal is taken in a tie. -/
  tie : Tie
  /-- The smallest and largest position of the decimal point that is written without an exponent;
  without this pair an exponent never appears. -/
  positional : Option (Int × Int)
  wholeFraction : Bool

namespace NumberStyle

/-- Results files: ties go to the even digit, an exponent appears beyond sixteen digits before the point
or more than four zeros after it, and whole numbers keep one decimal. -/
def results : NumberStyle := ⟨.toEven, some (-4, 16), true⟩

/-- Messages: ties go up, no exponent, no empty fraction. -/
def message : NumberStyle := ⟨.up, none, false⟩

def digits (n : Nat) : List Char := Nat.toDigits 10 n

/-- Digits with the decimal point at a position counted from their front. -/
def positionalText (style : NumberStyle) (ds : List Char) (point : Int) : List Char :=
  if point ≤ 0 then '0' :: '.' :: (List.replicate (-point).toNat '0' ++ ds)
  else if ds.length ≤ point.toNat then
    ds ++ List.replicate (point.toNat - ds.length) '0' ++ (if style.wholeFraction then ['.', '0'] else [])
  else ds.take point.toNat ++ '.' :: ds.drop point.toNat

/-- One digit before the point, the others after it, and a power of ten. -/
def scientificText (ds : List Char) (point : Int) : List Char :=
  let fraction := ds.drop 1
  ds.take 1 ++ (if fraction.isEmpty then [] else '.' :: fraction) ++ 'e' ::
    (if point - 1 < 0 then '-' :: digits (1 - point).toNat else digits (point - 1).toNat)

def decimalText (style : NumberStyle) (d : Decimal) : List Char :=
  if d.digits = 0 then '0' :: (if style.wholeFraction then ['.', '0'] else [])
  else
    let ds := digits d.digits
    let point := (ds.length : Int) + d.exponent
    match style.positional with
    | none => style.positionalText ds point
    | some (least, greatest) =>
      if least ≤ point ∧ point ≤ greatest then style.positionalText ds point
      else scientificText ds point

def write (style : NumberStyle) (x : Float) : List Char :=
  if x.isNaN then ['N', 'a', 'N']
  else
    let bits := Binary64.magnitude x
    let unsigned :=
      if bits < Binary64.infinity then style.decimalText (Decimal.shortest style.tie bits)
      else ['i', 'n', 'f']
    if Binary64.isNegative x then '-' :: unsigned else unsigned

def text (style : NumberStyle) (x : Float) : String := .ofList (style.write x)

end NumberStyle

end QuicksortStudy
