import QuicksortStudy.Binary64

/-!
# Decimal numbers

A `Decimal` is a natural number of digits with a power of ten.  `Decimal.nearest` is the magnitude of
the double it reads as.  A power that is beyond every double decides the result without being computed.
-/

namespace QuicksortStudy

/-- The number `digits * 10 ^ exponent`. -/
structure Decimal where
  digits : Nat
  exponent : Int
  deriving Repr, DecidableEq

namespace Decimal

def fraction (d : Decimal) : Nat × Nat :=
  if 0 ≤ d.exponent then (d.digits * Nat.pow 10 d.exponent.toNat, 1)
  else (d.digits, Nat.pow 10 (-d.exponent).toNat)

/-- The magnitude of the nearest double.  Above `10 ^ 400` everything is infinite; below `10 ^ (-400)`
everything is zero, and a number is at least as small as that when its exponent makes up for all its
digits. -/
def nearest (d : Decimal) : Nat :=
  if d.digits = 0 then 0
  else if 400 < d.exponent then Binary64.infinity
  else if d.exponent < -(400 + d.digits.log2 : Int) then 0
  else Binary64.nearest d.fraction.1 d.fraction.2

def trimZeros (d : Decimal) : Decimal :=
  if d.digits = 0 then d
  else if d.digits % 10 = 0 then trimZeros ⟨d.digits / 10, d.exponent + 1⟩
  else d
termination_by d.digits
decreasing_by exact Nat.div_lt_self (by omega) (by omega)

def toFloat (negative : Bool) (d : Decimal) : Float := Binary64.ofMagnitude negative d.nearest

theorem nearest_zero (exponent : Int) : nearest ⟨0, exponent⟩ = 0 := rfl

end Decimal

/-! ## Literals

What counts as a number in a results file: an optional sign, then `inf`, `infinity` or `nan` in any case,
or digits with an optional point and an optional exponent.  At least one digit is required, a point may
stand at either end, and an exponent needs a digit.  Only ASCII characters take part. -/

inductive Literal where
  | number (value : Decimal)
  | infinity
  | nan
  deriving Repr, DecidableEq

namespace Literal

/-- The value of a run of digits that follows others. -/
def digitsValue (before : Nat) (ds : List Char) : Nat :=
  ds.foldl (fun value c => 10 * value + (c.toNat - '0'.toNat)) before

/-- A run of digits that fills the whole text. -/
def digits? (cs : List Char) : Option Nat :=
  if cs.isEmpty ∨ !cs.all Char.isDigit then none else some (digitsValue 0 cs)

/-- What follows the digits: nothing, or an exponent. -/
def exponent? : List Char → Option Int
  | [] => some 0
  | e :: cs =>
    if e = 'e' ∨ e = 'E' then
      match cs with
      | '-' :: ds => (digits? ds).map fun n => -(n : Int)
      | '+' :: ds => (digits? ds).map fun n => (n : Int)
      | ds => (digits? ds).map fun n => (n : Int)
    else none

/-- What follows a run of leading digits: perhaps a point and more digits. -/
def fraction (cs : List Char) : List Char × List Char :=
  match cs with
  | '.' :: rest => (rest.takeWhile Char.isDigit, rest.dropWhile Char.isDigit)
  | rest => ([], rest)

def decimal? (cs : List Char) : Option Decimal :=
  let whole := cs.takeWhile Char.isDigit
  let (fractional, rest) := fraction (cs.dropWhile Char.isDigit)
  if whole.isEmpty ∧ fractional.isEmpty then none
  else (exponent? rest).map fun exponent =>
    ⟨digitsValue (digitsValue 0 whole) fractional, exponent - fractional.length⟩

def unsigned? (cs : List Char) : Option Literal :=
  let lower := cs.map Char.toLower
  if lower = "inf".toList ∨ lower = "infinity".toList then some infinity
  else if lower = "nan".toList then some nan
  else (decimal? cs).map number

def value (negative : Bool) : Literal → Float
  | number d => d.toFloat negative
  | infinity => Binary64.ofMagnitude negative Binary64.infinity
  | nan => 0.0 / 0.0

def read? : List Char → Option Float
  | '-' :: cs => (unsigned? cs).map (value true)
  | '+' :: cs => (unsigned? cs).map (value false)
  | cs => (unsigned? cs).map (value false)

def parse? (text : String) : Option Float := read? text.toList

end Literal

end QuicksortStudy
