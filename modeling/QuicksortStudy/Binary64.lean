/-!
# Doubles as exact multiples of the smallest one

Every finite double is a whole number of *units* of `2 ^ (-1074)`, up to its sign.  The bit pattern
without the sign bit is its *magnitude*.  `Binary64.units` reads a magnitude as a number of units, and
`Binary64.nearest` goes back: it is the magnitude of the double that is nearest to a fraction, where a
tie goes to the even neighbour and what is too large becomes infinite.
-/

namespace QuicksortStudy

/-- The quotient of two naturals rounded to the nearest natural, a tie going to the even one. -/
def divRoundEven (num den : Nat) : Nat :=
  let quotient := num / den
  let twice := 2 * (num % den)
  if twice < den then quotient
  else if den < twice then quotient + 1
  else quotient + quotient % 2

namespace Binary64

/-- The weight of the exponent field, above the fifty-two bits of the fraction. -/
def exponentWeight : Nat := 1 <<< 52

def signWeight : Nat := 1 <<< 63

/-- The magnitude of infinity: larger than that of every finite double. -/
def infinity : Nat := 2047 * exponentWeight

/-- The bit pattern of a double without its sign bit. -/
def magnitude (x : Float) : Nat := x.toBits.toNat % signWeight

def isNegative (x : Float) : Bool := decide (signWeight ≤ x.toBits.toNat)

def ofMagnitude (negative : Bool) (bits : Nat) : Float :=
  .ofBits (.ofNat (if negative then signWeight + bits else bits))

/-- The denominator of the fraction that a number of units is. -/
def unitsPerOne : Nat := 1 <<< 1074

/-- The number of units in a finite magnitude: the fraction itself when the exponent
field is zero, and else the fraction with a leading one, shifted by one less than that field. -/
def units (bits : Nat) : Nat :=
  if bits < exponentWeight then bits
  else (bits % exponentWeight + exponentWeight) <<< (bits / exponentWeight - 1)

/-- The magnitude of the double nearest to the fraction `num / den`.  A significand that rounds up to
`2 ^ 53` carries into the exponent field by itself. -/
def nearest (num den : Nat) : Nat :=
  let scaled := num * unitsPerOne
  let shift := (scaled / den).log2 - 52
  min infinity (shift * exponentWeight + divRoundEven scaled (den <<< shift))

def ofNat (n : Nat) : Float := ofMagnitude false (nearest n 1)

theorem divRoundEven_mul (n : Nat) {den : Nat} (positive : 0 < den) :
    divRoundEven (n * den) den = n := by
  simp [divRoundEven, Nat.mul_mod_left, Nat.mul_div_cancel _ positive, positive]

end Binary64

end QuicksortStudy
