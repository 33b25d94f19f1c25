import QuicksortStudy.Binary64
import QuicksortStudy.Profile

/-!
# Sortedness

How close a shuffled list is to the one it came from: the number of swaps, or one of two rank correlations, which are
one for equal orders and minus one for opposite ones.  The rank of an element is its place in the sorted list, counted
from one; equal elements keep the order in which they stand.
-/

namespace QuicksortStudy

/-! ## Ranks -/

def sortedPositions (xs : List Int) : List Nat :=
  (xs.zipIdx.mergeSort fun a b => decide (a.1 ≤ b.1)).map (·.2)

def ranks (xs : List Int) : List Nat :=
  (((sortedPositions xs).zipIdx 1).mergeSort fun a b => decide (a.1 ≤ b.1)).map (·.2)

def rankDistances (xs ys : List Int) : List Nat :=
  ((ranks xs).zip (ranks ys)).map fun (rx, ry) => (rx - ry) + (ry - rx)

def squaredRankDistance (xs ys : List Int) : Nat :=
  (rankDistances xs ys).foldr (fun d sum => d * d + sum) 0

/-! ### In place

The ranks are written over a list of zeros, each at the position of its element.  What is written has to have a place,
or the ranking breaks off. -/

/-- Numbers with ranks written at some positions, one after the other and counted from `next` on.  There are none if
there is no such position. -/
def writeRanks? (numbers : Array Nat) (next : Nat) : List Nat → Option (Array Nat)
  | [] => some numbers
  | position :: rest =>
    if inside : position < numbers.size then writeRanks? (numbers.set position next inside) (next + 1) rest else none

/-- The ranks of the elements, written at the positions of the elements in order. -/
def ranksInPlace? (xs : List Int) : Option (List Nat) :=
  (writeRanks? (Array.replicate xs.length 0) 1 (sortedPositions xs)).map Array.toList

/-! ## Correlations -/

inductive MetricError where
  /-- The lengths of lists that should be equally long. -/
  | differentLengths (first second : Nat)
  deriving Repr, DecidableEq

def MetricError.message : MetricError → String
  | differentLengths first second =>
    "dimension mismatch: " ++ toString first ++ " != " ++ toString second

def Spearman.rho (xs ys : List Int) : Option Float :=
  if xs.length ≠ ys.length ∨ xs.length < 2 then none
  else
    let n := Binary64.ofNat xs.length
    let distance := (rankDistances xs ys).foldl (fun sum d =>
      let d := Binary64.ofNat d
      sum + d * d) 0.0
    some (1.0 - 6.0 * distance / (n * (n * n - 1.0)))

namespace Kendall

/-- The number of pairs of entries, in the order in which they stand, that are related. -/
def countPairs {α : Type} (related : α → α → Bool) : List α → Nat
  | [] => 0
  | a :: rest => rest.countP (related a) + countPairs related rest

def discordant (p q : Int × Int) : Bool :=
  decide ((p.1 < q.1 ∧ q.2 < p.2) ∨ (q.1 < p.1 ∧ p.2 < q.2))

/-- A number held between minus one and one; `NaN` stays as it is. -/
def clamp (x : Float) : Float := if x < -1.0 then -1.0 else if 1.0 < x then 1.0 else x

/-- Kendall's rank correlation with a correction for ties. -/
def tau (xs ys : List Int) : Except MetricError Float :=
  if xs.length ≠ ys.length then .error (.differentLengths xs.length ys.length)
  else
    let points := xs.zip ys
    let pairs := Binary64.ofNat (xs.length * (xs.length - 1) / 2)
    let tiedFirst := Binary64.ofNat (countPairs (fun p q => p.1 == q.1) points)
    let tiedSecond := Binary64.ofNat (countPairs (fun p q => p.2 == q.2) points)
    let tiedBoth := Binary64.ofNat (countPairs (· == ·) points)
    let opposed := Binary64.ofNat (countPairs discordant points)
    let surplus := pairs - tiedFirst - tiedSecond + tiedBoth - 2.0 * opposed
    .ok (clamp (surplus / ((pairs - tiedFirst) * (pairs - tiedSecond)).sqrt))

end Kendall

/-- The sortedness that is recorded for a shuffled list.  Under a rank correlation a list of fewer than two
elements is as sorted as can be. -/
def Metric.measure (metric : Metric) (base shuffled : List Int) (swaps : Nat) :
    Except MetricError Float :=
  match metric with
  | .swaps => .ok (Binary64.ofNat swaps)
  | .spearman => .ok (if base.length < 2 then 1.0 else (Spearman.rho base shuffled).getD 1.0)
  | .kendall => if base.length < 2 then .ok 1.0 else Kendall.tau base shuffled

end QuicksortStudy
