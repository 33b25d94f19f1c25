import QuicksortStudy.Random.KeyStream

/-!
# Random draws

A random stream is an unending sequence of 64-bit words with a position in it.  `RandomStream.index` draws
a position below a bound: the high half of the product of a word and the bound, where words whose low half
is too large are refused, so that all positions are equally likely.  Nothing limits how many words are refused in a
row: `none` stands for a draw that goes on for ever.
-/

namespace QuicksortStudy

/-- A sequence of words and how many of them have been drawn. -/
structure RandomStream where
  word : Nat → UInt64
  position : Nat

namespace RandomStream

def ofKey (key : StreamKey) : RandomStream := ⟨key.word, 0⟩

def ofSeed (seed : UInt64) : RandomStream := ofKey (.ofSeed seed)

/-- The stream of some words and zeros after them. -/
def ofWords (words : List UInt64) : RandomStream :=
  let held := words.toArray
  ⟨fun position => held.getD position 0, 0⟩

def next (s : RandomStream) : UInt64 × RandomStream :=
  (s.word s.position, { s with position := s.position + 1 })

/-- The largest low half that is not refused for a bound. -/
def zone (bound : Nat) : Nat := (bound <<< (63 - bound.log2) + (UInt64.size - 1)) % UInt64.size

/-- Whether a word is not refused for a bound. -/
def accepts (bound : Nat) (w : UInt64) : Bool := decide (w.toNat * bound % UInt64.size ≤ zone bound)

def scale {bound : Nat} (positive : 0 < bound) (w : UInt64) : Fin bound :=
  ⟨w.toNat * bound / UInt64.size,
    Nat.div_lt_of_lt_mul (Nat.mul_lt_mul_of_pos_right w.toNat_lt_size positive)⟩

/-- A position below a bound.  Words are drawn until one is not refused, so the draw never ends if all of them are. -/
def index {bound : Nat} (positive : 0 < bound) (s : RandomStream) : Option (Fin bound × RandomStream) :=
  if accepts bound s.next.1 then some (scale positive s.next.1, s.next.2)
  else (index (s := s.next.2)) positive
partial_fixpoint

end RandomStream

/-! ## Shuffling

A list with a number of random pairs exchanged.  Both positions of a pair are drawn from all positions, so they can be
the same and a pair can undo another one. -/

variable {α : Type}

/-- An array after a number of random exchanges, and the stream after the draws. -/
def exchange (xs : Array α) : Nat → RandomStream → Option (Array α × RandomStream)
  | 0, s => some (xs, s)
  | swaps + 1, s =>
    if nonempty : 0 < xs.size then do
      let (i, s) ← s.index nonempty
      let (j, s) ← s.index nonempty
      exchange (xs.swap i j) swaps s
    else some (xs, s)

def shuffle (xs : List α) (swaps : Nat) (s : RandomStream) : Option (List α × RandomStream) := do
  let (shuffled, s) ← exchange xs.toArray swaps s
  return (shuffled.toList, s)

end QuicksortStudy
