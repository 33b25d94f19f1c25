/-!
# A keyed stream of random words

The ChaCha stream cipher with twelve rounds, used as a generator: a key of eight words and a block number
give sixteen words of output, of which two make a 64-bit word, the low half first.  The state is kept as
four rows of four words, so that a round on columns becomes one on diagonals when rows are turned.
-/

namespace QuicksortStudy

structure Lanes where
  w0 : UInt32
  w1 : UInt32
  w2 : UInt32
  w3 : UInt32
  deriving Repr, DecidableEq

namespace Lanes

def add (x y : Lanes) : Lanes := ⟨x.w0 + y.w0, x.w1 + y.w1, x.w2 + y.w2, x.w3 + y.w3⟩

def rotateWord (bits w : UInt32) : UInt32 := (w <<< bits) ||| (w >>> (32 - bits))

/-- The differences lane by lane, each turned left by a number of bits. -/
def mix (bits : UInt32) (x y : Lanes) : Lanes :=
  ⟨rotateWord bits (x.w0 ^^^ y.w0), rotateWord bits (x.w1 ^^^ y.w1),
    rotateWord bits (x.w2 ^^^ y.w2), rotateWord bits (x.w3 ^^^ y.w3)⟩

def turn (x : Lanes) : Lanes := ⟨x.w1, x.w2, x.w3, x.w0⟩

end Lanes

structure CipherState where
  constants : Lanes
  lowKey : Lanes
  highKey : Lanes
  counter : Lanes
  deriving Repr, DecidableEq

namespace CipherState

def columnRound (s : CipherState) : CipherState :=
  let a := s.constants.add s.lowKey
  let d := s.counter.mix 16 a
  let c := s.highKey.add d
  let b := s.lowKey.mix 12 c
  let a := a.add b
  let d := d.mix 8 a
  let c := c.add d
  let b := b.mix 7 c
  ⟨a, b, c, d⟩

/-- A round on the columns and one on the diagonals. -/
def doubleRound (s : CipherState) : CipherState :=
  let s := s.columnRound
  let s := columnRound ⟨s.constants, s.lowKey.turn, s.highKey.turn.turn, s.counter.turn.turn.turn⟩
  ⟨s.constants, s.lowKey.turn.turn.turn, s.highKey.turn.turn, s.counter.turn⟩

def rounds : Nat → CipherState → CipherState
  | 0, s => s
  | count + 1, s => rounds count s.doubleRound

def add (s t : CipherState) : CipherState :=
  ⟨s.constants.add t.constants, s.lowKey.add t.lowKey, s.highKey.add t.highKey,
    s.counter.add t.counter⟩

end CipherState

structure StreamKey where
  low : Lanes
  high : Lanes
  deriving Repr, DecidableEq

namespace StreamKey

/-- The words of `expand 32-byte k`. -/
def constants : Lanes := ⟨0x61707865, 0x3320646e, 0x79622d32, 0x6b206574⟩

def block (key : StreamKey) (number : UInt64) : CipherState :=
  let start : CipherState :=
    ⟨constants, key.low, key.high, ⟨number.toUInt32, (number >>> 32).toUInt32, 0, 0⟩⟩
  (start.rounds 6).add start

/-- Two words as one, the low half first. -/
def pair (low high : UInt32) : UInt64 := low.toUInt64 ||| (high.toUInt64 <<< 32)

/-- The word at a position of the stream; a block has eight of them. -/
def word (key : StreamKey) (position : Nat) : UInt64 :=
  let out := key.block (.ofNat (position / 8))
  match position % 8 with
  | 0 => pair out.constants.w0 out.constants.w1
  | 1 => pair out.constants.w2 out.constants.w3
  | 2 => pair out.lowKey.w0 out.lowKey.w1
  | 3 => pair out.lowKey.w2 out.lowKey.w3
  | 4 => pair out.highKey.w0 out.highKey.w1
  | 5 => pair out.highKey.w2 out.highKey.w3
  | 6 => pair out.counter.w0 out.counter.w1
  | _ => pair out.counter.w2 out.counter.w3

/-- A step of the generator that stretches a seed. -/
def seedStep (s : UInt64) : UInt64 := s * 6364136223846793005 + 11634580027462260723

/-- The word that a state of that generator gives. -/
def seedWord (s : UInt64) : UInt32 :=
  let mixed := (((s >>> 18) ^^^ s) >>> 27).toUInt32
  let turns := (s >>> 59).toUInt32
  (mixed >>> turns) ||| (mixed <<< (32 - turns))

/-- Four words of a stretched seed, and the state after them. -/
def seedLanes (s : UInt64) : Lanes × UInt64 :=
  let s0 := seedStep s
  let s1 := seedStep s0
  let s2 := seedStep s1
  let s3 := seedStep s2
  (⟨seedWord s0, seedWord s1, seedWord s2, seedWord s3⟩, s3)

def ofSeed (seed : UInt64) : StreamKey :=
  let (low, state) := seedLanes seed
  ⟨low, (seedLanes state).1⟩

end StreamKey

end QuicksortStudy
