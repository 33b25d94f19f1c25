/-!
# Regular expressions

An expression describes parts of a text.  Places are the positions between the characters, counted from
zero, and an expression leads from a place to the places where a part that fits it can end.  Sets of places
are kept as rising lists, so the work depends on the length of the text and not on the number of ways in
which an expression fits.
-/

namespace QuicksortStudy

/-! ## Sets of characters

A set of characters as ranges of code points, in any order.  The ranges may overlap, but none is empty, so
a set without ranges is the only empty one. -/

abbrev CharSet := List (Nat × Nat)

namespace CharSet

def contains (set : CharSet) (code : Nat) : Bool :=
  set.any fun range => decide (range.1 ≤ code ∧ code ≤ range.2)

def single (c : Char) : CharSet := [(c.toNat, c.toNat)]

def full : CharSet := [(0, 0x10ffff)]

/-- What is left of one range outside of another one. -/
def cut (hole range : Nat × Nat) : CharSet :=
  (if range.1 < hole.1 then [(range.1, min range.2 (hole.1 - 1))] else []) ++
    (if hole.2 < range.2 then [(max range.1 (hole.2 + 1), range.2)] else [])

def difference (set others : CharSet) : CharSet :=
  others.foldl (fun left hole => left.flatMap (cut hole)) set

def intersection (set others : CharSet) : CharSet := set.difference (set.difference others)

def symmetricDifference (set others : CharSet) : CharSet :=
  set.difference others ++ others.difference set

def isAscii (set : CharSet) : Bool := set.all fun range => decide (range.2 < 0x80)

/-- The ranges of a set within limits, moved by the same distance. -/
def moved (low high : Nat) (move : Nat → Nat) (set : CharSet) : CharSet :=
  (set.intersection [(low, high)]).map fun range => (move range.1, move range.2)

/-- A set with the other case of each ASCII letter in it. -/
def bothCases (set : CharSet) : CharSet :=
  set ++ set.moved 'a'.toNat 'z'.toNat (· - 32) ++ set.moved 'A'.toNat 'Z'.toNat (· + 32)

end CharSet

/-! ## Expressions -/

inductive Anchor where
  | textStart
  | textEnd
  /-- After a line feed; with `carriage`, after any of the line ends CR, LF and CRLF. -/
  | lineStart (carriage : Bool)
  /-- Before a line feed; with `carriage`, before any of the line ends CR, LF and CRLF. -/
  | lineEnd (carriage : Bool)
  | wordEdge
  | noWordEdge
  | wordStart
  | wordEnd
  /-- Not after a word character. -/
  | wordStartHalf
  /-- Not before a word character. -/
  | wordEndHalf
  deriving Repr, DecidableEq

inductive Expression where
  | empty
  | oneOf (set : CharSet)
  | anchor (condition : Anchor)
  | sequence (first second : Expression)
  | either (first second : Expression)
  /-- A number of times, without an upper limit if there is none. -/
  | repeated (least : Nat) (most : Option Nat) (body : Expression)
  deriving Repr, DecidableEq

def Anchor.isWord (c : Option Char) : Bool := c.any fun c => c.isAlphanum || c == '_'

/-- Whether a condition holds between two characters, which are missing at the ends of a text. -/
def Anchor.holds (before after : Option Char) : Anchor → Bool
  | textStart => before.isNone
  | textEnd => after.isNone
  | lineStart false => before.all (· == '\n')
  | lineEnd false => after.all (· == '\n')
  | lineStart true => before.all (· == '\n') || (before == some '\r' && after != some '\n')
  | lineEnd true => after.all (· == '\r') || (after == some '\n' && before != some '\r')
  | wordEdge => isWord before != isWord after
  | noWordEdge => isWord before == isWord after
  | wordStart => !isWord before && isWord after
  | wordEnd => isWord before && !isWord after
  | wordStartHalf => !isWord before
  | wordEndHalf => !isWord after

namespace Expression

/-- Whether an expression fits nothing but the empty text. -/
def isHollow : Expression → Bool
  | empty => true
  | oneOf _ => false
  | anchor _ => true
  | sequence first second => first.isHollow && second.isHollow
  | either first second => first.isHollow && second.isHollow
  | repeated _ most body => most == some 0 || body.isHollow

/-- An expression a number of times.  More than once is no more than once for one that fits nothing but
the empty text. -/
def times (least : Nat) (most : Option Nat) (body : Expression) : Expression :=
  let least := if body.isHollow then min least 1 else least
  let most := if body.isHollow then some (min (most.getD 1) 1) else most
  if most = some 0 then empty
  else if least = 1 ∧ most = some 1 then body
  else repeated least most body

/-- About how many bytes the states of an automaton for an expression take. -/
def weight : Expression → Nat
  | empty => 32
  | oneOf set => if set.isAscii then 32 + 8 * set.length else 400
  | anchor _ => 32
  | sequence first second => first.weight + second.weight
  | either first second => first.weight + second.weight + 72
  | repeated least most body =>
    match most with
    | none => (max least 1) * body.weight + 40
    | some most => least * body.weight + (most - least) * (body.weight + 40)

/-! ### Places -/

def union (places others : List Nat) : List Nat :=
  (places.merge others fun a b => decide (a ≤ b)).eraseReps

/-- The set of places after a number of steps.  A step that changes nothing is the last. -/
def walk (step : List Nat → List Nat) : Nat → List Nat → List Nat
  | 0, places => places
  | count + 1, places =>
    let next := step places
    if next = places then places else walk step count next

/-- All places that a number of steps or fewer lead to.  Only places that are new are gone on from. -/
def spread (step : List Nat → List Nat) : Nat → List Nat → List Nat → List Nat
  | 0, _, found => found
  | count + 1, places, found =>
    let next := (step places).filter fun place => !found.contains place
    if next.isEmpty then found else spread step count next (union found next)

/-- The places where a part of a text can end that fits an expression and starts at one of some places.
In a text, steps without number lead no farther than one step for each place. -/
def ends (text : Array Char) : Expression → List Nat → List Nat
  | empty, starts => starts
  | oneOf set, starts =>
    (starts.filter fun place => text[place]?.any fun c => set.contains c.toNat).map (· + 1)
  | anchor condition, starts =>
    starts.filter fun place =>
      condition.holds (if place = 0 then none else text[place - 1]?) text[place]?
  | sequence first second, starts => ends text second (ends text first starts)
  | either first second, starts => union (ends text first starts) (ends text second starts)
  | repeated least most body, starts =>
    let step := fun places => ends text body places
    let limit := text.size + 1
    let needed := walk step (min least limit) starts
    spread step (most.elim limit fun most => min (most - least) limit) needed needed

def isFoundIn (expression : Expression) (text : String) : Bool :=
  let text := text.toList.toArray
  !(expression.ends text (List.range (text.size + 1))).isEmpty

end Expression

end QuicksortStudy
