import QuicksortStudy.Text
import QuicksortStudy.Text.Expression

/-!
# Reading regular expressions

The written form has groups, alternatives, repetition, sets of characters with set operations, escapes and
manners of reading that a group can change.  Sets that are named by what a character is are known for ASCII
characters only, so escapes such as `\d` and `\b`, and letters in any case, are refused as long as all of
Unicode is meant.  A text that is no expression, or one that is nested too deeply or too large, is refused
as a whole.
-/

namespace QuicksortStudy.ExpressionReader

/-- How the rest of a group is read. -/
structure Manner where
  /-- Letters stand for both of their cases. -/
  anyCase : Bool
  /-- The ends of lines count as ends of the text. -/
  manyLines : Bool
  /-- A dot stands for line ends too. -/
  dotAll : Bool
  /-- A carriage return is part of a line end. -/
  carriage : Bool
  /-- Sets are sets of all characters and not only of ASCII characters. -/
  unicode : Bool
  /-- Blanks and comments between the parts are skipped. -/
  spaced : Bool

namespace Manner

def standard : Manner := ⟨false, false, false, false, true, false⟩

/-- The letters that change the manner; `U`, which turns the preference for long parts around, changes
nothing about whether there is one. -/
def letters : List Char := "imsRuxU".toList

def change (manner : Manner) (value : Bool) : Char → Manner
  | 'i' => { manner with anyCase := value }
  | 'm' => { manner with manyLines := value }
  | 's' => { manner with dotAll := value }
  | 'R' => { manner with carriage := value }
  | 'u' => { manner with unicode := value }
  | 'x' => { manner with spaced := value }
  | _ => manner

end Manner

/-- A text from its first character on that is neither blank nor in a comment. -/
def skipBlanks (cs : List Char) : List Char :=
  match cs with
  | [] => []
  | c :: rest =>
    if Blank.isBlank c then skipBlanks rest
    else if c = '#' then skipBlanks (rest.dropWhile (· ≠ '\n'))
    else c :: rest
termination_by cs.length
decreasing_by
  · simp
  · have shorter : (rest.dropWhile (· ≠ '\n')).length ≤ rest.length :=
      (List.dropWhile_sublist _).length_le
    simp only [List.length_cons]
    omega

def Manner.skip (manner : Manner) (cs : List Char) : List Char :=
  if manner.spaced then skipBlanks cs else cs

/-! ### Escapes -/

/-- What an escape or a character of a set stands for. -/
inductive Atom where
  | char (c : Char)
  | oneOf (set : CharSet)
  | anchor (condition : Anchor)

def namedSets : List (String × CharSet) :=
  [("alnum", [(0x30, 0x39), (0x41, 0x5a), (0x61, 0x7a)]), ("alpha", [(0x41, 0x5a), (0x61, 0x7a)]),
    ("ascii", [(0x0, 0x7f)]), ("blank", [(0x9, 0x9), (0x20, 0x20)]), ("cntrl", [(0x0, 0x1f), (0x7f, 0x7f)]),
    ("digit", [(0x30, 0x39)]), ("graph", [(0x21, 0x7e)]), ("lower", [(0x61, 0x7a)]),
    ("print", [(0x20, 0x7e)]), ("punct", [(0x21, 0x2f), (0x3a, 0x40), (0x5b, 0x60), (0x7b, 0x7e)]),
    ("space", [(0x9, 0xd), (0x20, 0x20)]), ("upper", [(0x41, 0x5a)]),
    ("word", [(0x30, 0x39), (0x41, 0x5a), (0x5f, 0x5f), (0x61, 0x7a)]),
    ("xdigit", [(0x30, 0x39), (0x41, 0x46), (0x61, 0x66)])]

def namedSet? (name : String) : Option CharSet := namedSets.lookup name

def hexValue? (c : Char) : Option Nat :=
  if c.isDigit then some (c.toNat - '0'.toNat)
  else if 'a' ≤ c ∧ c ≤ 'f' then some (c.toNat - 'a'.toNat + 10)
  else if 'A' ≤ c ∧ c ≤ 'F' then some (c.toNat - 'A'.toNat + 10)
  else none

def charOfHex? (digits : List Char) : Option Char := do
  let value := (← digits.mapM hexValue?).foldl (fun n d => 16 * n + d) 0
  if !digits.isEmpty && (Char.ofNat value).toNat == value then some (Char.ofNat value) else none

/-- A number of characters, and what follows them. -/
def several? (manner : Manner) : Nat → List Char → Option (List Char × List Char)
  | 0, cs => some ([], cs)
  | count + 1, cs =>
    match manner.skip cs with
    | [] => none
    | c :: rest => do
      let (others, after) ← several? manner count rest
      return (c :: others, after)

/-- A character by its code point, in braces or in a number of digits. -/
def byCode? (manner : Manner) (count : Nat) (cs : List Char) : Option (Atom × List Char) :=
  match manner.skip cs with
  | '\x7b' :: rest =>
    let digits := (rest.takeWhile (· ≠ '\x7d')).filter fun c => !(manner.spaced && Blank.isBlank c)
    match rest.dropWhile (· ≠ '\x7d') with
    | [] => none
    | _ :: after => do return (.char (← charOfHex? digits), after)
  | digits => do
    let (digits, after) ← several? manner count digits
    let c ← charOfHex? digits
    if !manner.unicode && count == 2 && 0x80 ≤ c.toNat then none else return (.char c, after)

/-- What is meant by the kind of character with a name: known only for ASCII characters. -/
def kind? (manner : Manner) (name : String) : Option Atom := do
  if manner.unicode then none else return .oneOf (← namedSet? name)

/-- A condition on words: known only for words of ASCII characters. -/
def edge? (manner : Manner) (condition : Anchor) (after : List Char) : Option (Atom × List Char) :=
  if manner.unicode then none else some (.anchor condition, after)

/-- The condition with a name in braces after `\b`, or the one that `\b` is without such a name. -/
def wordEdge? (manner : Manner) (cs : List Char) : Option (Atom × List Char) :=
  let isPart := fun c : Char => c.isAlpha || c == '-'
  let inside := match cs with
    | '\x7b' :: rest => some (manner.skip rest)
    | _ => none
  match inside with
  | some [] => none
  | some (c :: rest) =>
    if !isPart c then edge? manner .wordEdge cs
    else
      match (c :: rest).dropWhile isPart with
      | '\x7d' :: after =>
        match String.ofList ((c :: rest).takeWhile isPart) with
        | "start" => edge? manner .wordStart after
        | "end" => edge? manner .wordEnd after
        | "start-half" => edge? manner .wordStartHalf after
        | "end-half" => edge? manner .wordEndHalf after
        | _ => none
      | _ => none
  | none => edge? manner .wordEdge cs

def escape? (manner : Manner) : List Char → Option (Atom × List Char)
  | [] => none
  | c :: rest =>
    match c with
    | 'x' => byCode? manner 2 rest
    | 'u' => byCode? manner 4 rest
    | 'U' => byCode? manner 8 rest
    | 'd' => (kind? manner "digit").map (·, rest)
    | 's' => (kind? manner "space").map (·, rest)
    | 'w' => (kind? manner "word").map (·, rest)
    | 'a' => some (.char '\x07', rest)
    | 'f' => some (.char '\x0c', rest)
    | 't' => some (.char '\t', rest)
    | 'n' => some (.char '\n', rest)
    | 'r' => some (.char '\r', rest)
    | 'v' => some (.char '\x0b', rest)
    | 'A' => some (.anchor .textStart, rest)
    | 'z' => some (.anchor .textEnd, rest)
    | 'b' => wordEdge? manner rest
    | 'B' => edge? manner .noWordEdge rest
    | '<' => edge? manner .wordStart rest
    | '>' => edge? manner .wordEnd rest
    | _ => if c.toNat < 0x80 ∧ !c.isAlphanum then some (.char c, rest) else none

/-! ### Sets -/

inductive Joint where
  | both
  | without
  | oneOnly

def Joint.apply (joint : Joint) (left right : CharSet) : CharSet :=
  match joint with
  | both => left.intersection right
  | without => left.difference right
  | oneOnly => left.symmetricDifference right

/-- The members of a set so far: how many are written and how deeply they are nested. -/
structure Gathered where
  set : CharSet
  count : Nat
  depth : Nat

namespace Gathered

def none : Gathered := ⟨[], 0, 0⟩

def add (g : Gathered) (set : CharSet) (depth : Nat) : Gathered :=
  ⟨g.set ++ set, g.count + 1, max g.depth depth⟩

def nesting (g : Gathered) : Nat := if 1 < g.count then g.depth + 1 else g.depth

end Gathered

structure Nested where
  set : CharSet
  depth : Nat

structure LeftSide where
  joint : Joint
  side : Nested

def inAnyCase? (manner : Manner) (set : CharSet) : Option CharSet :=
  if !manner.anyCase || set.isEmpty then some set
  else if manner.unicode then none
  else some set.bothCases

/-- The members so far, joined with what stands before them. -/
def join? (manner : Manner) (left : Option LeftSide) (g : Gathered) : Option Nested :=
  match left with
  | none => some ⟨g.set, g.nesting⟩
  | some left => do
    let set := left.joint.apply (← inAnyCase? manner left.side.set) (← inAnyCase? manner g.set)
    return ⟨set, max left.side.depth g.nesting + 1⟩

def close? (manner : Manner) (negated : Bool) (left : Option LeftSide) (g : Gathered) : Option Nested := do
  let joined ← join? manner left g
  let inside ← inAnyCase? manner joined.set
  let set := if negated then CharSet.full.difference inside else inside
  if !manner.unicode && !set.isAscii then none else return ⟨set, joined.depth + 1⟩

/-- A named set after its opening bracket, up to its closing bracket. -/
def bracketName? (cs : List Char) : Option (CharSet × List Char) :=
  match cs with
  | ':' :: rest =>
    let (negated, body) := match rest with
      | '^' :: body => (true, body)
      | body => (false, body)
    match body.dropWhile (· ≠ ':') with
    | ':' :: ']' :: after => do
      let set ← namedSet? (.ofList (body.takeWhile (· ≠ ':')))
      return (if negated then CharSet.full.difference set else set, after)
    | _ => none
  | _ => none

/-- The start of a set after its opening bracket: whether it is negated, and the members that are taken
as they are only at the start. -/
def opening (manner : Manner) (cs : List Char) : Bool × Gathered × List Char :=
  let (negated, cs) := match manner.skip cs with
    | '^' :: rest => (true, manner.skip rest)
    | rest => (false, rest)
  let dashes := (cs.takeWhile (· = '-')).map fun c => CharSet.single c
  let g := dashes.foldl (fun g set => g.add set 0) .none
  match manner.skip (cs.dropWhile (· = '-')) with
  | ']' :: rest => if g.count = 0 then (negated, g.add (.single ']') 0, rest) else (negated, g, ']' :: rest)
  | rest => (negated, g, rest)

def member? (manner : Manner) : List Char → Option (Atom × List Char)
  | [] => none
  | '\\' :: rest => escape? manner rest
  | c :: rest => some (.char c, rest)

def memberSet? (manner : Manner) : Atom → Option CharSet
  | .char c => if manner.unicode || c.toNat < 0x80 then some (.single c) else none
  | .oneOf set => some set
  | .anchor _ => none

def rangeSet? (manner : Manner) : Atom → Atom → Option CharSet
  | .char low, .char high =>
    if low ≤ high ∧ (manner.unicode ∨ high.toNat < 0x80) then some [(low.toNat, high.toNat)] else none
  | _, _ => none

def members? (manner : Manner) (cs : List Char) : Option (CharSet × List Char) := do
  let (first, rest) ← member? manner cs
  match manner.skip rest with
  | '-' :: after =>
    match manner.skip after with
    | [] => none
    | c :: next =>
      if c = ']' ∨ c = '-' then return (← memberSet? manner first, '-' :: after)
      else
        let (second, rest) ← member? manner (c :: next)
        return (← rangeSet? manner first second, rest)
  | rest => return (← memberSet? manner first, rest)

/-- The rest of a set.  Every step takes at least one character, which bounds the steps. -/
def set? (manner : Manner) (negated : Bool) :
    Nat → Option LeftSide → Gathered → List Char → Option (Nested × List Char)
  | 0, _, _, _ => none
  | steps + 1, left, g, cs =>
    let joined (joint : Joint) (rest : List Char) := do
      set? manner negated steps (some ⟨joint, ← join? manner left g⟩) .none rest
    match manner.skip cs with
    | [] => none
    | ']' :: rest => do return (← close? manner negated left g, rest)
    | '[' :: rest =>
      match bracketName? rest with
      | some (set, after) => set? manner negated steps left (g.add set 0) after
      | none => do
        let (negatedInside, inside, body) := opening manner rest
        let (nested, after) ← set? manner negatedInside steps none inside body
        set? manner negated steps left (g.add nested.set nested.depth) after
    | '&' :: '&' :: rest => joined .both rest
    | '-' :: '-' :: rest => joined .without rest
    | '~' :: '~' :: rest => joined .oneOnly rest
    | rest => do
      let (set, after) ← members? manner rest
      set? manner negated steps left (g.add set 0) after

/-! ### Groups -/

structure Piece where
  meaning : Expression
  depth : Nat

/-- What a group holds so far. -/
structure Group where
  /-- The alternatives that are done, the last one first. -/
  alternatives : List Piece
  /-- The parts of the alternative that is read, the last one first; a change of manner is none. -/
  parts : List (Option Piece)

/-- A group that is not closed while one inside it is read, with the manner to go back to. -/
structure Pause where
  group : Group
  manner : Manner

structure Reading where
  manner : Manner
  group : Group
  outside : List Pause
  names : List (List Char)

def sequenceOf : List Expression → Expression
  | [] => .empty
  | [e] => e
  | e :: rest => .sequence e (sequenceOf rest)

def choiceOf : List Expression → Expression
  | [] => .empty
  | [e] => e
  | e :: rest => .either e (choiceOf rest)

/-- Pieces as one, nested one deeper if there are several. -/
def Piece.ofList (combine : List Expression → Expression) (pieces : List Piece) : Piece :=
  let depth := pieces.foldl (fun depth piece => max depth piece.depth) 0
  ⟨combine (pieces.map (·.meaning)), if 1 < pieces.length then depth + 1 else depth⟩

namespace Group

def start : Group := ⟨[], []⟩

def current (group : Group) : Piece :=
  .ofList sequenceOf (group.parts.reverse.map fun part => part.getD ⟨.empty, 0⟩)

def whole (group : Group) : Piece :=
  .ofList choiceOf (group.current :: group.alternatives).reverse

end Group

namespace Reading

def add (r : Reading) (part : Option Piece) : Reading :=
  { r with group := { r.group with parts := part :: r.group.parts } }

def addFlat (r : Reading) (meaning : Expression) : Reading := r.add (some ⟨meaning, 0⟩)

def nextAlternative (r : Reading) : Reading :=
  { r with group := ⟨r.group.current :: r.group.alternatives, []⟩ }

/-- The last part a number of times. -/
def repeatLast? (r : Reading) (least : Nat) (most : Option Nat) : Option Reading :=
  match r.group.parts with
  | some part :: others =>
    let repeated : Piece := ⟨part.meaning.times least most, part.depth + 1⟩
    some { r with group := { r.group with parts := some repeated :: others } }
  | _ => none

def openGroup (r : Reading) (manner : Manner) : Reading :=
  { r with manner, group := .start, outside := ⟨r.group, r.manner⟩ :: r.outside }

def closeGroup? (r : Reading) : Option Reading :=
  match r.outside with
  | [] => none
  | pause :: others =>
    let inside := r.group.whole
    let back : Reading := ⟨pause.manner, pause.group, others, r.names⟩
    some (back.add (some ⟨inside.meaning, inside.depth + 1⟩))

def addChar? (r : Reading) (c : Char) : Option Reading := do
  return r.addFlat (.oneOf (← inAnyCase? r.manner (.single c)))

def addAtom? (r : Reading) : Atom → Option Reading
  | .char c => r.addChar? c
  | .oneOf set => some (r.addFlat (.oneOf set))
  | .anchor condition => some (r.addFlat (.anchor condition))

def dot? (manner : Manner) : Option CharSet :=
  if !manner.unicode then none
  else if manner.dotAll then some .full
  else if manner.carriage then some (CharSet.full.difference [(0xa, 0xa), (0xd, 0xd)])
  else some (CharSet.full.difference [(0xa, 0xa)])

def isNamePart (first : Bool) (c : Char) : Bool :=
  c == '_' || c.isAlpha || 0x80 ≤ c.toNat || (!first && (c.isDigit || c == '.' || c == '[' || c == ']'))

/-- Begin a group with a name, which ends in a closing angle bracket. -/
def openNamed? (r : Reading) (cs : List Char) : Option (Reading × List Char) :=
  let name := cs.takeWhile (· ≠ '>')
  match cs.dropWhile (· ≠ '>') with
  | [] => none
  | _ :: after =>
    if name.isEmpty ∨ !isNamePart true (name.headD '_') ∨ !name.all (isNamePart false) ∨ r.names.contains name
    then none
    else some ({ r with names := name :: r.names }.openGroup r.manner, after)

/-- The manner that letters ask for: those after a dash are turned off. -/
def changed? (manner : Manner) (letters : List Char) : Option Manner :=
  let on := letters.takeWhile (· ≠ '-')
  let off := (letters.dropWhile (· ≠ '-')).drop 1
  let isBad := fun c : Char => !Manner.letters.contains c
  if (on ++ off).any isBad ∨ !decide (on ++ off).Nodup ∨ letters.getLast? = some '-' then none
  else some (off.foldl (fun m c => m.change false c) (on.foldl (fun m c => m.change true c) manner))

/-- Change the manner for the rest of a group, or begin a group with another manner. -/
def changeManner? (r : Reading) (cs : List Char) : Option (Reading × List Char) :=
  let isLetter := fun c : Char => c != ':' && c != ')'
  let letters := cs.takeWhile isLetter
  match cs.dropWhile isLetter with
  | ')' :: after => do
    if letters.isEmpty then none
    else
      let manner ← changed? r.manner letters
      return ({ r.add none with manner }, after)
  | ':' :: after => do return (r.openGroup (← changed? r.manner letters), after)
  | _ => none

/-- What follows an opening parenthesis. -/
def parenthesis? (r : Reading) (cs : List Char) : Option (Reading × List Char) :=
  match r.manner.skip cs with
  | '?' :: 'P' :: '<' :: rest => r.openNamed? rest
  | '?' :: '<' :: rest =>
    match rest with
    | '=' :: _ => none
    | '!' :: _ => none
    | _ => r.openNamed? rest
  | '?' :: rest => r.changeManner? rest
  | rest => some (r.openGroup r.manner, rest)

/-- What follows a sign for repetition: a question mark that asks for short parts belongs to it. -/
def afterSign : List Char → List Char
  | '?' :: rest => rest
  | rest => rest

/-- A decimal number of 32 bits among blanks, and what follows it. -/
def number? (manner : Manner) (cs : List Char) : Option (Nat × List Char) :=
  let isPart := fun c : Char => c.isDigit || (manner.spaced && Blank.isBlank c)
  let cs := cs.dropWhile Blank.isBlank
  let digits := (cs.takeWhile isPart).filter Char.isDigit
  let value := digits.foldl (fun n c => 10 * n + (c.toNat - '0'.toNat)) 0
  if digits.isEmpty ∨ UInt32.size ≤ value then none
  else some (value, (cs.dropWhile isPart).dropWhile Blank.isBlank)

/-- What follows an opening brace: how often the last part is repeated. -/
def braces? (r : Reading) (cs : List Char) : Option (Reading × List Char) := do
  let (least, rest) ← number? r.manner (r.manner.skip cs)
  let (most, rest) ← match rest with
    | ',' :: rest =>
      match r.manner.skip rest with
      | '\x7d' :: after => some (none, '\x7d' :: after)
      | rest => (number? r.manner rest).map fun (most, rest) => (some most, rest)
    | rest => some (some least, rest)
  match rest with
  | '\x7d' :: after =>
    if most.any (· < least) then none
    else return (← r.repeatLast? least most, afterSign (r.manner.skip after))
  | _ => none

def step? (r : Reading) (c : Char) (rest : List Char) : Option (Reading × List Char) :=
  match c with
  | '(' => r.parenthesis? rest
  | ')' => r.closeGroup?.map (·, rest)
  | '|' => some (r.nextAlternative, rest)
  | '[' => do
    let (negated, inside, body) := opening r.manner rest
    let (nested, after) ← set? r.manner negated (body.length + 1) none inside body
    return (r.add (some ⟨.oneOf nested.set, nested.depth⟩), after)
  | '?' => (r.repeatLast? 0 (some 1)).map (·, afterSign rest)
  | '*' => (r.repeatLast? 0 none).map (·, afterSign rest)
  | '+' => (r.repeatLast? 1 none).map (·, afterSign rest)
  | '\x7b' => r.braces? rest
  | '\\' => do
    let (atom, after) ← escape? r.manner rest
    return (← r.addAtom? atom, after)
  | '.' => do return (r.addFlat (.oneOf (← dot? r.manner)), rest)
  | '^' =>
    some (r.addFlat (.anchor (if r.manner.manyLines then .lineStart r.manner.carriage else .textStart)), rest)
  | '$' =>
    some (r.addFlat (.anchor (if r.manner.manyLines then .lineEnd r.manner.carriage else .textEnd)), rest)
  | _ => (r.addChar? c).map (·, rest)

/-- Read to the end.  Every step takes at least one character, which bounds the steps. -/
def run? : Nat → Reading → List Char → Option Reading
  | 0, _, _ => none
  | steps + 1, r, cs =>
    match r.manner.skip cs with
    | [] => some r
    | c :: rest => do
      let (r, rest) ← r.step? c rest
      run? steps r rest

end Reading

def depthLimit : Nat := 250

def weightLimit : Nat := 10 * 1024 * 1024

def read? (text : String) : Option Expression := do
  let cs := text.toList
  let r ← Reading.run? (cs.length + 1) ⟨.standard, .start, [], []⟩ cs
  let whole := r.group.whole
  if r.outside.isEmpty ∧ whole.depth ≤ depthLimit ∧ whole.meaning.weight ≤ weightLimit then
    return whole.meaning
  else none

end QuicksortStudy.ExpressionReader
