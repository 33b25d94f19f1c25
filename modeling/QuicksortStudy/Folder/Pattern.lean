import QuicksortStudy.Text

/-!
# Path patterns

A pattern is a path whose names may hold wildcards: `?` for a character, `*` for any run of characters,
`[..]` and `[!..]` for a character of a set or outside of it, and `**` as a whole name for any number of
directories.  There is no way to escape these.  Reading a pattern checks all of it at once and then each
of its names, so a set never reaches across a slash.
-/

namespace QuicksortStudy

inductive PatternFault where
  | longRun
  | partialName
  | badSet
  deriving Repr, DecidableEq

/-- A fault and the number of characters before it. -/
structure PatternError where
  position : Nat
  fault : PatternFault
  deriving Repr, DecidableEq

def PatternFault.message : PatternFault → String
  | longRun => "wildcards are either regular `*` or recursive `**`"
  | partialName => "recursive wildcards must form a single path component"
  | badSet => "invalid range pattern"

def PatternError.message (e : PatternError) : String :=
  "Pattern syntax error near position " ++ toString e.position ++ ": " ++ e.fault.message

inductive Wildcard where
  | literal (c : Char)
  | anyChar
  | anyRun
  | anyDepth
  | oneOf (inside : Bool) (ranges : List (Char × Char))
  deriving Repr, DecidableEq

/-- A name of a pattern, or `**` in place of names. -/
inductive NamePattern where
  | descend
  | name (parts : List Wildcard)
  deriving Repr, DecidableEq

structure PathPattern where
  /-- Whether the pattern starts at the top of the file system. -/
  absolute : Bool
  names : List NamePattern
  directoriesOnly : Bool
  deriving Repr, DecidableEq

namespace Wildcard

def ranges : List Char → List (Char × Char)
  | [] => []
  | low :: '-' :: high :: rest => (low, high) :: ranges rest
  | c :: rest => (c, c) :: ranges rest

/-- A set after its opening bracket, and what follows it.  The first character never closes the set. -/
def set? (cs : List Char) : Option (Wildcard × List Char) :=
  let (inside, body) := match cs with
    | '!' :: rest => (false, rest)
    | rest => (true, rest)
  match body with
  | [] => none
  | first :: rest =>
    match rest.dropWhile (· ≠ ']') with
    | [] => none
    | _ :: after => some (oneOf inside (ranges (first :: rest.takeWhile (· ≠ ']'))), after)

theorem length_of_set? {cs rest : List Char} {part : Wildcard}
    (found : set? cs = some (part, rest)) : rest.length < cs.length := by
  have shorter (body : List Char) : (body.dropWhile (· ≠ ']')).length ≤ body.length :=
    (List.dropWhile_sublist _).length_le
  unfold set? at found
  split at found
  rename_i inside body split
  have bound : body.length ≤ cs.length := by
    split at split <;> cases split <;> simp
  split at found
  · cases found
  · rename_i first others
    split at found
    · cases found
    · rename_i closing after dropped
      cases found
      have := shorter others
      simp only [List.length_cons] at bound
      have := congrArg List.length dropped
      simp only [List.length_cons] at this
      omega

/-- The parts of a pattern from a position on, after a character or at the start. -/
def parse (before : Option Char) (position : Nat) (cs : List Char) :
    Except PatternError (List Wildcard) :=
  match cs with
  | [] => .ok []
  | '?' :: rest => do return anyChar :: (← parse (some '?') (position + 1) rest)
  | '*' :: rest =>
    let stars := (rest.takeWhile (· = '*')).length
    let after := rest.dropWhile (· = '*')
    if stars = 0 then do return anyRun :: (← parse (some '*') (position + 1) rest)
    else if stars = 1 then
      if before.all (· = '/') then
        match _dropped : after with
        | [] => .ok [anyDepth]
        | '/' :: names => do return anyDepth :: (← parse (some '/') (position + 3) names)
        | _ => .error ⟨position + 2, .partialName⟩
      else .error ⟨position - 1, .partialName⟩
    else .error ⟨position + 2, .longRun⟩
  | '[' :: rest =>
    match _ : set? rest with
    | none => .error ⟨position, .badSet⟩
    | some (part, after) => do
      return part :: (← parse (some ']') (position + (rest.length - after.length) + 1) after)
  | c :: rest => do return literal c :: (← parse (some c) (position + 1) rest)
termination_by cs.length
decreasing_by
  · simp
  · simp
  · have shorter : after.length ≤ rest.length := (List.dropWhile_sublist _).length_le
    rw [_dropped] at shorter
    simp only [List.length_cons] at *
    omega
  · have := length_of_set? ‹_›
    simp only [List.length_cons]
    omega
  · simp

def inRanges (ranges : List (Char × Char)) (c : Char) : Bool :=
  ranges.any fun (low, high) => decide (low ≤ c ∧ c ≤ high)

/-- All ends of a list, the whole list first. -/
def ends : List Char → List (List Char)
  | [] => [[]]
  | c :: rest => (c :: rest) :: ends rest

def isRun : Wildcard → Bool
  | anyRun => true
  | anyDepth => true
  | _ => false

def fits (c : Char) : Wildcard → Bool
  | literal d => c == d
  | anyChar => true
  | oneOf inside ranges => inRanges ranges c == inside
  | _ => false

/-- What is left of an end of a name after a part for a single character. -/
def after? (part : Wildcard) : List Char → Option (List Char)
  | [] => none
  | c :: cs => if part.fits c then some cs else none

/-- What can be left of a name after a part, given what can be left before it.  The longest comes first, and
a run can go on from it to every other one. -/
def left (before : List (List Char)) (part : Wildcard) : List (List Char) :=
  if part.isRun then before.head?.elim [] ends else before.filterMap part.after?

def accepts (parts : List Wildcard) (cs : List Char) : Bool :=
  (parts.foldl left [cs]).any List.isEmpty

def literalName? (parts : List Wildcard) : Option (List Char) :=
  parts.mapM fun
    | literal c => some c
    | _ => none

end Wildcard

namespace NamePattern

def accepts : NamePattern → String → Bool
  | descend, _ => false
  | name parts, file => Wildcard.accepts parts file.toList

def parse (cs : List Char) : Except PatternError NamePattern := do
  match ← Wildcard.parse none 0 cs with
  | [.anyDepth] => return descend
  | parts => return name parts

/-- A run of `**` means the same as a single one. -/
def mergeDescents : List NamePattern → List NamePattern
  | descend :: descend :: rest => mergeDescents (descend :: rest)
  | first :: rest => first :: mergeDescents rest
  | [] => []

end NamePattern

namespace PathPattern

/-- The pieces of a pattern between slashes.  A last slash ends the last piece; a pattern without any
piece has one that is empty. -/
def pieces (cs : List Char) : List (List Char) :=
  let all := Split.pieces '/' cs
  let ended := if all.getLast? = some [] then all.dropLast else all
  if ended.isEmpty then [[]] else ended

def parse (text : String) : Except PatternError PathPattern := do
  let cs := text.toList
  let _ ← Wildcard.parse none 0 cs
  let absolute := cs.head? == some '/'
  let names ← (pieces (if absolute then cs.drop 1 else cs)).mapM NamePattern.parse
  return ⟨absolute, NamePattern.mergeDescents names, cs.getLast? == some '/'⟩

end PathPattern

end QuicksortStudy
