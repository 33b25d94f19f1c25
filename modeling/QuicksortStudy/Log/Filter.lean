import QuicksortStudy.Log
import QuicksortStudy.Text.Expression.Reader
import QuicksortStudy.Text

/-!
# Log settings

A setting is a list of directives, separated by commas, and perhaps a regular expression after a slash that
has to fit a part of a message.  A directive is a level, a source, or a source with a level; of all
directives whose source begins the path of a line, the longest decides.  Without any directive only errors
are shown.  What cannot be understood is left out, be it a directive or the expression.
-/

namespace QuicksortStudy

/-- The least urgent rank that is shown; zero shows nothing. -/
abbrev Verbosity := Nat

/-- A verbosity for every source whose path begins with a name. -/
structure Directive where
  name : Option String
  verbosity : Verbosity
  deriving Repr, DecidableEq

structure LogFilter where
  directives : List Directive
  expression : Option Expression

namespace LogFilter

/-- A level name in any case, or `off`. -/
def verbosity? (text : String) : Option Verbosity :=
  match text.toLower with
  | "off" => some 0
  | "error" => some 1
  | "warn" => some 2
  | "info" => some 3
  | "debug" => some 4
  | "trace" => some 5
  | _ => none

def everything : Verbosity := Level.trace.rank

/-- One directive; a bad one is skipped. -/
def directive? (text : String) : Option Directive :=
  match Split.text '=' text with
  | [single] =>
    match verbosity? single with
    | some verbosity => some ⟨none, verbosity⟩
    | none => some ⟨some single, everything⟩
  | [name, level] =>
    let level := Blank.trim level
    if level = "" then some ⟨some name, everything⟩
    else (verbosity? level).map fun verbosity => ⟨some name, verbosity⟩
  | _ => none

/-- A directive joins the others, or takes the place of the one with its name. -/
def insert (directives : List Directive) (d : Directive) : List Directive :=
  if directives.any (fun other => other.name == d.name) then
    directives.map fun other => if other.name == d.name then d else other
  else directives ++ [d]

def parse (setting : String) : LogFilter :=
  match Split.text '/' setting with
  | sources :: expressions =>
    if expressions.length ≤ 1 then
      let texts := (Split.text ',' sources).map Blank.trim
      ⟨((texts.filter (· ≠ "")).filterMap directive?).foldl insert [],
        expressions.head?.bind ExpressionReader.read?⟩
    else ⟨[], none⟩
  | [] => ⟨[], none⟩

def standard : LogFilter := ⟨[⟨none, Level.info.rank⟩], none⟩

/-- How many characters of a path a directive decides on, if it applies. -/
def Directive.reach? (d : Directive) (path : String) : Option Nat :=
  match d.name with
  | none => some 0
  | some name => if name.toList.isPrefixOf path.toList then some name.length else none

/-- The verbosity for a path: that of the farthest reaching directive, the later one of equals. -/
def verbosity (filter : LogFilter) (path : String) : Verbosity :=
  if filter.directives.isEmpty then Level.error.rank
  else
    (filter.directives.foldl (fun best d =>
      match Directive.reach? d path with
      | some reach => if best.1 ≤ reach then (reach, d.verbosity) else best
      | none => best) (0, 0)).2

def shows (filter : LogFilter) (line : LogLine) : Bool :=
  decide (line.level.rank ≤ filter.verbosity line.source.path) &&
    filter.expression.all fun expression => expression.isFoundIn line.message

end LogFilter

end QuicksortStudy
