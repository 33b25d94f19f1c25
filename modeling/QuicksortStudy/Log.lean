/-!
# Log lines

What a run reports besides its result: lines with a level and the part of the program they come from.
A step that can fail keeps the lines it had written before, so the log stands beside the result and not
inside it.
-/

namespace QuicksortStudy

/-- The levels of log lines, the most urgent first. -/
inductive Level where
  | error
  | warn
  | info
  | debug
  | trace
  deriving Repr, DecidableEq

inductive LogSource where
  | results
  | recording
  | plotting
  | charts
  deriving Repr, DecidableEq

structure LogLine where
  level : Level
  source : LogSource
  message : String
  deriving Repr, DecidableEq

/-- A result together with the lines written on the way to it. -/
structure Logged (α : Type) where
  result : α
  log : List LogLine

namespace Level

def rank : Level → Nat
  | error => 1
  | warn => 2
  | info => 3
  | debug => 4
  | trace => 5

def name : Level → String
  | error => "ERROR"
  | warn => "WARN"
  | info => "INFO"
  | debug => "DEBUG"
  | trace => "TRACE"

end Level

/-- The path that names a source in log settings. -/
def LogSource.path : LogSource → String
  | results => "lib"
  | recording => "harness"
  | plotting => "plotter"
  | charts => "plotter::render"

def LogLine.text (line : LogLine) : String := line.level.name ++ " " ++ line.message

end QuicksortStudy
