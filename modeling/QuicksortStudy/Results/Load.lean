import QuicksortStudy.Folder.Matches
import QuicksortStudy.Log
import QuicksortStudy.Results.Record
import QuicksortStudy.Results.Row

/-!
# Loading results

All files that match a pattern are read before any row is looked at.  Then the rows become samples, file by file, and
each file that was good is logged.  The rows of one file are looked at side by side, in an order that changes from run
to run: a `Schedule` says when each of them has its turn.  A bad row ends the loading, and of several bad rows in one
file the one that comes up first is blamed, wherever it stands in the file.
-/

namespace QuicksortStudy

inductive LoadError where
  | badPattern (error : PatternError)
  | cannotList (error : WalkError)
  | cannotOpen (path : String) (error : PathError)
  | unreadable (error : PathError)
  | notText (error : EncodingError)
  | noFile (pattern : String)
  | badRow (path : String) (line : Nat) (error : RowError)
  deriving Repr, DecidableEq

def LoadError.message : LoadError → String
  | badPattern error => error.message
  | cannotList error => error.message
  | cannotOpen path error => "couldn't open results file (" ++ path ++ "): " ++ error.message
  | unreadable error => error.message
  | notText error => error.message
  | noFile pattern => "no results file found matching " ++ Quoted.text pattern
  | badRow path line error =>
    "malformed row in " ++ path ++ " (line " ++ toString line ++ "): " ++ error.message

/-- A results file before its rows are looked at. -/
structure RecordFile where
  path : String
  records : List Record
  deriving Repr, DecidableEq

namespace RecordFile

/-- The file at a path.  A directory can be opened, but not read. -/
def read (folder : Folder) (path : String) : Except LoadError RecordFile :=
  match folder.read path with
  | .error .isDirectory => .error (.unreadable .isDirectory)
  | .error error => .error (.cannotOpen path error)
  | .ok bytes =>
    match Record.readAll bytes with
    | .error error => .error (.notText error)
    | .ok records => .ok ⟨path, records⟩

def readFound (folder : Folder) : Except WalkError Place → Except LoadError RecordFile
  | .error error => .error (.cannotList error)
  | .ok place => read folder place.path

/-- The files that match a pattern, in order; there has to be one. -/
def readAll (folder : Folder) (pattern : String) : Except LoadError (List RecordFile) :=
  match PathPattern.parse pattern with
  | .error error => .error (.badPattern error)
  | .ok parsed =>
    match (folder.walk parsed).mapM (readFound folder) with
    | .error error => .error error
    | .ok [] => .error (.noFile pattern)
    | .ok files => .ok files

end RecordFile

/-! ## Side by side -/

/-- When each row of a file has its turn, by its position. -/
abbrev Schedule := RecordFile → Nat → Nat

/-- One row after the other. -/
def Schedule.inOrder : Schedule := fun _ position => position

namespace Schedule

variable {ε α : Type}

/-- The errors among some results, each with the moment at which it comes up. -/
def errors (moment : Nat → Nat) (results : List (Except ε α)) : List (Nat × ε) :=
  results.zipIdx.filterMap fun
    | (.error error, position) => some (moment position, error)
    | (.ok _, _) => none

/-- The entry with the earliest moment, the first of those that share it. -/
def earliest? : List (Nat × ε) → Option (Nat × ε)
  | [] => none
  | first :: rest =>
    match earliest? rest with
    | none => some first
    | some other => if first.1 ≤ other.1 then some first else some other

/-- All values, or the error that comes up before all others. -/
def collect (moment : Nat → Nat) (results : List (Except ε α)) : Except ε (List α) :=
  match earliest? (errors moment results) with
  | none => .ok (results.filterMap Except.toOption)
  | some (_, error) => .error error

end Schedule

namespace RecordFile

def sample (path : String) (record : Record) : Except LoadError Sample :=
  match Sample.ofFields record.fields with
  | .error error => .error (.badRow path record.line error)
  | .ok sample => .ok sample

def samples (schedule : Schedule) (file : RecordFile) : Except LoadError (List Sample) :=
  Schedule.collect (schedule file) (file.records.map (sample file.path))

def logLine (file : RecordFile) (rows : Nat) : LogLine :=
  ⟨.debug, .results, file.path ++ ": " ++ toString rows ++ " rows"⟩

/-- The samples of files, one after the other. -/
def samplesOf (schedule : Schedule) : List RecordFile → Logged (Except LoadError (List Sample))
  | [] => ⟨.ok [], []⟩
  | file :: rest =>
    match file.samples schedule with
    | .error error => ⟨.error error, []⟩
    | .ok rows =>
      let others := samplesOf schedule rest
      ⟨others.result.map (rows ++ ·), file.logLine rows.length :: others.log⟩

end RecordFile

def Samples.load (schedule : Schedule) (folder : Folder) (pattern : String) : Logged (Except LoadError Samples) :=
  match RecordFile.readAll folder pattern with
  | .error error => ⟨.error error, []⟩
  | .ok files =>
    let loaded := RecordFile.samplesOf schedule files
    ⟨loaded.result.map Samples.ofRows, loaded.log⟩

end QuicksortStudy
