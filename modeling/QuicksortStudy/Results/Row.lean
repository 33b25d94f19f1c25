import QuicksortStudy.Decimal.Style
import QuicksortStudy.Folder
import QuicksortStudy.Samples
import QuicksortStudy.Text.Quoted

/-!
# Rows

A record is a sample if exactly three of its fields are not empty and these are finite numbers.  The complaints come in
a fixed order: the number of fields, then the first field that is no number, then the first column that is not finite.
A sample is written as a line with a blank between its numbers, which read back as the same doubles.
-/

namespace QuicksortStudy

inductive RowError where
  /-- The number of fields that are not empty, and all fields. -/
  | wrongLength (count : Nat) (fields : List String)
  /-- The number of fields before the one that is no number, empty ones not counted. -/
  | notNumber (index : Nat)
  | notFinite (column : Sample.Column) (value : Float)
  deriving Repr, DecidableEq

def RowError.message : RowError → String
  | wrongLength count fields =>
    "improper row length (" ++ toString count ++ "): " ++ Quoted.list fields
  | notNumber index => "CSV deserialize error: field " ++ toString index ++ ": invalid float literal"
  | notFinite column value => "non-finite " ++ column.name ++ ": " ++ NumberStyle.message.text value

namespace Sample

/-- The number that a field is written as, given how many come before it. -/
def number? (index : Nat) (field : String) : Except RowError Float :=
  match Literal.parse? field with
  | none => .error (.notNumber index)
  | some value => .ok value

/-- A sample of which all columns are finite. -/
def finite? (sample : Sample) : Except RowError Sample :=
  match columns.find? fun column => !(sample.value column).isFinite with
  | some column => .error (.notFinite column (sample.value column))
  | none => .ok sample

def ofFields (fields : List String) : Except RowError Sample :=
  match fields.filter (· ≠ "") with
  | [size, sortedness, time] => do
    finite? ⟨← number? 0 size, ← number? 1 sortedness, ← number? 2 time⟩
  | given => .error (.wrongLength given.length fields)

end Sample

/-! ## Writing -/

inductive WriteError where
  | cannotOpen (path : String) (error : PathError)
  deriving Repr, DecidableEq

def WriteError.message : WriteError → String
  | cannotOpen path error => "couldn't open output file (" ++ path ++ "): " ++ error.message

def Sample.line (sample : Sample) : List Char :=
  NumberStyle.results.write sample.size ++ ' ' :: (NumberStyle.results.write sample.sortedness ++
    ' ' :: (NumberStyle.results.write sample.time ++ ['\n']))

def Samples.text (samples : Samples) : List Char := samples.rows.flatMap Sample.line

/-- The bytes of a results file, which holds ASCII characters only. -/
def Samples.bytes (samples : Samples) : List UInt8 := samples.text.map fun c => c.toNat.toUInt8

/-- The folder after samples are written to a file. -/
def Samples.write (samples : Samples) (path : String) (folder : Folder) : Except WriteError Folder :=
  match folder.write path samples.bytes with
  | .error error => .error (.cannotOpen path error)
  | .ok written => .ok written

def resultsFile : String := "results.csv"

end QuicksortStudy
