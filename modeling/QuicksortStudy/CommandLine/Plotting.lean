import QuicksortStudy.Chart.Gallery
import QuicksortStudy.CommandLine.Arguments
import QuicksortStudy.Results.Load

/-!
# The plotting command

Loads results, takes the reference curves and draws the pictures of a profile.  The first problem ends the
run; nothing is drawn before the results are known to be good.
-/

namespace QuicksortStudy

structure PlottingOptions where
  /-- A results file or a pattern for several. -/
  input : String
  profile : Profile
  /-- The number of rows for each array size, if it differs from that of the profile. -/
  blockSize : Option Nat
  directory : String
  deriving Repr, DecidableEq

inductive PlottingError where
  | load (error : LoadError)
  | blocks (error : BlockError)
  | gallery (error : GalleryError)
  /-- A remainder was asked for where there is none. -/
  | remainderByZero
  deriving Repr, DecidableEq

def PlottingError.message : PlottingError → String
  | load error => error.message
  | blocks error => error.message
  | gallery error => error.message
  | remainderByZero => "attempt to calculate the remainder with a divisor of zero"

def PlottingError.isFatal : PlottingError → Bool
  | gallery error => error.isFatal
  | remainderByZero => true
  | _ => false

namespace PlottingOptions

def standard : PlottingOptions := ⟨resultsFile, .standard, none, "."⟩

def specs : List (OptionSpec PlottingOptions) :=
  [⟨"input", fun text o => .ok { o with input := text }⟩,
    ⟨"profile", fun text o => do
      return { o with profile := ← OptionSpec.named? Profile.name Profile.all text }⟩,
    ⟨"block-size", fun text o => do return { o with blockSize := some (← OptionSpec.word? text) }⟩,
    ⟨"out-dir", fun text o => do return { o with directory := ← OptionSpec.path? text }⟩]

def parse (arguments : List String) : Except UsageError PlottingOptions :=
  ArgumentReader.read specs standard arguments

/-- The number of rows for each array size. -/
def rowsPerSize (o : PlottingOptions) : Nat := o.blockSize.getD o.profile.blockSize

def parsed (o : PlottingOptions) (rows : Nat) : LogLine :=
  ⟨.info, .plotting, "parsed " ++ toString rows ++ " rows from " ++ o.input⟩

/-- The number of rows beyond the last full block; blocks of no rows leave no such number. -/
def remainder? (rows blockSize : Nat) : Option Nat := if blockSize = 0 then none else some (rows % blockSize)

def partialBlock (rows blockSize remainder : Nat) : List LogLine :=
  if remainder = 0 then []
  else [⟨.warn, .plotting, toString rows ++ " rows is not a multiple of the block size " ++
    toString blockSize ++ ", the last block is partial"⟩]

def curves (envelopes : Envelopes) : LogLine :=
  ⟨.info, .plotting, "envelopes: " ++ toString envelopes.worst.length ++ " worst case, " ++
    toString envelopes.best.length ++ " best case points"⟩

def run (o : PlottingOptions) (library : DrawingLibrary) (schedule : Schedule) (folder : Folder) :
    Report PlottingError :=
  let loaded := Samples.load schedule folder o.input
  match loaded.result with
  | .error error => ⟨.error (.load error), folder, loaded.log⟩
  | .ok samples =>
    let log := loaded.log ++ [o.parsed samples.length]
    match samples.envelopes o.rowsPerSize with
    | .error error => ⟨.error (.blocks error), folder, log⟩
    | .ok envelopes =>
      match remainder? samples.length o.rowsPerSize with
      | none => ⟨.error .remainderByZero, folder, log⟩
      | some remainder =>
        let log := log ++ partialBlock samples.length o.rowsPerSize remainder ++ [curves envelopes]
        let drawn := Gallery.draw library o.profile samples envelopes o.rowsPerSize o.directory folder
        let log := log ++ drawn.log
        match drawn.result with
        | .error error => ⟨.error (.gallery error), drawn.folder, log⟩
        | .ok paths => ⟨.ok (toString paths.length ++ " images done"), drawn.folder, log⟩

end PlottingOptions

end QuicksortStudy
