import QuicksortStudy.CommandLine.Recording
import QuicksortStudy.CommandLine.Plotting
import QuicksortStudy.Log.Filter

/-!
# The program

The first argument names the command and the others are its arguments.  A command sees the files below the working
directory as they are when it starts, and what it changes is written when it ends.  Rows are looked at one after the
other.  Log lines go to standard error.  The exit code is zero for success, one for a command that fails, two for
arguments that start none and 101 for a command that breaks off.
-/

namespace QuicksortStudy.Program

/-- A file or directory of the disk as an entry below a location, with all that is below it, and the directories among
these that cannot be listed. -/
partial def entriesOf (location : Location) (found : IO.FS.DirEntry) :
    IO (List (Location × Entry) × List Location) := do
  let here := location ++ [found.fileName]
  if ← found.path.isDir then
    match ← found.path.readDir.toBaseIO with
    | .error _ => return ([(here, .directory)], [here])
    | .ok listed =>
      let below ← listed.toList.mapM (entriesOf here)
      return ((here, .directory) :: below.flatMap (·.1), below.flatMap (·.2))
  else return ([(here, .file (← IO.FS.readBinFile found.path).toList)], [])

def readFolder : IO Folder := do
  let directory ← IO.currentDir
  let home := (Split.text '/' directory.toString).filter (· ≠ "")
  let below ← (← directory.readDir).toList.mapM (entriesOf home)
  return ⟨home, below.flatMap (·.2), below.flatMap (·.1)⟩

/-- Write the files that differ from those of an earlier folder. -/
def writeChanges (before after : Folder) : IO Unit := do
  for (location, entry) in after.entries do
    match entry with
    | .directory => pure ()
    | .file content =>
      if before.held? location ≠ some entry then
        IO.FS.writeBinFile ("/" ++ "/".intercalate location) content.toByteArray

def readFilter : IO LogFilter := do
  match ← IO.getEnv "RUST_LOG" with
  | some setting => return .parse setting
  | none => return .standard

def showLog (filter : LogFilter) (log : List LogLine) : IO Unit := do
  for line in log.filter filter.shows do
    IO.eprintln line.text

/-- Run a computation and take the time of its sorts. -/
def measure {α : Type} : Bench α → IO α
  | .done result => pure result
  | .endless => throw (.userError "the draws do not end")
  | .warmUp input next => do
    let _ ← IO.lazyPure fun _ => sortInPlace? input
    measure (next ())
  | .timed input next => do
    let start ← IO.monoNanosNow
    let sorted ← IO.lazyPure fun _ => sortInPlace? input
    let stop ← IO.monoNanosNow
    -- Sorting in place never breaks off, so there is a sorted list.
    measure (next (sorted.getD input) (stop - start))

/-- The random stream of a seed; without one, of random bytes. -/
def readStream : Option Nat → IO RandomStream
  | some seed => pure (.ofSeed (.ofNat seed))
  | none => do
    let bytes ← IO.getRandomBytes 8
    return .ofSeed (bytes.toList.foldl (fun seed b => 256 * seed + b.toUInt64) 0)

/-- Write what a command changed and show its result; the result is the exit code. -/
def finish {ε : Type} (message : ε → String) (isFatal : ε → Bool) (filter : LogFilter) (before : Folder)
    (start : Nat) (report : Report ε) : IO UInt32 := do
  showLog filter report.log
  writeChanges before report.folder
  match report.result with
  | .error error =>
    if isFatal error then
      IO.eprintln ("broken off: " ++ message error)
      return 101
    else
      IO.eprintln ("Error: " ++ message error)
      return 1
  | .ok summary =>
    let seconds := Binary64.ofNat ((← IO.monoNanosNow) - start) / 1000000000.0
    IO.println (summary ++ " in " ++ NumberStyle.message.text seconds ++ "s")
    return 0

def usage {σ : Type} (command : String) (options : List (OptionSpec σ)) : String :=
  "Usage: " ++ command ++ String.join (options.map fun option => " [--" ++ option.name ++ " <value>]")

def refuse {σ : Type} (command : String) (options : List (OptionSpec σ)) (error : UsageError) :
    IO UInt32 := do
  if error.isRequest then
    IO.println (usage command options)
    return 0
  else
    IO.eprintln ("error: " ++ error.message)
    IO.eprintln (usage command options)
    return 2

def record (arguments : List String) : IO UInt32 := do
  match RecordingOptions.parse arguments with
  | .error error => refuse "harness" RecordingOptions.specs error
  | .ok options =>
    let start ← IO.monoNanosNow
    let filter ← readFilter
    let stream ← readStream options.seed
    let folder ← readFolder
    let report ← measure (options.run stream folder)
    finish RecordingError.message RecordingError.isFatal filter folder start report

def plot (library : DrawingLibrary) (arguments : List String) : IO UInt32 := do
  match PlottingOptions.parse arguments with
  | .error error => refuse "plotter" PlottingOptions.specs error
  | .ok options =>
    let start ← IO.monoNanosNow
    let filter ← readFilter
    let folder ← readFolder
    finish PlottingError.message PlottingError.isFatal filter folder start (options.run library .inOrder folder)

/-- Run the command that the first argument names, with a library that draws. -/
def main (library : DrawingLibrary) : List String → IO UInt32
  | "harness" :: arguments => record arguments
  | "plotter" :: arguments => plot library arguments
  | _ => do
    IO.eprintln "Usage: harness [options] or plotter [options]"
    return 2

end QuicksortStudy.Program
