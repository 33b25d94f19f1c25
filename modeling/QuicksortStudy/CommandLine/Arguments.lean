import QuicksortStudy.Folder
import QuicksortStudy.Log

/-!
# Commands

Both commands take options with long names and one value each, given as `--name value` or `--name=value`.  Arguments
are read from left to right and the first problem wins.  The value of an option that stands by itself is looked at only
when the next known option comes or the arguments end, so an unknown argument in between is reported instead of a bad
value.
-/

namespace QuicksortStudy

/-- What a command leaves behind: a summary or why there is none, the folder afterwards, and the log. -/
structure Report (ε : Type) where
  result : Except ε String
  folder : Folder
  log : List LogLine

inductive UsageError where
  | unknownArgument
  /-- A missing value, or one that is not among those allowed. -/
  | invalidValue
  /-- A value that is no number of the right kind. -/
  | badNumber
  | tooManyValues
  | repeated
  | help
  | version
  deriving Repr, DecidableEq

def UsageError.isRequest : UsageError → Bool
  | help => true
  | version => true
  | _ => false

/-- The words for arguments that start no run; a request needs none. -/
def UsageError.message : UsageError → String
  | unknownArgument => "there is an unknown argument"
  | invalidValue => "an option lacks a value or has one that is not allowed"
  | badNumber => "an option that takes a number has another value"
  | tooManyValues => "an option that takes no value has one"
  | repeated => "an option is given twice"
  | help => ""
  | version => ""

structure OptionSpec (σ : Type) where
  name : String
  apply : String → σ → Except UsageError σ

namespace OptionSpec

/-- The number in decimal digits, perhaps after a plus sign, if it fits an unsigned word. -/
def word? (text : String) : Except UsageError Nat :=
  let digits : List Char := match text.toList with
    | '+' :: rest => rest
    | cs => cs
  let value : Nat := digits.foldl (fun n c => 10 * n + (c.toNat - '0'.toNat)) 0
  if digits.isEmpty ∨ !digits.all Char.isDigit ∨ UInt64.size ≤ value then .error .badNumber else .ok value

/-- A path, which must not be empty. -/
def path? (text : String) : Except UsageError String :=
  if text = "" then .error .invalidValue else .ok text

def named? {α : Type} (name : α → String) (members : List α) (text : String) : Except UsageError α :=
  match members.find? fun member => name member == text with
  | some member => .ok member
  | none => .error .invalidValue

end OptionSpec

/-- An option whose value is still to be looked at. -/
structure Pending (σ : Type) where
  option : OptionSpec σ
  value : Option String

structure ArgumentReader (σ : Type) where
  settings : σ
  /-- The names of options that are done. -/
  given : List String
  pending : Option (Pending σ)
  /-- Whether options have been ended. -/
  ended : Bool

namespace ArgumentReader

variable {σ : Type}

def assign (r : ArgumentReader σ) (option : OptionSpec σ) (value : String) :
    Except UsageError (ArgumentReader σ) :=
  if r.given.contains option.name then .error .repeated
  else (option.apply value r.settings).map fun settings =>
    { r with settings, given := option.name :: r.given }

def settle (r : ArgumentReader σ) : Except UsageError (ArgumentReader σ) :=
  match r.pending with
  | none => .ok r
  | some ⟨_, none⟩ => .error .invalidValue
  | some ⟨option, some value⟩ => { r with pending := none }.assign option value

/-- Settle what is pending and report a request. -/
def request (r : ArgumentReader σ) (asked : UsageError) : Except UsageError (ArgumentReader σ) := do
  let _ ← r.settle
  .error asked

def long (options : List (OptionSpec σ)) (r : ArgumentReader σ) (cs : List Char) :
    Except UsageError (ArgumentReader σ) := do
  let name := String.ofList (cs.takeWhile (· ≠ '='))
  let value := (cs.dropWhile (· ≠ '=')).tail?.map String.ofList
  match options.find? fun option => option.name == name with
  | some option =>
    let settled ← r.settle
    match value with
    | some value => settled.assign option value
    | none => return { settled with pending := some ⟨option, none⟩ }
  | none =>
    if name = "help" ∨ name = "version" then
      if value.isSome then .error .tooManyValues
      else r.request (if name = "help" then .help else .version)
    else .error .unknownArgument

def word (r : ArgumentReader σ) (argument : String) : Except UsageError (ArgumentReader σ) :=
  match r.pending with
  | some ⟨option, none⟩ => .ok { r with pending := some ⟨option, some argument⟩ }
  | _ => .error .unknownArgument

def step (options : List (OptionSpec σ)) (r : ArgumentReader σ) (argument : String) :
    Except UsageError (ArgumentReader σ) :=
  if r.ended then .error .unknownArgument
  else match argument.toList with
    | ['-', '-'] => .ok { r with ended := true }
    | '-' :: '-' :: cs => r.long options cs
    | '-' :: 'h' :: _ => r.request .help
    | '-' :: 'V' :: _ => r.request .version
    | '-' :: _ :: _ => .error .unknownArgument
    | _ => r.word argument

def read (options : List (OptionSpec σ)) (settings : σ) (arguments : List String) :
    Except UsageError σ := do
  let r ← arguments.foldlM (step options) ⟨settings, [], none, false⟩
  return (← r.settle).settings

end ArgumentReader

end QuicksortStudy
