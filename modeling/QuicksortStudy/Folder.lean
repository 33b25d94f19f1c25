import QuicksortStudy.Text

/-!
# Folders

The files that a run sees.  A `Location` is a list of names that leads down from the top of the file system, and a
`Folder` holds what is at some locations.  The working directory is one of them, and it is there with all directories
on the way to it.  Paths are texts of limited length; following one gives its location.
-/

namespace QuicksortStudy

/-- The names that lead from the top of the file system to a file or directory. -/
abbrev Location := List String

inductive Entry where
  | directory
  | file (content : List UInt8)
  deriving Repr, DecidableEq

structure Folder where
  home : Location
  /-- Directories that may be entered, but whose names may not be listed. -/
  unlisted : List Location
  entries : List (Location × Entry)
  deriving Repr, DecidableEq

inductive PathError where
  | notFound
  | notDirectory
  | isDirectory
  | tooLong
  /-- The path holds the character that ends paths. -/
  | holdsNul
  deriving Repr, DecidableEq

/-- The words for a path that cannot be used; most of them are those of the operating system. -/
def PathError.message : PathError → String
  | notFound => "No such file or directory (os error 2)"
  | notDirectory => "Not a directory (os error 20)"
  | isDirectory => "Is a directory (os error 21)"
  | tooLong => "File name too long (os error 36)"
  | holdsNul => "file name contained an unexpected NUL byte"

namespace Folder

/-- Whether a location is the working directory or on the way to it. -/
def isLasting (folder : Folder) (location : Location) : Bool := location.isPrefixOf folder.home

def held? (folder : Folder) (location : Location) : Option Entry :=
  if folder.isLasting location then some .directory
  else folder.entries.lookup location

def isDirectory (folder : Folder) (location : Location) : Bool :=
  match folder.held? location with
  | some .directory => true
  | _ => false

/-- The name that leads from a directory on towards the working directory. -/
def wayHome (folder : Folder) (location : Location) : List String :=
  if folder.isLasting location then (folder.home.drop location.length).take 1 else []

/-- The names in a directory, in the order of their code points. -/
def names (folder : Folder) (location : Location) : List String :=
  let inside := folder.entries.filterMap fun (l, _) =>
    if l ≠ [] ∧ l.dropLast = location then l.getLast? else none
  let way := (folder.wayHome location).filter fun name => !inside.contains name
  (way ++ inside).mergeSort fun a b => decide (a ≤ b)

/-- Entries with one put at a location, in place of one that was there or at the end. -/
def putAmong (location : Location) (entry : Entry) : List (Location × Entry) → List (Location × Entry)
  | [] => [(location, entry)]
  | first :: rest =>
    if location = first.1 then (location, entry) :: rest else first :: putAmong location entry rest

def put (folder : Folder) (location : Location) (entry : Entry) : Folder :=
  { folder with entries := putAmong location entry folder.entries }

/-- The bytes that a path has to be shorter than. -/
def pathLimit : Nat := 4096

/-- The bytes that a name can have. -/
def nameLimit : Nat := 255

/-- Follow names from a location.  Every name, also an empty one, needs a directory to start from, and a
name that is too long is refused where it would be looked up.  The top of the file system is above itself. -/
def follow (folder : Folder) : Location → List String → Except PathError Location
  | here, [] => .ok here
  | here, name :: rest =>
    match folder.held? here with
    | none => .error .notFound
    | some (.file _) => .error .notDirectory
    | some .directory =>
      if name = "" ∨ name = "." then folder.follow here rest
      else if name = ".." then folder.follow here.dropLast rest
      else if nameLimit < name.utf8ByteSize then .error .tooLong
      else folder.follow (here ++ [name]) rest

def start (folder : Folder) (path : String) : Except PathError Location :=
  if path.toList.contains '\x00' then .error .holdsNul
  else if path = "" then .error .notFound
  else if pathLimit ≤ path.utf8ByteSize then .error .tooLong
  else .ok (if path.startsWith "/" then [] else folder.home)

def locate (folder : Folder) (path : String) : Except PathError Location := do
  folder.follow (← folder.start path) (Split.text '/' path)

def read (folder : Folder) (path : String) : Except PathError (List UInt8) := do
  match folder.held? (← folder.locate path) with
  | none => .error .notFound
  | some .directory => .error .isDirectory
  | some (.file content) => .ok content

/-- The location at which a file may be written for a path.  A path that ends in a slash names a
directory, whether there is one or not. -/
def writable (folder : Folder) (path : String) : Except PathError Location := do
  let trimmed := (path.toList.reverse.dropWhile (· = '/')).reverse
  let names := Split.text '/' (.ofList trimmed)
  let directory ← folder.follow (← folder.start path) (names.dropLast ++ ["."])
  if trimmed.length < path.length then .error .isDirectory
  else
    let location ← folder.follow directory names.getLast?.toList
    if folder.isDirectory location then .error .isDirectory else .ok location

def write (folder : Folder) (path : String) (content : List UInt8) : Except PathError Folder := do
  return folder.put (← folder.writable path) (.file content)

/-- A path that ends in a name and begins with another path. -/
def joinPath (path name : String) : String :=
  if path = "" ∨ path.endsWith "/" then path ++ name else path ++ "/" ++ name

theorem lookup_putAmong (location : Location) (entry : Entry) (entries : List (Location × Entry)) :
    (putAmong location entry entries).lookup location = some entry := by
  induction entries with
  | nil => exact List.lookup_cons_self
  | cons first rest ih =>
    unfold putAmong
    split
    · exact List.lookup_cons_self
    · rename_i apart
      rcases first with ⟨place, held⟩
      rw [List.lookup_cons, beq_false_of_ne apart]
      exact ih

theorem lookup_putAmong_of_ne {location other : Location} (apart : other ≠ location) (entry : Entry)
    (entries : List (Location × Entry)) :
    (putAmong location entry entries).lookup other = entries.lookup other := by
  induction entries with
  | nil =>
    unfold putAmong
    rw [List.lookup_cons, beq_false_of_ne apart]
  | cons first rest ih =>
    rcases first with ⟨place, held⟩
    unfold putAmong
    split
    · rename_i same
      subst same
      rw [List.lookup_cons, List.lookup_cons, beq_false_of_ne apart]
    · rw [List.lookup_cons, List.lookup_cons, ih]

theorem isLasting_put (folder : Folder) (location : Location) (entry : Entry) (other : Location) :
    (folder.put location entry).isLasting other = folder.isLasting other := rfl

theorem start_put (folder : Folder) (location : Location) (entry : Entry) (path : String) :
    (folder.put location entry).start path = folder.start path := rfl

theorem held?_put (folder : Folder) {location : Location} (free : folder.isLasting location = false)
    (entry : Entry) : (folder.put location entry).held? location = some entry := by
  rw [held?, isLasting_put, free]
  exact lookup_putAmong location entry folder.entries

theorem held?_put_of_ne (folder : Folder) {location other : Location} (apart : other ≠ location)
    (entry : Entry) : (folder.put location entry).held? other = folder.held? other := by
  rw [held?, held?, isLasting_put, put, lookup_putAmong_of_ne apart]

end Folder

end QuicksortStudy
