import QuicksortStudy.Folder
import QuicksortStudy.Folder.Pattern

/-!
# The files that match a pattern

Matching walks a pattern name by name through a folder.  Names in a directory are visited in order, and
below a `**` each directory is followed by what it holds.  A name without wildcards is joined to the path
as it stands; it need not be listed, so it may be `.` or `..` or empty.  A pattern name that begins with a
written dot is also tried on `.` and `..`.  A walk that has to list a directory whose names may not be listed comes to
an error there, and goes on behind it.
-/

namespace QuicksortStudy

structure Place where
  path : String
  location : Location
  deriving Repr, DecidableEq

/-- A directory that could not be listed, by its path. -/
structure WalkError where
  path : String
  deriving Repr, DecidableEq

def WalkError.message (error : WalkError) : String :=
  "attempting to read `" ++ error.path ++ "` resulted in an error: Permission denied (os error 13)"

namespace Place

/-- Whether a path is just another way to write the working directory. -/
def isHere (place : Place) : Bool :=
  place.path.startsWith "." && (Split.text '/' place.path).all fun name => name == "" || name == "."

/-- The path of a name in a directory; the working directory itself is left out of it. -/
def pathOf (place : Place) (name : String) : String :=
  if place.isHere then name else Folder.joinPath place.path name

def isUsable (place : Place) : Bool := decide (place.path.utf8ByteSize < Folder.pathLimit)

end Place

structure Listed where
  name : String
  place : Place
  deriving Repr, DecidableEq

def Place.entry (place : Place) (name : String) : Listed :=
  ⟨name, ⟨place.pathOf name, place.location ++ [name]⟩⟩

namespace Folder

/-- The entries of a directory in order; anything else has none. -/
def entriesAt (folder : Folder) (place : Place) : Except WalkError (List Listed) :=
  if folder.isDirectory place.location then
    if folder.unlisted.contains place.location then .error ⟨place.path⟩
    else .ok ((folder.names place.location).map place.entry)
  else .ok []

/-- Everything below a directory, each directory before what it holds. -/
def below (folder : Folder) : Nat → Place → List (Except WalkError Listed)
  | 0, _ => []
  | depth + 1, place =>
    match folder.entriesAt place with
    | .error error => [.error error]
    | .ok entries => entries.flatMap fun entry => .ok entry :: folder.below depth entry.place

/-- Everything below a directory.  No entry lies deeper than there are entries and directories that are always
there. -/
def everythingBelow (folder : Folder) (place : Place) : List (Except WalkError Listed) :=
  folder.below (folder.entries.length + folder.home.length + 1) place

def isOpen (folder : Folder) (place : Place) : Bool := place.isUsable && folder.isDirectory place.location

/-- The place that a name without wildcards leads to, if there is one. -/
def step? (folder : Folder) (place : Place) (name : String) : Option Place :=
  let inDirectory := folder.isOpen place
  let path := place.pathOf name
  if name = "." then if inDirectory then some ⟨path, place.location⟩ else none
  else if name = ".." then if inDirectory then some ⟨path, place.location.dropLast⟩ else none
  else
    let next : Place := ⟨path, if name = "" then place.location else place.location ++ [name]⟩
    let isThere := if name = "" then !place.isHere else (folder.held? next.location).isSome
    if inDirectory ∧ isThere ∧ next.isUsable then some next else none

/-- The places `..` and `.` in a directory, as far as a pattern name with a written dot fits them. -/
def dotPlaces (place : Place) (parts : List Wildcard) : List Place :=
  match parts with
  | .literal '.' :: _ =>
    let up : Place := ⟨joinPath place.path "..", place.location.dropLast⟩
    let here : Place := ⟨joinPath place.path ".", place.location⟩
    (if Wildcard.accepts parts "..".toList then [up] else []) ++
      (if Wildcard.accepts parts ".".toList then [here] else [])
  | _ => []

/-- What a walk along names comes to from a directory, in order. -/
def expand (folder : Folder) (directoriesOnly : Bool) : List NamePattern → Place → List (Except WalkError Place)
  | [], place => if directoriesOnly ∧ !folder.isOpen place then [] else [.ok place]
  | [.descend], place =>
    (folder.everythingBelow place).filterMap fun
      | .error error => some (.error error)
      | .ok entry => if folder.isDirectory entry.place.location then some (.ok entry.place) else none
  | .descend :: name :: rest, place =>
    (folder.everythingBelow place).flatMap fun
      | .error error => [.error error]
      | .ok entry => if name.accepts entry.name then folder.expand directoriesOnly rest entry.place else []
  | .name parts :: rest, place =>
    match Wildcard.literalName? parts with
    | some name =>
      match folder.step? place (.ofList name) with
      | some next => folder.expand directoriesOnly rest next
      | none => []
    | none =>
      if folder.isOpen place then
        match folder.entriesAt place with
        | .error error => [.error error]
        | .ok entries =>
          let fitting := entries.filter fun entry => Wildcard.accepts parts entry.name.toList
          (dotPlaces place parts ++ fitting.map (·.place)).flatMap (folder.expand directoriesOnly rest)
      else []

def walk (folder : Folder) (pattern : PathPattern) : List (Except WalkError Place) :=
  let start : Place := if pattern.absolute then ⟨"/", []⟩ else ⟨".", folder.home⟩
  folder.expand pattern.directoriesOnly pattern.names start

end Folder

end QuicksortStudy
