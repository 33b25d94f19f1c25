import Mathlib
import QuicksortStudy.Proofs.Folder.Written

/-!
# Files of one directory

Files that are written into one directory under different names lie beside each other, and to write one of
them takes nothing away from the others.
-/

namespace QuicksortStudy.Folder

/-- A name that leads from a directory to something in it. -/
structure IsFileName (name : String) : Prop where
  plain : '/' ∉ name.toList
  some : name ≠ ""
  notHere : name ≠ "."
  notAbove : name ≠ ".."

instance (name : String) : Decidable (IsFileName name) :=
  decidable_of_iff ('/' ∉ name.toList ∧ name ≠ "" ∧ name ≠ "." ∧ name ≠ "..")
    ⟨fun ⟨plain, filled, notHere, notAbove⟩ => ⟨plain, filled, notHere, notAbove⟩,
      fun ⟨plain, filled, notHere, notAbove⟩ => ⟨plain, filled, notHere, notAbove⟩⟩

/-! ## Names -/

/-- Whatever the name is, the way to a file of a directory begins in the same way. -/
theorem text_joinPath_eq (directory : String) :
    ∃ names, ∀ name, '/' ∉ name.toList → Split.text '/' (joinPath directory name) = names ++ [name] := by
  by_cases some : directory = ""
  · refine ⟨[], fun name plain => ?_⟩
    have joined : joinPath directory name = name := by
      rw [joinPath, if_pos (.inl some), some, String.empty_append]
    rw [joined, Split.text, Split.pieces_of_not_mem plain, List.map_singleton, String.ofList_toList, List.nil_append]
  · cases ends : isOpenEnded directory with
    | true =>
        refine ⟨(Split.text '/' directory).dropLast, fun name plain => ?_⟩
        rcases text_joinPath some plain with ⟨-, names, split, joined⟩ | ⟨closed, -⟩
        · rw [joined, split, List.dropLast_concat]
        · rw [ends] at closed
          cases closed
    | false =>
        refine ⟨Split.text '/' directory, fun name plain => ?_⟩
        rcases text_joinPath some plain with ⟨opened, -⟩ | ⟨-, joined⟩
        · rw [ends] at opened
          cases opened
        · exact joined

/-- The way to a file of a directory begins at the same place, whatever its name is. -/
theorem start_joinPath (folder : Folder) (directory : String) :
    ∃ origin, ∀ name here, IsFileName name → folder.start (joinPath directory name) = .ok here → here = origin := by
  by_cases some : directory = ""
  · refine ⟨folder.home, fun name here isName starts => ?_⟩
    have joined : joinPath directory name = name := by
      rw [joinPath, if_pos (.inl some), some, String.empty_append]
    rw [joined] at starts
    rw [(start_eq starts).2.2.2, if_neg]
    intro slash
    exact isName.plain (List.mem_of_head? slash)
  · refine ⟨if directory.toList.head? = Option.some '/' then [] else folder.home, fun name here isName starts => ?_⟩
    rw [(start_eq starts).2.2.2, head?_joinPath some]

/-- Files of one directory have locations that differ by the name only. -/
theorem exists_base (folder : Folder) (directory : String) :
    ∃ base : Location, ∀ name there, IsFileName name →
      folder.locate (joinPath directory name) = .ok there → there = base ++ [name] := by
  obtain ⟨names, text⟩ := text_joinPath_eq directory
  obtain ⟨origin, begins⟩ := start_joinPath folder directory
  cases way : folder.follow origin names with
  | error error =>
      refine ⟨[], fun name there isName located => ?_⟩
      obtain ⟨here, starts, follows⟩ := locate_ok.mp located
      rw [begins name here isName starts, text name isName.plain, follow_append, way] at follows
      cases follows
  | ok base =>
      refine ⟨base, fun name there isName located => ?_⟩
      obtain ⟨here, starts, follows⟩ := locate_ok.mp located
      rw [begins name here isName starts, text name isName.plain, follow_append, way] at follows
      have last : base.next name = there := Except.ok.inj (follow_cons follows).2.2
      rw [← last, Location.next, if_neg (not_or.mpr ⟨isName.some, isName.notHere⟩), if_neg isName.notAbove]

/-! ## Writing one of several files -/

/-- A file that is put at a location makes no directory anywhere. -/
theorem isDirectory_put {folder : Folder} {location there : Location} (free : folder.isDirectory location = false)
    (other : folder.isDirectory there = false) (content : List UInt8) :
    (folder.put location (.file content)).isDirectory there = false := by
  unfold isDirectory at other ⊢
  by_cases same : there = location
  · rw [same, held?_put folder (isLasting_of_free free)]
  · rw [held?_put_of_ne folder same]
    exact other

/-- A file that is put where no directory is keeps no other file from being written. -/
theorem writable_put {folder : Folder} {path : String} {location there : Location}
    (found : folder.writable path = .ok there) (free : folder.isDirectory location = false) (content : List UInt8) :
    (folder.put location (.file content)).writable path = .ok there := by
  unfold writable at found ⊢
  rw [start_put]
  dsimp only at found ⊢
  cases starts : folder.start path with
  | error error =>
      rw [starts] at found
      cases found
  | ok origin =>
      rw [starts] at found
      dsimp only [bind, Except.bind] at found ⊢
      split at found
      · cases found
      · next directory way =>
          rw [follow_put way free content]
          dsimp only
          split at found
          · cases found
          · next whole =>
              rw [if_neg whole]
              split at found
              · cases found
              · next target last =>
                  rw [follow_put last free content]
                  dsimp only
                  split at found
                  · cases found
                  · next other =>
                      rw [isDirectory_put free (Bool.not_eq_true _ ▸ other) content]
                      exact found

/-- The file at a path, read. -/
theorem read_of_held {folder : Folder} {path : String} {there : Location} {content : List UInt8}
    (located : folder.locate path = .ok there) (held : folder.held? there = some (.file content)) :
    folder.read path = .ok content := by
  unfold read
  rw [located]
  dsimp only [bind, Except.bind]
  rw [held]

end QuicksortStudy.Folder
