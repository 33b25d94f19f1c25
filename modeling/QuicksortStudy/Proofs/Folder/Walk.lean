import Mathlib
import QuicksortStudy.Proofs.Folder.PlainPattern

/-!
# Walking and following

A path can be followed name by name, and it can be walked as a pattern without wildcards, which joins the
names to a new path on the way.  Both lead to the same location, and the new path leads there too, except
that no walk gets past an empty name as long as it stands in the working directory.
-/

namespace QuicksortStudy

/-! ## Joined paths -/

namespace Folder

theorem startsWith_eq (path : String) (c : Char) :
    path.startsWith (String.singleton c) = (path.toList.head? == some c) := by
  rw [Bool.eq_iff_iff, String.startsWith_string_iff, String.toList_singleton, beq_iff_eq]
  cases path.toList with
  | nil => simp
  | cons d rest => simp [eq_comm]

theorem endsWith_eq (path : String) (c : Char) :
    path.endsWith (String.singleton c) = (path.toList.getLast? == some c) := by
  rw [Bool.eq_iff_iff, ← String.endsWith_toSlice, String.Slice.endsWith_string_iff, String.toList_singleton, beq_iff_eq,
    String.copy_toSlice]
  constructor
  · rintro ⟨front, same⟩
    rw [← same, List.getLast?_append]
    rfl
  · intro last
    obtain ⟨front, same⟩ := List.getLast?_eq_some_iff.mp last
    exact ⟨front, same.symm⟩

/-- Whether a path has to be ended by a slash before a name can be joined to it. -/
def isOpenEnded (path : String) : Bool := path.toList.getLast? == some '/'

theorem joinPath_eq {path : String} (some : path ≠ "") (name : String) :
    joinPath path name = if isOpenEnded path then path ++ name else path ++ "/" ++ name := by
  have ends := endsWith_eq path '/'
  unfold joinPath isOpenEnded
  rw [← ends]
  simp [some]

/-- The names of a joined path: an empty last name gives way to the new one. -/
theorem text_joinPath {path name : String} (some : path ≠ "") (plain : '/' ∉ name.toList) :
    (isOpenEnded path = true ∧ ∃ names, Split.text '/' path = names ++ [""] ∧
        Split.text '/' (joinPath path name) = names ++ [name]) ∨
      (isOpenEnded path = false ∧ Split.text '/' (joinPath path name) = Split.text '/' path ++ [name]) := by
  have last : (Split.pieces '/' name.toList).map String.ofList = [name] := by
    rw [Split.pieces_of_not_mem plain, List.map_cons, String.ofList_toList, List.map_nil]
  rw [joinPath_eq some]
  unfold Split.text
  cases ended : isOpenEnded path with
  | true =>
      obtain ⟨front, split⟩ := List.getLast?_eq_some_iff.mp (eq_of_beq ended)
      refine .inl ⟨rfl, (Split.pieces '/' front).map String.ofList, ?_, ?_⟩
      · rw [split, Split.pieces_append, List.map_append]
        rfl
      · rw [if_pos rfl, String.toList_append, split, List.append_assoc, List.singleton_append,
          Split.pieces_append, List.map_append, last]
  | false =>
      refine .inr ⟨rfl, ?_⟩
      rw [if_neg Bool.false_ne_true, String.toList_append, String.toList_append, List.append_assoc]
      have slash : "/".toList ++ name.toList = '/' :: name.toList := rfl
      rw [slash, Split.pieces_append, List.map_append, last]

theorem head?_joinPath {path : String} (some : path ≠ "") (name : String) :
    (joinPath path name).toList.head? = path.toList.head? := by
  have some' : path.toList ≠ [] := fun empty => some (String.toList_eq_nil_iff.mp empty)
  rw [joinPath_eq some]
  split
  · rw [String.toList_append, List.head?_append_of_ne_nil _ some']
  · rw [String.toList_append, String.toList_append, List.append_assoc, List.head?_append_of_ne_nil _ some']

theorem mem_joinPath {path name : String} {c : Char} (some : path ≠ "")
    (member : c ∈ (joinPath path name).toList) : c ∈ path.toList ∨ c = '/' ∨ c ∈ name.toList := by
  rw [joinPath_eq some] at member
  split at member
  · rw [String.toList_append, List.mem_append] at member
    rcases member with first | second
    · exact .inl first
    · exact .inr (.inr second)
  · rw [String.toList_append, String.toList_append, List.mem_append, List.mem_append] at member
    rcases member with (first | slash) | second
    · exact .inl first
    · exact .inr (.inl (List.mem_singleton.mp slash))
    · exact .inr (.inr second)

/-! ## Following -/

theorem follow_append (folder : Folder) (here : Location) (names more : List String) :
    folder.follow here (names ++ more) = (folder.follow here names).bind fun there => folder.follow there more := by
  induction names generalizing here with
  | nil => rfl
  | cons name rest ih =>
      rw [List.cons_append, follow, follow]
      cases folder.held? here with
      | none => rfl
      | some entry =>
          cases entry with
          | file content => rfl
          | directory =>
              dsimp only
              split
              · exact ih here
              · split
                · exact ih here.dropLast
                · split
                  · rfl
                  · exact ih (here ++ [name])

end Folder

namespace Location

/-- The location that a name leads to. -/
def next (here : Location) (name : String) : Location :=
  if name = "" ∨ name = "." then here else if name = ".." then here.dropLast else here ++ [name]

end Location

namespace Folder

/-- A name needs a directory, and the way goes on from the location that it leads to. -/
theorem follow_cons {folder : Folder} {here there : Location} {name : String} {rest : List String}
    (follows : folder.follow here (name :: rest) = .ok there) :
    folder.isDirectory here = true ∧ folder.follow here [name] = .ok (here.next name) ∧
      folder.follow (here.next name) rest = .ok there := by
  rw [follow] at follows ⊢
  unfold isDirectory Location.next
  cases held : folder.held? here with
  | none =>
      rw [held] at follows
      cases follows
  | some entry =>
      rw [held] at follows
      cases entry with
      | file content => cases follows
      | directory =>
          dsimp only at follows ⊢
          refine ⟨rfl, ?_⟩
          split at follows
          · next stays => exact ⟨by rw [if_pos stays, if_pos stays]; rfl, by rw [if_pos stays]; exact follows⟩
          · next moves =>
              rw [if_neg moves, if_neg moves]
              split at follows
              · next up => exact ⟨by rw [if_pos up, if_pos up]; rfl, by rw [if_pos up]; exact follows⟩
              · next down =>
                  rw [if_neg down, if_neg down]
                  split at follows
                  · cases follows
                  · next short => exact ⟨by rw [if_neg short]; rfl, follows⟩

/-- An empty last name leads nowhere else. -/
theorem follow_of_follow_empty {folder : Folder} {here there : Location} {names : List String}
    (follows : folder.follow here (names ++ [""]) = .ok there) : folder.follow here names = .ok there := by
  rw [follow_append] at follows
  cases first : folder.follow here names with
  | error error =>
      rw [first] at follows
      cases follows
  | ok middle =>
      rw [first] at follows
      have last := (@follow_cons folder middle there "" [] follows).2.2
      exact last

/-! ## Locating -/

theorem start_eq {folder : Folder} {path : String} {here : Location} (starts : folder.start path = .ok here) :
    '\x00' ∉ path.toList ∧ path ≠ "" ∧ path.utf8ByteSize < pathLimit ∧
      here = if path.toList.head? = some '/' then [] else folder.home := by
  unfold start at starts
  split at starts
  · cases starts
  · next nulFree =>
      split at starts
      · cases starts
      · next some =>
          split at starts
          · cases starts
          · next short =>
              have begins : path.startsWith "/" = (path.toList.head? == Option.some '/') :=
                  startsWith_eq path '/'
              refine ⟨fun member => nulFree (List.contains_iff_mem.mpr member), some, Nat.lt_of_not_le short, ?_⟩
              rw [begins] at starts
              cases starts
              simp only [beq_iff_eq]

theorem start_of {folder : Folder} {path : String} (nulFree : '\x00' ∉ path.toList) (some : path ≠ "")
    (short : path.utf8ByteSize < pathLimit) :
    folder.start path = .ok (if path.toList.head? = Option.some '/' then [] else folder.home) := by
  have begins : path.startsWith "/" = (path.toList.head? == Option.some '/') := startsWith_eq path '/'
  have free : path.toList.contains '\x00' = false := by
    rw [← Bool.not_eq_true, List.contains_iff_mem]
    exact nulFree
  unfold start
  rw [free, if_neg Bool.false_ne_true, if_neg some, if_neg (Nat.not_le.mpr short), begins]
  simp only [beq_iff_eq]

theorem locate_ok {folder : Folder} {path : String} {there : Location} :
    folder.locate path = .ok there ↔
      ∃ here, folder.start path = .ok here ∧ folder.follow here (Split.text '/' path) = .ok there := by
  unfold locate
  cases folder.start path with
  | error error => simp [bind, Except.bind]
  | ok here => simp [bind, Except.bind]

/-- A path with a name joined to it leads to where the name leads from where the path leads. -/
theorem locate_joinPath {folder : Folder} {path name : String} {here there : Location}
    (located : folder.locate path = .ok here) (plain : '/' ∉ name.toList) (nulFree : '\x00' ∉ name.toList)
    (short : (joinPath path name).utf8ByteSize < pathLimit) (follows : folder.follow here [name] = .ok there) :
    folder.locate (joinPath path name) = .ok there := by
  obtain ⟨origin, starts, way⟩ := locate_ok.mp located
  obtain ⟨nulFree', some, -, rfl⟩ := start_eq starts
  have some' : joinPath path name ≠ "" := by
    intro empty
    have first := head?_joinPath some name
    rw [empty] at first
    exact some (String.toList_eq_nil_iff.mp (List.head?_eq_none_iff.mp first.symm))
  have free : '\x00' ∉ (joinPath path name).toList := by
    intro member
    rcases mem_joinPath some member with inPath | slash | inName
    · exact nulFree' inPath
    · cases slash
    · exact nulFree inName
  refine locate_ok.mpr ⟨_, start_of free some' short, ?_⟩
  rw [head?_joinPath some]
  rcases text_joinPath some plain with ⟨-, names, before, after⟩ | ⟨-, after⟩
  · rw [before] at way
    rw [after, follow_append, follow_of_follow_empty way]
    exact follows
  · rw [after, follow_append, way]
    exact follows

end Folder

/-! ## Places -/

namespace Place

theorem isHere_eq (place : Place) : place.isHere = ((place.path.toList.head? == some '.') &&
    (Split.text '/' place.path).all fun name => name == "" || name == ".") := by
  have begins : place.path.startsWith "." = (place.path.toList.head? == some '.') :=
    Folder.startsWith_eq place.path '.'
  unfold isHere
  rw [begins]

theorem isHere_dot (location : Location) : isHere ⟨".", location⟩ = true := by
  rw [isHere_eq]
  simp [Split.text, Split.pieces]

theorem isHere_slash (location : Location) : isHere ⟨"/", location⟩ = false := by
  rw [isHere_eq]
  simp

/-- A proper name is never just another way to write the working directory. -/
theorem isHere_name {name : String} (plain : '/' ∉ name.toList) (some : name ≠ "") (proper : name ≠ ".")
    (location : Location) : isHere ⟨name, location⟩ = false := by
  rw [isHere_eq, Split.text, Split.pieces_of_not_mem plain, List.map_cons, String.ofList_toList]
  simp [some, proper]

/-- Joining a name never leads back to the working directory. -/
theorem isHere_joinPath {place : Place} (away : place.isHere = false) (some : place.path ≠ "") {name : String}
    (plain : '/' ∉ name.toList) (location : Location) :
    isHere ⟨Folder.joinPath place.path name, location⟩ = false := by
  rw [isHere_eq, Bool.and_eq_false_iff] at away ⊢
  dsimp only
  rw [Folder.head?_joinPath some]
  rcases away with start | away
  · exact .inl start
  · right
    rw [← Bool.not_eq_true, List.all_eq_true] at away ⊢
    rcases Folder.text_joinPath some plain with ⟨-, names, before, after⟩ | ⟨-, after⟩
    · rw [before] at away
      rw [after]
      intro all
      apply away
      intro other member
      rcases List.mem_append.mp member with inNames | last
      · exact all other (List.mem_append_left _ inNames)
      · rw [List.mem_singleton.mp last]
        rfl
    · rw [after]
      exact fun all => away fun other member => all other (List.mem_append_left _ member)

/-- The bytes of a path that names are joined to, with the slash that goes before the next one. -/
def cost (place : Place) : Nat :=
  if place.isHere then 0
  else if Folder.isOpenEnded place.path then place.path.utf8ByteSize
  else place.path.utf8ByteSize + 1

theorem size_pathOf {place : Place} (some : place.path ≠ "") (name : String) :
    (place.pathOf name).utf8ByteSize = place.cost + name.utf8ByteSize := by
  unfold pathOf cost
  split
  · rw [Nat.zero_add]
  · rw [Folder.joinPath_eq some]
    split
    · rw [String.utf8ByteSize_append]
    · rw [String.utf8ByteSize_append, String.utf8ByteSize_append]
      rfl

theorem cost_le (place : Place) : place.cost ≤ place.path.utf8ByteSize + 1 := by
  unfold cost
  split
  · exact Nat.zero_le _
  · split
    · exact Nat.le_succ _
    · exact Nat.le_refl _

end Place

/-! ## Walking -/

namespace Folder

/-- A name as a path without wildcards has it. -/
structure ProperName (name : String) : Prop where
  plain : '/' ∉ name.toList
  nulFree : '\x00' ∉ name.toList

/-- A place on the way along some names that are left: its path leads to it, and stays short enough until
all names are joined to it. -/
structure Walks (folder : Folder) (place : Place) (rest : List String) : Prop where
  located : folder.locate place.path = .ok place.location
  here : place.isHere = true → place.path = "."
  budget : place.cost + (rest.map fun name => name.utf8ByteSize + 1).sum ≤ pathLimit

/-- Names of which an empty one follows directly on names of the working directory. -/
def emptyAfterHere : List String → Bool
  | "." :: "" :: _ => true
  | "." :: rest => emptyAfterHere rest
  | _ => false

theorem emptyAfterHere_dot {name : String} (some : name ≠ "") (rest : List String) :
    emptyAfterHere ("." :: name :: rest) = emptyAfterHere (name :: rest) := by
  rw [emptyAfterHere]
  rintro _ same
  exact some (List.cons.inj same).1

theorem emptyAfterHere_of_ne {name : String} (other : name ≠ ".") (rest : List String) :
    emptyAfterHere (name :: rest) = false := by
  rw [emptyAfterHere]
  · rintro _ same
    exact other (List.cons.inj same).1
  · rintro _ same
    exact other (List.cons.inj same).1

theorem held?_of_isLasting {folder : Folder} {location : Location} (lasting : folder.isLasting location = true) :
    folder.held? location = some .directory := by
  rw [held?, if_pos lasting]

theorem isLasting_home (folder : Folder) : folder.isLasting folder.home = true :=
  List.isPrefixOf_iff_prefix.mpr (List.prefix_refl folder.home)

theorem isLasting_top (folder : Folder) : folder.isLasting [] = true :=
  List.isPrefixOf_iff_prefix.mpr List.nil_prefix

theorem locate_dot (folder : Folder) : folder.locate "." = .ok folder.home := by
  have starts := @start_of folder "." (by simp) (by simp) (by decide)
  have directory := held?_of_isLasting folder.isLasting_home
  refine locate_ok.mpr ⟨folder.home, ?_, ?_⟩
  · rw [starts]
    simp
  · have names : Split.text '/' "." = ["."] := by simp [Split.text, Split.pieces]
    rw [names, follow, directory]
    simp [follow]

theorem locate_slash (folder : Folder) : folder.locate "/" = .ok [] := by
  have starts := @start_of folder "/" (by simp) (by simp) (by decide)
  have directory := held?_of_isLasting folder.isLasting_top
  refine locate_ok.mpr ⟨[], ?_, ?_⟩
  · rw [starts]
    simp
  · have names : Split.text '/' "/" = ["", ""] := by simp [Split.text, Split.pieces]
    rw [names, follow, directory]
    simp [follow, directory]

theorem locate_name {folder : Folder} {name : String} {there : Location} (proper : ProperName name)
    (some : name ≠ "") (short : name.utf8ByteSize < pathLimit)
    (follows : folder.follow folder.home [name] = .ok there) :
    folder.locate name = .ok there := by
  have relative : name.toList.head? ≠ Option.some '/' := fun slash => proper.plain (List.mem_of_mem_head? slash)
  refine locate_ok.mpr ⟨folder.home, ?_, ?_⟩
  · rw [start_of proper.nulFree some short, if_neg relative]
  · rw [Split.text, Split.pieces_of_not_mem proper.plain, List.map_cons, String.ofList_toList]
    exact follows

theorem isSome_held?_of_follow {folder : Folder} {here there : Location} {names : List String}
    (follows : folder.follow here names = .ok there) (held : (folder.held? there).isSome = true) :
    (folder.held? here).isSome = true := by
  cases names with
  | nil =>
      cases follows
      exact held
  | cons name rest =>
      have directory := (follow_cons follows).1
      unfold isDirectory at directory
      cases found : folder.held? here with
      | none =>
          rw [found] at directory
          cases directory
      | some entry => rfl

section step

variable {folder : Folder} {place : Place} {name : String} {rest : List String} {there : Location}

/-- Where a walk comes to with a name, and by which path. -/
def nextPlace (place : Place) (name : String) : Place := ⟨place.pathOf name, place.location.next name⟩

theorem Walks.path_ne_empty (walks : Walks folder place rest) : place.path ≠ "" := by
  obtain ⟨origin, starts, -⟩ := locate_ok.mp walks.located
  exact (start_eq starts).2.1

theorem Walks.isUsable (walks : Walks folder place rest) : place.isUsable = true := by
  obtain ⟨origin, starts, -⟩ := locate_ok.mp walks.located
  exact decide_eq_true (start_eq starts).2.2.1

theorem Walks.size_pathOf_lt (walks : Walks folder place (name :: rest)) :
    (place.pathOf name).utf8ByteSize < pathLimit := by
  have budget := walks.budget
  rw [List.map_cons, List.sum_cons] at budget
  rw [Place.size_pathOf walks.path_ne_empty]
  omega

theorem Walks.isHere_nextPlace (walks : Walks folder place (name :: rest)) (proper : ProperName name)
    (past : place.isHere = true → name ≠ "") (here : (nextPlace place name).isHere = true) :
    place.isHere = true ∧ name = "." := by
  cases away : place.isHere with
  | true =>
      refine ⟨rfl, ?_⟩
      by_contra other
      unfold nextPlace Place.pathOf at here
      rw [if_pos away, Place.isHere_name proper.plain (past away) other] at here
      cases here
  | false =>
      unfold nextPlace Place.pathOf at here
      rw [away, if_neg Bool.false_ne_true, Place.isHere_joinPath away walks.path_ne_empty proper.plain] at here
      cases here

theorem Walks.locate_nextPlace (walks : Walks folder place (name :: rest)) (proper : ProperName name)
    (past : place.isHere = true → name ≠ "")
    (follows : folder.follow place.location [name] = .ok (place.location.next name)) :
    folder.locate (nextPlace place name).path = .ok (nextPlace place name).location := by
  have short := walks.size_pathOf_lt
  unfold nextPlace
  dsimp only
  unfold Place.pathOf at short ⊢
  cases away : place.isHere with
  | true =>
      have located := walks.located
      rw [walks.here away, locate_dot] at located
      rw [← Except.ok.inj located] at follows ⊢
      rw [away, if_pos rfl] at short
      rw [if_pos rfl]
      exact locate_name proper (past away) short follows
  | false =>
      rw [away, if_neg Bool.false_ne_true] at short
      rw [if_neg Bool.false_ne_true]
      exact locate_joinPath walks.located proper.plain proper.nulFree short follows

theorem Walks.next (walks : Walks folder place (name :: rest)) (proper : ProperName name)
    (past : place.isHere = true → name ≠ "")
    (follows : folder.follow place.location [name] = .ok (place.location.next name)) :
    Walks folder (nextPlace place name) rest := by
  refine ⟨walks.locate_nextPlace proper past follows, ?_, ?_⟩
  · intro here
    obtain ⟨stays, dot⟩ := walks.isHere_nextPlace proper past here
    unfold nextPlace Place.pathOf
    rw [if_pos stays]
    exact dot
  · have budget := walks.budget
    have most := (nextPlace place name).cost_le
    have size : (nextPlace place name).path.utf8ByteSize = _ := Place.size_pathOf walks.path_ne_empty name
    rw [List.map_cons, List.sum_cons] at budget
    omega

/-- A walk gets past every name that can be followed, but not past an empty one in the working directory. -/
theorem step?_of_follow (walks : Walks folder place (name :: rest)) (past : place.isHere = true → name ≠ "")
    (follows : folder.follow place.location (name :: rest) = .ok there)
    (held : (folder.held? there).isSome = true) : folder.step? place name = some (nextPlace place name) := by
  obtain ⟨directory, -, more⟩ := follow_cons follows
  have opens : folder.isOpen place = true := by rw [isOpen, walks.isUsable, directory, Bool.and_true]
  have usable : (nextPlace place name).isUsable = true := decide_eq_true walks.size_pathOf_lt
  have found := isSome_held?_of_follow more held
  unfold step? nextPlace at *
  unfold Location.next at *
  dsimp only
  rw [opens]
  split
  · next dot => simp [dot]
  · next notDot =>
      split
      · next up => simp [up]
      · next notUp =>
          rw [if_neg notUp] at usable found
          by_cases empty : name = ""
          · have away : place.isHere = false := by
              rw [← Bool.not_eq_true]
              exact fun here => past here empty
            rw [if_pos (.inl empty)] at usable
            rw [if_pos empty, if_pos empty, away, if_pos ⟨rfl, rfl, usable⟩, if_pos (Or.inl empty)]
          · have moves : ¬(name = "" ∨ name = ".") := not_or.mpr ⟨empty, notDot⟩
            rw [if_neg moves] at usable found ⊢
            rw [if_neg empty, if_neg empty, if_pos ⟨rfl, found, usable⟩]

end step

/-- Names that can be followed to something can be walked to it, by a path that leads there. -/
theorem walk?_of_follow {folder : Folder} {names : List String} {place : Place} {there : Location}
    (walks : Walks folder place names) (proper : ∀ name ∈ names, ProperName name)
    (past : place.isHere = true → emptyAfterHere ("." :: names) = false)
    (follows : folder.follow place.location names = .ok there) (held : (folder.held? there).isSome = true) :
    ∃ last, folder.walk? names place = some last ∧ last.location = there ∧
      folder.locate last.path = .ok there := by
  induction names generalizing place with
  | nil =>
      cases follows
      exact ⟨place, rfl, rfl, walks.located⟩
  | cons name rest ih =>
      have first := proper name (List.mem_cons_self ..)
      have filled : place.isHere = true → name ≠ "" := by
        intro here empty
        have free := past here
        rw [empty] at free
        cases free
      obtain ⟨-, one, more⟩ := follow_cons follows
      have past' : (nextPlace place name).isHere = true → emptyAfterHere ("." :: rest) = false := by
        intro here
        obtain ⟨stays, dot⟩ := walks.isHere_nextPlace first filled here
        have free := past stays
        rw [dot] at free
        exact free
      obtain ⟨last, walked, location, located⟩ := ih (walks.next first filled one)
        (fun other member => proper other (List.mem_cons_of_mem name member)) past' more
      refine ⟨last, ?_, location, located⟩
      rw [walk?, step?_of_follow walks filled follows held]
      exact walked

/-- No walk gets past an empty name in the working directory. -/
theorem walk?_of_emptyAfterHere (folder : Folder) {names : List String} {place : Place}
    (here : place.path = ".") (blocked : emptyAfterHere ("." :: names) = true) :
    folder.walk? names place = none := by
  have isHere : place.isHere = true := by
    rcases place with ⟨path, location⟩
    cases here
    exact Place.isHere_dot location
  induction names generalizing place with
  | nil => cases blocked
  | cons name rest ih =>
      rw [walk?]
      by_cases empty : name = ""
      · have stuck : folder.step? place name = none := by
          unfold step?
          rw [empty]
          simp [isHere]
        rw [stuck]
        rfl
      · by_cases dot : name = "."
        · rw [dot] at blocked ⊢
          cases stepped : folder.step? place "." with
          | none => rfl
          | some next =>
              have path : next.path = "." := by
                unfold step? Place.pathOf at stepped
                rw [if_pos rfl, isHere, if_pos rfl] at stepped
                split at stepped
                · cases stepped
                  rfl
                · cases stepped
              refine ih path blocked ?_
              rcases next with ⟨path', location⟩
              cases path
              exact Place.isHere_dot location
        · rw [emptyAfterHere_dot empty, emptyAfterHere_of_ne dot] at blocked
          cases blocked

end Folder

end QuicksortStudy
