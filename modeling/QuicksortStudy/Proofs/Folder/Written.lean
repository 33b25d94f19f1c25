import Mathlib
import QuicksortStudy.Proofs.Folder.Walk

/-!
# Written files found again

A file that was written at a path is there afterwards.  When no wildcard is written in the path, the path
as a pattern matches that file alone, by a path that leads to it; the one exception is a path with an empty
name directly after the working directory, which matches nothing.
-/

namespace QuicksortStudy.Folder

/-! ## Writing -/

theorem length_dropWhile_reverse {cs : List Char} {p : Char → Bool}
    (whole : ¬((cs.reverse.dropWhile p).reverse.length < cs.length)) :
    (cs.reverse.dropWhile p).reverse = cs := by
  have suffix := List.dropWhile_suffix p (l := cs.reverse)
  have same : cs.reverse.dropWhile p = cs.reverse := by
    apply suffix.eq_of_length_le
    simpa only [List.length_reverse, Nat.not_lt] using whole
  rw [same, List.reverse_reverse]

theorem getLast?_of_dropWhile_reverse {cs : List Char} (whole : (cs.reverse.dropWhile (· = '/')).reverse = cs) :
    cs.getLast? ≠ some '/' := by
  intro last
  obtain ⟨front, split⟩ := List.getLast?_eq_some_iff.mp last
  have longer := congrArg List.length whole
  rw [split, List.reverse_append, List.reverse_singleton, List.singleton_append,
    List.dropWhile_cons_of_pos (by decide), List.length_reverse, List.length_append] at longer
  have shorter := (List.dropWhile_sublist (· = '/') (l := front.reverse)).length_le
  rw [List.length_reverse] at shorter
  rw [List.length_singleton] at longer
  omega

theorem follow_dot {folder : Folder} {here there : Location} {names : List String}
    (follows : folder.follow here (names ++ ["."]) = .ok there) : folder.follow here names = .ok there := by
  rw [follow_append] at follows
  cases first : folder.follow here names with
  | error error =>
      rw [first] at follows
      cases follows
  | ok middle =>
      rw [first] at follows
      exact (@follow_cons folder middle there "." [] follows).2.2

/-- A path that may be written at leads to where the file is put, which is no directory. -/
theorem writable_ok {folder : Folder} {path : String} {there : Location}
    (found : folder.writable path = .ok there) :
    folder.locate path = .ok there ∧ folder.isDirectory there = false ∧ path.toList.getLast? ≠ some '/' := by
  unfold writable at found
  dsimp only at found
  cases starts : folder.start path with
  | error error =>
      rw [starts] at found
      cases found
  | ok origin =>
      rw [starts] at found
      dsimp only [bind, Except.bind] at found
      split at found
      · cases found
      · next directory way =>
          split at found
          · cases found
          · next whole =>
              have trimmed := length_dropWhile_reverse whole
              rw [trimmed, String.ofList_toList] at found way
              split at found
              · cases found
              · next location last =>
                  split at found
                  · cases found
                  · next free =>
                      cases found
                      refine ⟨locate_ok.mpr ⟨origin, starts, ?_⟩, Bool.not_eq_true _ ▸ free,
                        getLast?_of_dropWhile_reverse trimmed⟩
                      have names : (Split.text '/' path).dropLast ++ (Split.text '/' path).getLast?.toList =
                          Split.text '/' path := by
                        have some : Split.text '/' path ≠ [] := fun empty =>
                          Split.pieces_ne_nil '/' path.toList (List.map_eq_nil_iff.mp empty)
                        rw [List.getLast?_eq_some_getLast some]
                        exact List.dropLast_append_getLast some
                      rw [← names, follow_append, follow_dot way]
                      exact last

/-- A file that is put where no directory is does not get in the way. -/
theorem follow_put {folder : Folder} {location here there : Location} {names : List String}
    (follows : folder.follow here names = .ok there) (free : folder.isDirectory location = false)
    (content : List UInt8) : (folder.put location (.file content)).follow here names = .ok there := by
  induction names generalizing here with
  | nil => exact follows
  | cons name rest ih =>
      obtain ⟨directory, one, more⟩ := follow_cons follows
      have apart : here ≠ location := by
        rintro rfl
        rw [directory] at free
        cases free
      have same := held?_put_of_ne folder apart (.file content)
      have step : (folder.put location (.file content)).follow here [name] = .ok (here.next name) := by
        rw [follow] at one ⊢
        rw [same]
        exact one
      have joined := follow_append (folder.put location (.file content)) here [name] rest
      rw [step] at joined
      exact joined.trans (ih more)

/-- The directories that every system has are directories. -/
theorem isLasting_of_free {folder : Folder} {location : Location} (free : folder.isDirectory location = false) :
    folder.isLasting location = false := by
  cases lasting : folder.isLasting location with
  | false => rfl
  | true =>
      unfold isDirectory at free
      rw [held?_of_isLasting lasting] at free
      cases free

theorem locate_put {folder : Folder} {path : String} {location there : Location}
    (located : folder.locate path = .ok there) (free : folder.isDirectory location = false) (content : List UInt8) :
    (folder.put location (.file content)).locate path = .ok there := by
  obtain ⟨origin, starts, way⟩ := locate_ok.mp located
  exact locate_ok.mpr ⟨origin, starts, follow_put way free content⟩

/-- A file that was written at a path is found there. -/
theorem locate_written {folder written : Folder} {path : String} {content : List UInt8}
    (wrote : folder.write path content = .ok written) :
    path.toList.getLast? ≠ some '/' ∧ ∃ there, written.locate path = .ok there ∧
      written.held? there = some (.file content) := by
  unfold write at wrote
  cases found : folder.writable path with
  | error error =>
      rw [found] at wrote
      cases wrote
  | ok there =>
      rw [found] at wrote
      cases wrote
      obtain ⟨located, free, ends⟩ := writable_ok found
      exact ⟨ends, there, locate_put located free content, held?_put folder (isLasting_of_free free) _⟩

/-! ## Matching a path -/

theorem size_ofList_cons (c : Char) (cs : List Char) :
    (String.ofList (c :: cs)).utf8ByteSize = c.utf8Size + (String.ofList cs).utf8ByteSize := by
  have single : String.ofList [c] = String.singleton c := rfl
  rw [← List.singleton_append, String.ofList_append, String.utf8ByteSize_append, single,
    String.utf8ByteSize_singleton]

/-- The bytes of the pieces and of the slashes between them are those of the path. -/
theorem sum_size_pieces (cs : List Char) :
    ((Split.pieces '/' cs).map fun piece => (String.ofList piece).utf8ByteSize + 1).sum =
      (String.ofList cs).utf8ByteSize + 1 := by
  induction cs with
  | nil => rfl
  | cons c rest ih =>
      rw [size_ofList_cons]
      unfold Split.pieces
      split
      · next slash =>
          have one : Char.utf8Size '/' = 1 := rfl
          rw [List.map_cons, List.sum_cons, ih, slash, one, String.ofList_nil, String.utf8ByteSize_empty]
          omega
      · cases cut : Split.pieces '/' rest with
        | nil => exact absurd cut (Split.pieces_ne_nil '/' rest)
        | cons piece others =>
            rw [cut, List.map_cons, List.sum_cons] at ih
            rw [List.map_cons, List.sum_cons, size_ofList_cons]
            omega

theorem sum_size_text (path : String) :
    ((Split.text '/' path).map fun name => name.utf8ByteSize + 1).sum = path.utf8ByteSize + 1 := by
  have sum := sum_size_pieces path.toList
  rw [String.ofList_toList] at sum
  rw [Split.text, List.map_map]
  exact sum

theorem properName_of_mem_text {path name : String} (nulFree : '\x00' ∉ path.toList)
    (member : name ∈ Split.text '/' path) : ProperName name := by
  obtain ⟨piece, inPieces, rfl⟩ := List.mem_map.mp member
  constructor
  · rw [String.toList_ofList]
    exact fun slash => (Split.mem_of_mem_pieces inPieces slash).2 rfl
  · rw [String.toList_ofList]
    exact fun nul => nulFree (Split.mem_of_mem_pieces inPieces nul).1

theorem walks_here (folder : Folder) {names : List String}
    (budget : (names.map fun name => name.utf8ByteSize + 1).sum ≤ pathLimit) :
        Walks folder ⟨".", folder.home⟩ names := by
  refine ⟨locate_dot folder, fun _ => rfl, ?_⟩
  rw [Place.cost, if_pos (Place.isHere_dot folder.home)]
  omega

theorem walks_top (folder : Folder) {names : List String}
    (budget : (names.map fun name => name.utf8ByteSize + 1).sum < pathLimit) :
        Walks folder ⟨"/", []⟩ names := by
  have away := Place.isHere_slash []
  have ended : isOpenEnded "/" = true := rfl
  refine ⟨locate_slash folder, fun here => ?_, ?_⟩
  · rw [away] at here
    cases here
  · rw [Place.cost, away, if_neg Bool.false_ne_true, ended, if_pos rfl]
    have one : ("/" : String).utf8ByteSize = 1 := rfl
    dsimp only
    omega

/-- Names that can be followed from the working directory are walked, but for an empty one right after it. -/
theorem walk?_here {folder : Folder} {names : List String} {there : Location}
    (budget : (names.map fun name => name.utf8ByteSize + 1).sum ≤ pathLimit)
    (proper : ∀ name ∈ names, ProperName name) (way : folder.follow folder.home names = .ok there)
    (held : (folder.held? there).isSome = true) :
    if emptyAfterHere ("." :: names) then folder.walk? names ⟨".", folder.home⟩ = none
    else ∃ last, folder.walk? names ⟨".", folder.home⟩ = some last ∧ folder.locate last.path = .ok there := by
  split
  · next blocked => exact walk?_of_emptyAfterHere folder rfl blocked
  · next free =>
      obtain ⟨last, walked, -, leads⟩ := walk?_of_follow (walks_here folder budget) proper
        (fun _ => Bool.not_eq_true _ ▸ free) way held
      exact ⟨last, walked, leads⟩

theorem walk?_top {folder : Folder} {names : List String} {there : Location}
    (budget : (names.map fun name => name.utf8ByteSize + 1).sum < pathLimit)
    (proper : ∀ name ∈ names, ProperName name) (way : folder.follow [] names = .ok there)
    (held : (folder.held? there).isSome = true) :
    ∃ last, folder.walk? names ⟨"/", []⟩ = some last ∧ folder.locate last.path = .ok there := by
  have away := Place.isHere_slash []
  obtain ⟨last, walked, -, leads⟩ := walk?_of_follow (walks_top folder budget) proper
    (fun here => absurd here (by rw [away]; exact Bool.false_ne_true)) way held
  exact ⟨last, walked, leads⟩

/-- No path begins with an empty name and is relative. -/
theorem emptyAfterHere_relative {path : String} (some : path ≠ "")
    (relative : ¬path.toList.head? = Option.some '/') :
    emptyAfterHere ("." :: Split.text '/' path) = emptyAfterHere (Split.text '/' path) := by
  unfold Split.text
  cases pieces : Split.pieces '/' path.toList with
  | nil => rfl
  | cons name rest =>
      refine emptyAfterHere_dot (fun empty => ?_) (rest.map String.ofList)
      have first : (Split.pieces '/' path.toList).head? = Option.some [] := by
        rw [pieces, String.ofList_eq_empty_iff.mp empty]
        rfl
      rcases Split.eq_nil_or_head?_of_pieces first with nothing | slash
      · exact some (String.toList_eq_nil_iff.mp nothing)
      · exact relative slash

/-- What a path without wildcards matches when it leads to something: nothing if an empty name follows
directly on the working directory, and else one place that is what the path leads to. -/
theorem walk_unmarked {folder : Folder} {path : String} {there : Location} (unmarked : Unmarked path.toList)
    (ends : path.toList.getLast? ≠ some '/') (located : folder.locate path = .ok there)
    (held : (folder.held? there).isSome = true) :
    ∃ pattern, PathPattern.parse path = .ok pattern ∧
      if emptyAfterHere (Split.text '/' path) then folder.walk pattern = []
      else ∃ place, folder.walk pattern = [.ok place] ∧ folder.locate place.path = .ok there := by
  obtain ⟨origin, starts, way⟩ := locate_ok.mp located
  obtain ⟨nulFree, some, short, rfl⟩ := start_eq starts
  have some' : path.toList ≠ [] := fun empty => some (String.toList_eq_nil_iff.mp empty)
  have proper (name : String) (member : name ∈ Split.text '/' path) := properName_of_mem_text nulFree member
  have sum := sum_size_text path
  obtain ⟨absolute, names, parsed, head, pieces⟩ := PathPattern.parse_unmarked unmarked some' ends
  refine ⟨_, parsed, ?_⟩
  unfold walk
  dsimp only
  rw [expand_plain]
  cases absolute with
  | true =>
      have texts : Split.text '/' path = "" :: names.map String.ofList := by
        rw [Split.text, pieces, if_pos rfl]
        rfl
      rw [if_pos (eq_of_beq head), texts] at way
      rw [texts, List.map_cons, List.sum_cons] at sum
      obtain ⟨last, walked, leads⟩ := walk?_top (by omega)
        (fun name member => proper name (texts ▸ List.mem_cons_of_mem "" member)) (follow_cons way).2.2 held
      rw [texts, emptyAfterHere_of_ne (by decide), if_neg Bool.false_ne_true, if_pos rfl, walked]
      exact ⟨last, rfl, leads⟩
  | false =>
      have texts : Split.text '/' path = names.map String.ofList := by
        rw [Split.text, pieces, if_neg Bool.false_ne_true]
      have relative : ¬path.toList.head? = Option.some '/' := by
        rw [← beq_iff_eq, head]
        exact Bool.false_ne_true
      rw [if_neg relative] at way
      have walked := walk?_here (by omega) proper way held
      rw [← emptyAfterHere_relative some relative, if_neg Bool.false_ne_true, ← texts]
      split at walked
      · next blocked => rw [if_pos blocked, walked, Option.map_none, Option.toList_none]
      · next free =>
          obtain ⟨last, walked, leads⟩ := walked
          rw [if_neg free, walked]
          exact ⟨last, rfl, leads⟩

end QuicksortStudy.Folder
