import Mathlib
import QuicksortStudy.Folder.Matches

/-!
# Patterns without wildcards

A path in which no wildcard is written is a pattern whose names stand for themselves.  Such a pattern
matches at most one place: the one that its names lead to, one after the other.
-/

namespace QuicksortStudy

/-! ## Pieces -/

namespace Split

variable {α : Type} [DecidableEq α]

theorem pieces_separator (separator : α) (xs : List α) :
    pieces separator (separator :: xs) = [] :: pieces separator xs := by
  rw [pieces, if_pos rfl]

theorem pieces_of_not_mem {separator : α} {xs : List α} (free : separator ∉ xs) :
    pieces separator xs = [xs] := by
  induction xs with
  | nil => rfl
  | cons a rest ih =>
      have apart : a ≠ separator := fun same => free (List.mem_cons.mpr (.inl same.symm))
      rw [pieces, if_neg apart, ih fun member => free (List.mem_cons_of_mem a member)]

/-- Cutting at a separator inside a list cuts both sides. -/
theorem pieces_append (separator : α) (xs ys : List α) :
    pieces separator (xs ++ separator :: ys) = pieces separator xs ++ pieces separator ys := by
  induction xs with
  | nil => exact pieces_separator separator ys
  | cons a rest ih =>
      rw [List.cons_append, pieces]
      conv => rhs; rw [pieces]
      rw [ih]
      split
      · rfl
      · cases cut : pieces separator rest with
        | nil => exact absurd cut (pieces_ne_nil separator rest)
        | cons piece others => rfl

theorem mem_of_mem_pieces {separator a : α} {xs piece : List α} (member : piece ∈ pieces separator xs)
    (inPiece : a ∈ piece) : a ∈ xs ∧ a ≠ separator := by
  induction xs generalizing piece with
  | nil =>
      cases List.mem_singleton.mp member
      cases inPiece
  | cons x rest ih =>
      unfold pieces at member
      split at member
      · rcases List.mem_cons.mp member with empty | inRest
        · rw [empty] at inPiece
          cases inPiece
        · have found := ih inRest inPiece
          exact ⟨List.mem_cons_of_mem x found.1, found.2⟩
      · next apart =>
          cases cut : pieces separator rest with
          | nil => exact absurd cut (pieces_ne_nil separator rest)
          | cons first others =>
              rw [cut] at member ih
              rcases List.mem_cons.mp member with same | inOthers
              · rw [same] at inPiece
                rcases List.mem_cons.mp inPiece with here | there
                · rw [here]
                  exact ⟨List.mem_cons_self .., apart⟩
                · have found := ih (List.mem_cons_self ..) there
                  exact ⟨List.mem_cons_of_mem x found.1, found.2⟩
              · have found := ih (List.mem_cons_of_mem first inOthers) inPiece
                exact ⟨List.mem_cons_of_mem x found.1, found.2⟩

theorem eq_nil_or_head?_of_pieces {separator : α} {xs : List α}
    (first : (pieces separator xs).head? = some []) :
    xs = [] ∨ xs.head? = some separator := by
  cases xs with
  | nil => exact .inl rfl
  | cons a rest =>
      right
      unfold pieces at first
      split at first
      · next same => exact congrArg some same
      · cases cut : pieces separator rest with
        | nil => exact absurd cut (pieces_ne_nil separator rest)
        | cons piece others =>
            rw [cut] at first
            cases first

/-- The last piece of a list that ends in no separator holds the end of the list. -/
theorem getLast?_pieces_ne_nil {separator : α} {xs : List α} (some : xs ≠ [])
    (ends : xs.getLast? ≠ Option.some separator) : (pieces separator xs).getLast? ≠ Option.some [] := by
  induction xs with
  | nil => exact absurd rfl some
  | cons a rest ih =>
      unfold pieces
      cases rest with
      | nil =>
          have apart : a ≠ separator := fun same => ends (congrArg Option.some same)
          rw [if_neg apart]
          simp [pieces]
      | cons b rest =>
          have last := ih (List.cons_ne_nil b rest) ends
          cases cut : pieces separator (b :: rest) with
          | nil => exact absurd cut (pieces_ne_nil separator (b :: rest))
          | cons piece others =>
              rw [cut] at last
              split
              · exact last
              · cases others with
                | nil =>
                    intro empty
                    cases empty
                | cons other others => exact last

end Split

/-! ## Parsing -/

/-- No wildcard is written in a text. -/
def Unmarked (cs : List Char) : Prop := ∀ c ∈ cs, c ≠ '?' ∧ c ≠ '*' ∧ c ≠ '['

namespace Wildcard

theorem parse_unmarked {cs : List Char} (unmarked : Unmarked cs) (before : Option Char) (position : Nat) :
    parse before position cs = .ok (cs.map literal) := by
  induction cs generalizing before position with
  | nil => rw [parse, List.map_nil]
  | cons c rest ih =>
      obtain ⟨query, star, bracket⟩ := unmarked c (List.mem_cons_self ..)
      have others := ih (fun d member => unmarked d (List.mem_cons_of_mem c member)) (some c) (position + 1)
      rw [parse, others]
      · rfl
      · exact query
      · exact star
      · exact bracket

theorem literalName?_literals (cs : List Char) : literalName? (cs.map literal) = some cs := by
  unfold literalName?
  induction cs with
  | nil => rfl
  | cons c rest ih =>
      rw [List.map_cons, List.mapM_cons, ih]
      rfl

end Wildcard

namespace NamePattern

/-- The pattern of a name that stands for itself. -/
def plain (cs : List Char) : NamePattern := name (cs.map .literal)

theorem parse_unmarked {cs : List Char} (unmarked : Unmarked cs) : parse cs = .ok (plain cs) := by
  unfold parse
  rw [Wildcard.parse_unmarked unmarked]
  cases cs with
  | nil => rfl
  | cons c rest => rfl

theorem mapM_parse_unmarked {names : List (List Char)} (unmarked : ∀ cs ∈ names, Unmarked cs) :
    names.mapM parse = .ok (names.map plain) := by
  induction names with
  | nil => rfl
  | cons cs rest ih =>
      rw [List.mapM_cons, parse_unmarked (unmarked cs (List.mem_cons_self ..)),
        ih fun other member => unmarked other (List.mem_cons_of_mem cs member)]
      rfl

theorem mergeDescents_plain (names : List (List Char)) : mergeDescents (names.map plain) = names.map plain := by
  induction names with
  | nil => rfl
  | cons cs rest ih =>
      rw [List.map_cons]
      unfold plain at ih ⊢
      rw [mergeDescents, ih]
      exact fun _ same => nomatch same

end NamePattern

namespace PathPattern

theorem pieces_of_unended {cs : List Char} (some : cs ≠ []) (ends : cs.getLast? ≠ Option.some '/') :
    pieces cs = Split.pieces '/' cs := by
  unfold pieces
  dsimp only
  rw [if_neg (Split.getLast?_pieces_ne_nil some ends)]
  cases cut : Split.pieces '/' cs with
  | nil => exact absurd cut (Split.pieces_ne_nil '/' cs)
  | cons piece others => rfl

theorem parse_of_pieces {path : String} {cs : List Char} (absolute : Bool) (unmarked : Unmarked path.toList)
    (head : (path.toList.head? == Option.some '/') = absolute)
    (rest : (if absolute then path.toList.drop 1 else path.toList) = cs) (some : cs ≠ [])
    (ends : path.toList.getLast? ≠ Option.some '/') (last : cs.getLast? = path.toList.getLast?) :
    parse path = .ok ⟨absolute, (Split.pieces '/' cs).map NamePattern.plain, false⟩ := by
  have subset : ∀ c ∈ cs, c ∈ path.toList := by
    subst rest
    intro c member
    split at member
    · exact List.mem_of_mem_drop member
    · exact member
  have unmarkedNames : ∀ name ∈ Split.pieces '/' cs, Unmarked name := fun name member c inName =>
    unmarked c (subset c (Split.mem_of_mem_pieces member inName).1)
  have directories : (path.toList.getLast? == Option.some '/') = false := beq_false_of_ne ends
  unfold parse
  dsimp only
  rw [Wildcard.parse_unmarked unmarked, head, rest, pieces_of_unended some (last ▸ ends),
    NamePattern.mapM_parse_unmarked unmarkedNames, directories]
  dsimp only [bind, Except.bind, pure, Except.pure]
  rw [NamePattern.mergeDescents_plain]

/-- A path without wildcards and without a slash at its end is the pattern of its names. -/
theorem parse_unmarked {path : String} (unmarked : Unmarked path.toList) (some : path.toList ≠ [])
    (ends : path.toList.getLast? ≠ Option.some '/') :
    ∃ absolute names, parse path = .ok ⟨absolute, names.map NamePattern.plain, false⟩ ∧
      (path.toList.head? == Option.some '/') = absolute ∧
      Split.pieces '/' path.toList = if absolute then [] :: names else names := by
  cases head : path.toList.head? == Option.some '/' with
  | false => exact ⟨false, _, parse_of_pieces false unmarked head rfl some ends rfl, rfl, rfl⟩
  | true =>
      obtain ⟨cs, split⟩ : ∃ cs, path.toList = '/' :: cs := by
        cases list : path.toList with
        | nil => exact absurd list some
        | cons c cs =>
            rw [list] at head
            cases eq_of_beq head
            exact ⟨cs, rfl⟩
      have some' : cs ≠ [] := by
        intro empty
        rw [split, empty] at ends
        exact ends rfl
      have last : cs.getLast? = path.toList.getLast? := by
        rw [split, List.getLast?_cons_of_ne_nil some']
      have rest : path.toList.drop 1 = cs := congrArg (List.drop 1) split
      refine ⟨true, _, parse_of_pieces true unmarked head rest some' ends last, rfl, ?_⟩
      rw [split, Split.pieces_separator, if_pos rfl]

end PathPattern

/-! ## Matching -/

namespace Folder

/-- The place that names lead to, each taken as it stands. -/
def walk? (folder : Folder) : List String → Place → Option Place
  | [], place => some place
  | name :: rest, place => (folder.step? place name).bind (folder.walk? rest)

theorem expand_plain (folder : Folder) (names : List (List Char)) (place : Place) :
    folder.expand false (names.map NamePattern.plain) place =
      ((folder.walk? (names.map String.ofList) place).map Except.ok).toList := by
  induction names generalizing place with
  | nil => rfl
  | cons cs rest ih =>
      rw [List.map_cons, List.map_cons]
      unfold NamePattern.plain at ih ⊢
      rw [expand, Wildcard.literalName?_literals, walk?]
      dsimp only
      cases folder.step? place (.ofList cs) with
      | none => rfl
      | some next => exact ih next

end Folder

end QuicksortStudy
