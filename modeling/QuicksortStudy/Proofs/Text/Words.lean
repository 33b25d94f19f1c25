import Mathlib
import QuicksortStudy.Proofs.Text.Utf8

/-!
# Words between separators

The words of a list are its pieces between separators, without the empty ones.  So separators at an end of
the list or next to each other make no difference.
-/

namespace QuicksortStudy

variable {α : Type} {p : α → Bool}

/-- The pieces between separators that are not empty. -/
def words (p : α → Bool) (xs : List α) : List (List α) := (xs.splitOnP p).filter fun piece => !piece.isEmpty

theorem words_nil : words p [] = [] := rfl

/-- A separator ends what stands before it. -/
theorem words_append_cons (xs ys : List α) {x : α} (hit : p x = true) :
    words p (xs ++ x :: ys) = words p xs ++ words p ys := by
  unfold words
  rw [List.splitOnP_append_cons xs ys hit, List.filter_append]

theorem words_cons (xs : List α) {x : α} (hit : p x = true) : words p (x :: xs) = words p xs :=
  words_append_cons [] xs hit

theorem words_concat (xs : List α) {x : α} (hit : p x = true) : words p (xs ++ [x]) = words p xs := by
  rw [words_append_cons xs [] hit, words_nil, List.append_nil]

theorem words_of_none {xs : List α} (none : ∀ x ∈ xs, p x = false) (some : xs ≠ []) : words p xs = [xs] := by
  unfold words
  rw [List.splitOnP_eq_singleton none, List.filter_cons_of_pos (by simpa using some), List.filter_nil]

theorem words_eq_nil {xs : List α} (all : ∀ x ∈ xs, p x = true) : words p xs = [] := by
  induction xs with
  | nil => rfl
  | cons x xs ih =>
      rw [words_cons xs (all x (List.mem_cons_self ..)), ih fun y member => all y (List.mem_cons_of_mem x member)]

/-- Only the last word of a list can go on after it. -/
theorem words_append_right (p : α → Bool) (xs : List α) :
    ∃ before last, (∀ x ∈ last, p x = false) ∧ (∀ x ∈ xs.getLast?, p x = false → last.getLast? = some x) ∧
      (last ≠ [] → last.getLast? = xs.getLast?) ∧ ∀ ys, words p (xs ++ ys) = before ++ words p (last ++ ys) := by
  induction xs using List.reverseRecOn with
  | nil => exact ⟨[], [], List.forall_mem_nil _, by simp, fun some => absurd rfl some, fun ys => rfl⟩
  | append_singleton xs x ih =>
      rw [List.getLast?_concat]
      cases hit : p x with
      | true =>
          refine ⟨words p xs, [], List.forall_mem_nil _, ?_, fun some => absurd rfl some, fun ys => ?_⟩
          · rintro y ⟨⟩ miss
            rw [hit] at miss
            cases miss
          · rw [List.append_assoc, List.singleton_append, words_append_cons xs ys hit, List.nil_append]
      | false =>
          obtain ⟨before, last, none, -, -, joined⟩ := ih
          refine ⟨before, last ++ [x], ?_, ?_, fun _ => List.getLast?_concat, fun ys => ?_⟩
          · exact List.forall_mem_append.mpr ⟨none, List.forall_mem_singleton.mpr hit⟩
          · rintro y ⟨⟩ -
            exact List.getLast?_concat
          · rw [List.append_assoc, joined, List.append_assoc]

/-- Only the first word of a list can begin before it. -/
theorem words_append_left (p : α → Bool) (ys : List α) :
    ∃ first after, (∀ y ∈ first, p y = false) ∧ (∀ y ∈ ys.head?, p y = false → first.head? = some y) ∧
      (first ≠ [] → first.head? = ys.head?) ∧ ∀ xs, words p (xs ++ ys) = words p (xs ++ first) ++ after := by
  induction ys with
  | nil =>
      refine ⟨[], [], List.forall_mem_nil _, by simp, fun some => absurd rfl some, fun xs => ?_⟩
      rw [List.append_nil, List.append_nil]
  | cons y ys ih =>
      rw [List.head?_cons]
      cases hit : p y with
      | true =>
          refine ⟨[], words p ys, List.forall_mem_nil _, ?_, fun some => absurd rfl some, fun xs => ?_⟩
          · rintro y ⟨⟩ miss
            rw [hit] at miss
            cases miss
          · rw [words_append_cons xs ys hit, List.append_nil]
      | false =>
          obtain ⟨first, after, none, -, -, joined⟩ := ih
          refine ⟨y :: first, after, List.forall_mem_cons.mpr ⟨hit, none⟩, ?_, fun _ => rfl, fun xs => ?_⟩
          · rintro y ⟨⟩ -
            rfl
          · have moved := joined (xs ++ [y])
            rw [List.append_assoc, List.append_assoc] at moved
            exact moved

/-- The bytes of the words of a text are the words of its bytes. -/
theorem words_flatMap {p : UInt8 → Bool} {q : Char → Bool}
    (separator : ∀ c, q c = true → ∃ b, String.utf8EncodeChar c = [b] ∧ p b = true)
    (other : ∀ c, q c = false → ∀ b ∈ String.utf8EncodeChar c, p b = false) (cs : List Char) :
    words p (cs.flatMap String.utf8EncodeChar) = (words q cs).map (List.flatMap String.utf8EncodeChar) := by
  have empty (piece : List Char) : (piece.flatMap String.utf8EncodeChar).isEmpty = piece.isEmpty := by
    cases piece with
    | nil => rfl
    | cons c piece =>
        cases encoded : String.utf8EncodeChar c with
        | nil => exact absurd encoded String.utf8EncodeChar_ne_nil
        | cons b rest => rw [List.flatMap_cons, encoded]; rfl
  unfold words
  rw [Utf8.splitOnP_flatMap separator other, List.filter_map]
  simp only [Function.comp_def, empty]

end QuicksortStudy
