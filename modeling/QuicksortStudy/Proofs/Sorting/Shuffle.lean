import Mathlib
import QuicksortStudy.Random.Stream

/-!
# Exchanges one by one

A position is drawn from the first word that is not refused, and the words up to it are gone; without such a word the
draw does not end.  An exchange draws two positions and goes on with the stream that is left.  On the stream whose words
are all zero only the first position is ever drawn, so there a shuffle leaves every list as it is.
-/

namespace QuicksortStudy

variable {α : Type}

/-! ## Draws -/

namespace RandomStream

variable {bound : Nat} {s s' : RandomStream}

/-- The stream after some more of its words. -/
def skip (s : RandomStream) (words : Nat) : RandomStream := { s with position := s.position + words }

theorem skip_skip (s : RandomStream) (words more : Nat) : (s.skip words).skip more = s.skip (words + more) := by
  simp [skip, Nat.add_assoc]

/-- A draw takes the first word that is not refused. -/
structure FirstAccepted (bound : Nat) (s : RandomStream) (refused : Nat) : Prop where
  before : ∀ i < refused, accepts bound (s.skip i).next.1 = false
  accepted : accepts bound (s.skip refused).next.1 = true

instance (bound : Nat) (s : RandomStream) (refused : Nat) : Decidable (FirstAccepted bound s refused) :=
  decidable_of_iff ((∀ i < refused, accepts bound (s.skip i).next.1 = false) ∧
      accepts bound (s.skip refused).next.1 = true)
    ⟨fun found => ⟨found.1, found.2⟩, fun found => ⟨found.before, found.accepted⟩⟩

/-- After a refused word the draw goes on with the stream behind it. -/
theorem FirstAccepted.succ_iff {refused : Nat} (first : accepts bound s.next.1 = false) :
    FirstAccepted bound s (refused + 1) ↔ FirstAccepted bound (s.skip 1) refused := by
  have later (words : Nat) : (s.skip 1).skip words = s.skip (words + 1) := by rw [skip_skip, Nat.add_comm]
  constructor
  · rintro ⟨before, accepted⟩
    refine ⟨fun i inside => ?_, ?_⟩
    · rw [later]
      exact before (i + 1) (Nat.succ_lt_succ inside)
    · rwa [later]
  · rintro ⟨before, accepted⟩
    refine ⟨fun i inside => ?_, ?_⟩
    · cases i with
      | zero => exact first
      | succ i =>
          rw [← later]
          exact before i (Nat.lt_of_succ_lt_succ inside)
    · rwa [← later]

/-- The first word that is not refused decides, however many there were before it. -/
theorem index_of_accepts (positive : 0 < bound) {refused : Nat} (found : FirstAccepted bound s refused) :
    s.index positive = some (scale positive (s.skip refused).next.1, s.skip (refused + 1)) := by
  induction refused generalizing s with
  | zero =>
      rw [index]
      exact if_pos found.accepted
  | succ refused ih =>
      have first : accepts bound s.next.1 = false := found.before 0 (Nat.succ_pos refused)
      have later := ih ((FirstAccepted.succ_iff first).mp found)
      rw [skip_skip, skip_skip, Nat.add_comm 1, Nat.add_comm 1] at later
      rw [index, if_neg (by rw [first]; exact Bool.false_ne_true)]
      exact later

theorem exists_firstAccepted {positive : 0 < bound} {drawn : Fin bound × RandomStream}
    (draw : s.index positive = some drawn) : ∃ refused, FirstAccepted bound s refused := by
  refine index.partial_correctness (fun _ s _ => ∃ refused, FirstAccepted bound s refused) ?_ positive s drawn draw
  intro again known positive s drawn found
  split at found
  · next accepted => exact ⟨0, fun i none => absurd none (Nat.not_lt_zero i), accepted⟩
  · next refuses =>
      obtain ⟨refused, later⟩ := known _ _ _ found
      exact ⟨refused + 1, (FirstAccepted.succ_iff (Bool.eq_false_iff.mpr refuses)).mpr later⟩

theorem index_eq_some_iff (positive : 0 < bound) {drawn : Fin bound × RandomStream} :
    s.index positive = some drawn ↔ ∃ refused, FirstAccepted bound s refused ∧
      drawn = (scale positive (s.skip refused).next.1, s.skip (refused + 1)) := by
  constructor
  · intro draw
    obtain ⟨refused, found⟩ := exists_firstAccepted draw
    rw [index_of_accepts positive found] at draw
    exact ⟨refused, found, (Option.some.inj draw).symm⟩
  · rintro ⟨refused, found, rfl⟩
    exact index_of_accepts positive found

/-- A draw only moves the stream on. -/
theorem index_skip {positive : 0 < bound} {i : Fin bound} (draw : s.index positive = some (i, s')) :
    ∃ words, s' = s.skip words := by
  obtain ⟨refused, -, drawn⟩ := (index_eq_some_iff positive).mp draw
  exact ⟨refused + 1, congrArg Prod.snd drawn⟩

/-! ## Draws that end -/

/-- However many words of a stream are gone, one of the others is not refused for a bound. -/
def Yields (s : RandomStream) (bound : Nat) : Prop :=
  ∀ words, ∃ more, accepts bound (s.skip (words + more)).next.1 = true

theorem Yields.skip (yields : s.Yields bound) (words : Nat) : (s.skip words).Yields bound := by
  intro gone
  obtain ⟨more, accepted⟩ := yields (words + gone)
  refine ⟨more, ?_⟩
  rwa [skip_skip, ← Nat.add_assoc]

/-- A draw ends unless all words from here on are refused. -/
theorem index_eq_none_iff (positive : 0 < bound) :
    s.index positive = none ↔ ∀ words, accepts bound (s.skip words).next.1 = false := by
  constructor
  · intro endless words
    by_contra accepted
    have some : ∃ words, accepts bound (s.skip words).next.1 = true := ⟨words, Bool.eq_true_of_not_eq_false accepted⟩
    have first : FirstAccepted bound s (Nat.find some) :=
      ⟨fun i before => Bool.eq_false_iff.mpr (Nat.find_min some before), Nat.find_spec some⟩
    rw [index_of_accepts positive first] at endless
    cases endless
  · intro refused
    cases draw : s.index positive with
    | none => rfl
    | some drawn =>
        obtain ⟨words, -, accepted⟩ := exists_firstAccepted draw
        rw [refused words] at accepted
        cases accepted

theorem Yields.exists_index (yields : s.Yields bound) (positive : 0 < bound) :
    ∃ i s', s.index positive = some (i, s') := by
  cases draw : s.index positive with
  | none =>
      obtain ⟨words, accepted⟩ := yields 0
      rw [(index_eq_none_iff positive).mp draw] at accepted
      cases accepted
  | some drawn => exact ⟨drawn.1, drawn.2, rfl⟩

/-- Zeros are never refused, so draws from some words with zeros after them end. -/
theorem yields_ofWords (words : List UInt64) (bound : Nat) : (ofWords words).Yields bound := by
  intro gone
  refine ⟨words.length, ?_⟩
  have beyond : ((ofWords words).skip (gone + words.length)).next.1 = 0 := by
    simp [ofWords, skip, next, Array.getD]
  simp [beyond, accepts]

end RandomStream

/-! ## Exchanges -/

theorem exchange_succ {xs : Array α} (nonempty : 0 < xs.size) (swaps : Nat) (s : RandomStream) :
    exchange xs (swaps + 1) s = (s.index nonempty).bind fun first => (first.2.index nonempty).bind fun second =>
      exchange (xs.swap first.1 second.1 first.1.isLt second.1.isLt) swaps second.2 := by
  rw [exchange, dif_pos nonempty]
  rfl

theorem exchange_of_draws {xs : Array α} {s s' s'' : RandomStream} {nonempty : 0 < xs.size} {i j : Fin xs.size}
    (swaps : Nat) (first : s.index nonempty = some (i, s')) (second : s'.index nonempty = some (j, s'')) :
    exchange xs (swaps + 1) s = exchange (xs.swap i j i.isLt j.isLt) swaps s'' := by
  rw [exchange_succ nonempty, first, Option.bind_some, second, Option.bind_some]

/-- An exchange that ends has drawn both positions. -/
theorem exists_draws {xs xs' : Array α} {swaps : Nat} {s s' : RandomStream} (nonempty : 0 < xs.size)
    (ended : exchange xs (swaps + 1) s = some (xs', s')) :
    ∃ i j t t', s.index nonempty = some (i, t) ∧ t.index nonempty = some (j, t') ∧
      exchange (xs.swap i j i.isLt j.isLt) swaps t' = some (xs', s') := by
  rw [exchange_succ nonempty] at ended
  obtain ⟨⟨i, t⟩, first, rest⟩ := Option.bind_eq_some_iff.mp ended
  obtain ⟨⟨j, t'⟩, second, last⟩ := Option.bind_eq_some_iff.mp rest
  exact ⟨i, j, t, t', first, second, last⟩

/-- Where there is nothing to exchange nothing is drawn. -/
theorem exchange_of_empty {xs : Array α} (empty : ¬0 < xs.size) (swaps : Nat) (s : RandomStream) :
    exchange xs swaps s = some (xs, s) := by
  cases swaps with
  | zero => rfl
  | succ swaps => rw [exchange, dif_neg empty]

/-- Exchanges only move the stream on. -/
theorem exchange_skip {xs ys : Array α} {swaps : Nat} {s s' : RandomStream}
    (ended : exchange xs swaps s = some (ys, s')) : ∃ words, s' = s.skip words := by
  induction swaps generalizing xs s with
  | zero =>
      cases ended
      exact ⟨0, rfl⟩
  | succ swaps ih =>
      by_cases nonempty : 0 < xs.size
      · obtain ⟨i, j, t, t', first, second, later⟩ := exists_draws nonempty ended
        obtain ⟨words, rfl⟩ := RandomStream.index_skip first
        obtain ⟨words', rfl⟩ := RandomStream.index_skip second
        obtain ⟨more, rfl⟩ := ih later
        exact ⟨words + (words' + more), by rw [RandomStream.skip_skip, RandomStream.skip_skip]⟩
      · rw [exchange_of_empty nonempty] at ended
        cases ended
        exact ⟨0, rfl⟩

theorem RandomStream.Yields.exists_exchange {xs : Array α} {s : RandomStream} (yields : s.Yields xs.size)
    (swaps : Nat) : ∃ xs' s', exchange xs swaps s = some (xs', s') := by
  induction swaps generalizing xs s with
  | zero => exact ⟨xs, s, rfl⟩
  | succ swaps ih =>
      by_cases nonempty : 0 < xs.size
      · obtain ⟨i, t, first⟩ := yields.exists_index nonempty
        obtain ⟨words, rfl⟩ := index_skip first
        obtain ⟨j, t', second⟩ := (yields.skip words).exists_index nonempty
        obtain ⟨more, rfl⟩ := index_skip second
        rw [exchange_of_draws swaps first second]
        refine ih ?_
        rw [Array.size_swap]
        exact (yields.skip words).skip more
      · exact ⟨xs, s, exchange_of_empty nonempty _ s⟩

theorem shuffle_eq_some_iff {xs ys : List α} {swaps : Nat} {s s' : RandomStream} :
    shuffle xs swaps s = some (ys, s') ↔ exchange xs.toArray swaps s = some (ys.toArray, s') := by
  unfold shuffle
  cases exchange xs.toArray swaps s with
  | none => simp
  | some drawn =>
      obtain ⟨shuffled, s''⟩ := drawn
      simp [← Array.toList_inj]

/-- A shuffle ends on a stream that yields for the length of the list, and only moves it on. -/
theorem RandomStream.Yields.exists_shuffle {xs : List α} {s : RandomStream} (yields : s.Yields xs.length)
    (swaps : Nat) : ∃ ys words, shuffle xs swaps s = some (ys, s.skip words) := by
  obtain ⟨ys, s', ended⟩ := @Yields.exists_exchange _ xs.toArray _ yields swaps
  obtain ⟨words, rfl⟩ := exchange_skip ended
  exact ⟨ys.toList, words, shuffle_eq_some_iff.mpr ended⟩

/-! ## A stream that exchanges nothing -/

namespace RandomStream

/-- The stream whose words are all zero, from a position on. -/
def zeros (position : Nat) : RandomStream := ⟨fun _ => 0, position⟩

theorem index_zeros {bound : Nat} (positive : 0 < bound) (position : Nat) :
    (zeros position).index positive = some (⟨0, positive⟩, zeros (position + 1)) := by
  have first : FirstAccepted bound (zeros position) 0 :=
    ⟨fun i none => absurd none (Nat.not_lt_zero i), by simp [accepts, zeros, skip, next]⟩
  rw [index_of_accepts positive first]
  simp [scale, zeros, skip, next]

end RandomStream

open RandomStream

theorem swap_same (xs : Array α) {i : Nat} (inside : i < xs.size) : xs.swap i i inside inside = xs := by
  apply Array.ext
  · exact Array.size_swap
  · intro k _ _
    rw [Array.getElem_swap]
    split
    · next same => simp only [same]
    · rfl

theorem exchange_zeros {xs : Array α} (nonempty : 0 < xs.size) (swaps position : Nat) :
    exchange xs swaps (zeros position) = some (xs, zeros (position + 2 * swaps)) := by
  induction swaps generalizing position with
  | zero => rfl
  | succ swaps ih =>
      rw [exchange_of_draws swaps (index_zeros nonempty position) (index_zeros nonempty (position + 1)),
        swap_same xs nonempty, ih, Nat.mul_succ]
      congr 3
      omega

/-- A shuffle by zeros draws two words for each exchange and changes nothing. -/
theorem shuffle_zeros {xs : List α} (nonempty : xs ≠ []) (swaps position : Nat) :
    shuffle xs swaps (zeros position) = some (xs, zeros (position + 2 * swaps)) :=
  shuffle_eq_some_iff.mpr (exchange_zeros (List.length_pos_iff.mpr nonempty) swaps position)

end QuicksortStudy
