import Mathlib
import QuicksortStudy.Proofs.Sorting.Positions

/-!
# The edit distance of a shuffle

A shuffle exchanges the pairs of positions that it draws, one pair after another.  So it is never further away from
its list than the number of swaps says: each exchange changes two positions at most, and the same exchanges from the
last to the first bring the list back.
-/

namespace QuicksortStudy

variable {α : Type} {xs ys zs : List α} {pairs more : List (Nat × Nat)}

/-! ## Exchanges of positions -/

/-- A list becomes another one when the elements at pairs of positions are exchanged, pair after pair.  Both positions
of a pair are in range, and they may be the same. -/
inductive Exchanges : List (Nat × Nat) → List α → List α → Prop where
  | nil (xs : List α) : Exchanges [] xs xs
  | cons {xs ys : List α} {i j : Nat} {rest : List (Nat × Nat)} (first : i < xs.length) (second : j < xs.length)
      (later : Exchanges rest (xs.swap i j) ys) : Exchanges ((i, j) :: rest) xs ys

namespace Exchanges

theorem inside (exchanges : Exchanges pairs xs ys) {pair : Nat × Nat} (member : pair ∈ pairs) :
    pair.1 < xs.length ∧ pair.2 < xs.length := by
  induction exchanges with
  | nil xs => cases member
  | cons first second _ ih =>
      cases member with
      | head => exact ⟨first, second⟩
      | tail _ later => simpa using ih later

theorem append (exchanges : Exchanges pairs xs ys) (after : Exchanges more ys zs) :
    Exchanges (pairs ++ more) xs zs := by
  induction exchanges with
  | nil xs => exact after
  | cons first second _ ih => exact .cons first second (ih after)

/-- The same exchanges from the last to the first lead back. -/
theorem reverse (exchanges : Exchanges pairs xs ys) : Exchanges pairs.reverse ys xs := by
  induction exchanges with
  | nil xs => exact .nil xs
  | @cons xs ys i j rest first second _ ih =>
      have undo : Exchanges [(i, j)] (xs.swap i j) xs := by
        refine .cons (by simpa using first) (by simpa using second) ?_
        simpa using nil xs
      simpa using ih.append undo

end Exchanges

/-- The positions that occur in some pairs. -/
def touched (pairs : List (Nat × Nat)) : List Nat := pairs.flatMap fun pair => [pair.1, pair.2]

theorem length_touched (pairs : List (Nat × Nat)) : (touched pairs).length = 2 * pairs.length := by
  induction pairs with
  | nil => rfl
  | cons pair rest ih =>
      simp [touched] at ih ⊢
      omega

theorem Exchanges.getElem?_of_not_mem (exchanges : Exchanges pairs xs ys) {position : Nat}
    (untouched : position ∉ touched pairs) : ys[position]? = xs[position]? := by
  induction exchanges with
  | nil xs => rfl
  | @cons xs ys i j rest first second _ ih =>
      simp only [touched, List.flatMap_cons, List.cons_append, List.nil_append, List.mem_cons, not_or] at untouched
      obtain ⟨notFirst, notSecond, notLater⟩ := untouched
      rw [ih notLater, List.swap_eq_of_lt first second, List.getElem?_set_ne (Ne.symm notSecond),
        List.getElem?_set_ne (Ne.symm notFirst)]

/-- At how many positions of a list another one holds something else. -/
def differences [DecidableEq α] (xs ys : List α) : Nat :=
  (List.range xs.length).countP fun position => ys[position]? ≠ xs[position]?

theorem Exchanges.differences_le [DecidableEq α] (exchanges : Exchanges pairs xs ys) :
    differences xs ys ≤ 2 * pairs.length := by
  have changed : (List.range xs.length).filter (fun position => ys[position]? ≠ xs[position]?) ⊆ touched pairs := by
    intro position member
    by_contra untouched
    simp [exchanges.getElem?_of_not_mem untouched] at member
  have few := (List.subperm_of_subset (List.nodup_range.filter _) changed).length_le
  rwa [length_touched, ← List.countP_eq_length_filter] at few

/-! ## The pairs that are drawn -/

/-- The pairs of positions that are drawn for a number of swaps, and the stream after them.  Where there are no
positions none is drawn. -/
def drawnPairs (size : Nat) : Nat → RandomStream → Option (List (Nat × Nat) × RandomStream)
  | 0, s => some ([], s)
  | swaps + 1, s =>
    if nonempty : 0 < size then do
      let (i, s) ← s.index nonempty
      let (j, s) ← s.index nonempty
      let (pairs, s) ← drawnPairs size swaps s
      return ((i.val, j.val) :: pairs, s)
    else some ([], s)

theorem drawnPairs_of_draws {size swaps : Nat} {nonempty : 0 < size} {s s' s'' t : RandomStream} {i j : Fin size}
    (first : s.index nonempty = some (i, s')) (second : s'.index nonempty = some (j, s''))
    (later : drawnPairs size swaps s'' = some (pairs, t)) :
    drawnPairs size (swaps + 1) s = some ((i.val, j.val) :: pairs, t) := by
  simp [drawnPairs, nonempty, first, second, later]

theorem drawnPairs_of_empty (swaps : Nat) (s : RandomStream) : drawnPairs 0 swaps s = some ([], s) := by
  cases swaps <;> rfl

theorem toList_swap (xs : Array α) {i j : Nat} (first : i < xs.size) (second : j < xs.size) :
    (xs.swap i j first second).toList = xs.toList.swap i j := by
  simp [List.swap_eq_of_lt, first, second]

/-- Some pairs that were drawn are what a list was shuffled by. -/
structure ShuffledBy (xs : List α) (swaps : Nat) (pairs : List (Nat × Nat)) (ys : List α) : Prop where
  exchanges : Exchanges pairs xs ys
  drawn : xs ≠ [] → pairs.length = swaps
  few : pairs.length ≤ swaps

/-- An array is shuffled by exchanging the pairs that are drawn, and nothing else is drawn. -/
theorem shuffledBy_exchange {xs ys : Array α} {swaps : Nat} {s s' : RandomStream}
    (ended : exchange xs swaps s = some (ys, s')) :
    ∃ pairs, drawnPairs xs.size swaps s = some (pairs, s') ∧ ShuffledBy xs.toList swaps pairs ys.toList := by
  induction swaps generalizing xs s with
  | zero =>
      cases ended
      exact ⟨[], rfl, .nil _, fun _ => rfl, Nat.le_refl 0⟩
  | succ swaps ih =>
      by_cases nonempty : 0 < xs.size
      · obtain ⟨i, j, t, t', first, second, later⟩ := exists_draws nonempty ended
        obtain ⟨pairs, drawn, known⟩ := ih later
        rw [Array.size_swap] at drawn
        have exchanges := known.exchanges
        have filled : (xs.swap i j).toList ≠ [] := by
          rw [← List.length_pos_iff, Array.length_toList, Array.size_swap]
          exact nonempty
        rw [toList_swap] at exchanges
        refine ⟨_, drawnPairs_of_draws first second drawn, .cons i.isLt j.isLt exchanges, fun _ => ?_, ?_⟩
        · rw [List.length_cons, known.drawn filled]
        · exact Nat.succ_le_succ known.few
      · have empty : xs = #[] := Array.eq_empty_of_size_eq_zero (Nat.eq_zero_of_not_pos nonempty)
        subst empty
        rw [exchange_of_empty nonempty] at ended
        cases ended
        exact ⟨[], drawnPairs_of_empty _ _, .nil _, fun filled => absurd rfl filled, Nat.zero_le _⟩

theorem shuffle_unchanged {swaps : Nat} (none : swaps = 0 ∨ xs = []) (s : RandomStream) :
    shuffle xs swaps s = some (xs, s) := by
  rcases none with rfl | rfl
  · rfl
  · simp [shuffle, exchange_of_empty]

/-- What some swaps make of a list by the pairs that are drawn for them. -/
structure WithinSwaps [DecidableEq α] (xs : List α) (swaps : Nat) (pairs : List (Nat × Nat)) (ys : List α) :
    Prop where
  /-- Each swap exchanges the two positions that it draws. -/
  exchanges : Exchanges pairs xs ys
  inside : ∀ pair ∈ pairs, pair.1 < xs.length ∧ pair.2 < xs.length
  drawn : xs ≠ [] → pairs.length = swaps
  perm : ys.Perm xs
  differences : differences xs ys ≤ 2 * swaps
  back : ∃ pairs, pairs.length ≤ swaps ∧ Exchanges pairs ys xs

/-- A shuffle never goes further than its swaps.  Where there is nothing to exchange, nothing is drawn either, and
otherwise a shuffle ends on a stream that yields for the length. -/
theorem shuffle_within_swaps [DecidableEq α] (xs : List α) (swaps : Nat) (s : RandomStream) :
    (∀ ys s', shuffle xs swaps s = some (ys, s') →
      ∃ pairs, drawnPairs xs.length swaps s = some (pairs, s') ∧ WithinSwaps xs swaps pairs ys) ∧
      (swaps = 0 ∨ xs = [] → shuffle xs swaps s = some (xs, s)) ∧
      (s.Yields xs.length → ∃ ys s', shuffle xs swaps s = some (ys, s')) := by
  refine ⟨fun ys s' ended => ?_, fun none => shuffle_unchanged none s, fun yields => ?_⟩
  · obtain ⟨pairs, drawn, known⟩ := shuffledBy_exchange (shuffle_eq_some_iff.mp ended)
    exact ⟨pairs, drawn, {
      exchanges := known.exchanges
      inside := fun _ member => known.exchanges.inside member
      drawn := known.drawn
      perm := shuffle_perm ended
      differences := known.exchanges.differences_le.trans (Nat.mul_le_mul_left 2 known.few)
      back := ⟨_, by simpa using known.few, known.exchanges.reverse⟩ }⟩
  · obtain ⟨ys, words, ended⟩ := yields.exists_shuffle swaps
    exact ⟨ys, _, ended⟩

theorem shuffle_within_swaps_refusedFirst :
    ([30, 10, 20] : List Int) ≠ [] ∧ refusedFirst.Yields 3 ∧
      (∃ s', shuffle ([30, 10, 20] : List Int) 2 refusedFirst = some ([10, 20, 30], s')) ∧
      (∃ pairs, pairs.length = 2 ∧ Exchanges pairs ([30, 10, 20] : List Int) [10, 20, 30]) ∧
      differences ([30, 10, 20] : List Int) [10, 20, 30] ≤ 2 * 2 ∧
      (∃ pairs, pairs.length ≤ 2 ∧ Exchanges pairs ([10, 20, 30] : List Int) [30, 10, 20]) ∧
      shuffle ([] : List Int) 2 refusedFirst = some ([], refusedFirst) := by
  have nonempty : ([30, 10, 20] : List Int) ≠ [] := by decide
  have yields : refusedFirst.Yields 3 := RandomStream.yields_ofWords _ 3
  have shuffled := (shuffle_refusedFirst (30 : Int) 10 20).2
  obtain ⟨within, -, ends⟩ := shuffle_within_swaps ([30, 10, 20] : List Int) 2 refusedFirst
  obtain ⟨ys, s', ended⟩ := ends yields
  obtain ⟨pairs, -, known⟩ := within ys s' ended
  obtain ⟨rfl, -⟩ := Prod.mk.inj (Option.some.inj (shuffled.symm.trans ended))
  exact ⟨nonempty, yields, ⟨s', ended⟩, ⟨pairs, known.drawn nonempty, known.exchanges⟩, known.differences, known.back,
    (shuffle_within_swaps ([] : List Int) 2 refusedFirst).2.1 (.inr rfl)⟩

end QuicksortStudy
