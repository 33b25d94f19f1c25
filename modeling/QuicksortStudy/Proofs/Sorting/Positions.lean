import Mathlib
import QuicksortStudy.Proofs.Sorting.Shuffle

/-!
# Shuffles move positions

What an exchange draws depends on the number of elements only, never on the elements.  So a list whose elements
are replaced is shuffled as before and its elements are replaced afterwards, with the same draws, and shuffling
a list means to shuffle its positions.  A shuffle can be broken off after any of its exchanges and taken up again
where the stream was left.
-/

namespace QuicksortStudy

variable {α β : Type}

theorem RandomStream.index_cast {bound bound' : Nat} (same : bound = bound') (positive : 0 < bound)
    (positive' : 0 < bound') (s : RandomStream) :
    s.index positive' = (s.index positive).map fun drawn => (drawn.1.cast same, drawn.2) := by
  subst same
  exact (Option.map_id_fun' ▸ rfl : s.index positive = (s.index positive).map fun drawn => drawn)

theorem map_swap (f : α → β) (xs : Array α) {i j : Nat} (first : i < xs.size) (second : j < xs.size) :
    (xs.map f).swap i j (by rwa [Array.size_map]) (by rwa [Array.size_map]) = (xs.swap i j first second).map f := by
  apply Array.ext
  · rw [Array.size_swap, Array.size_map, Array.size_map, Array.size_swap]
  · intro k _ _
    simp only [Array.getElem_map, Array.getElem_swap, apply_ite f]

theorem exchange_map (f : α → β) (xs : Array α) (swaps : Nat) (s : RandomStream) :
    exchange (xs.map f) swaps s = (exchange xs swaps s).map fun drawn => (drawn.1.map f, drawn.2) := by
  induction swaps generalizing xs s with
  | zero => rfl
  | succ swaps ih =>
      by_cases nonempty : 0 < xs.size
      · have nonempty' : 0 < (xs.map f).size := by rwa [Array.size_map]
        have alike := RandomStream.index_cast (@Array.size_map _ _ f xs).symm nonempty nonempty'
        cases first : s.index nonempty with
        | none => simp [exchange_succ nonempty, exchange_succ nonempty', alike, first]
        | some drawn =>
            cases second : drawn.2.index nonempty with
            | none => simp [exchange_succ nonempty, exchange_succ nonempty', alike, first, second]
            | some drawn' =>
                have moved := map_swap f xs drawn.1.isLt drawn'.1.isLt
                have later := ih (xs.swap drawn.1 drawn'.1) drawn'.2
                simp only [exchange_succ nonempty, exchange_succ nonempty', alike, first, second, Option.map_some,
                  Option.bind_some, Fin.val_cast]
                rw [← later]
                exact congrArg (exchange · swaps drawn'.2) moved
      · have empty : ¬0 < (xs.map f).size := by rwa [Array.size_map]
        rw [exchange_of_empty nonempty, exchange_of_empty empty]
        rfl

theorem shuffle_map (f : α → β) (xs : List α) (swaps : Nat) (s : RandomStream) :
    shuffle (xs.map f) swaps s = (shuffle xs swaps s).map fun drawn => (drawn.1.map f, drawn.2) := by
  unfold shuffle
  rw [← List.map_toArray, exchange_map]
  cases exchange xs.toArray swaps s with
  | none => rfl
  | some drawn => simp

theorem exchange_perm {xs ys : Array α} {swaps : Nat} {s s' : RandomStream}
    (ended : exchange xs swaps s = some (ys, s')) : ys.Perm xs := by
  induction swaps generalizing xs s with
  | zero =>
      cases ended
      exact .refl ys
  | succ swaps ih =>
      by_cases nonempty : 0 < xs.size
      · obtain ⟨i, j, t, t', -, -, later⟩ := exists_draws nonempty ended
        exact (ih later).trans (Array.swap_perm i.isLt j.isLt)
      · rw [exchange_of_empty nonempty] at ended
        cases ended
        exact .refl ys

theorem shuffle_perm {xs ys : List α} {swaps : Nat} {s s' : RandomStream}
    (ended : shuffle xs swaps s = some (ys, s')) : ys.Perm xs :=
  Array.perm_iff_toList_perm.mp (exchange_perm (shuffle_eq_some_iff.mp ended))

/-! ## Shuffling again and again -/

/-- Shuffle the same list a number of times over, each time with the stream that the last shuffle has left.  What the
last shuffle made of the list is given for the case that there is no other one. -/
def reshuffled (base : List α) (swaps : Nat) : Nat → List α × RandomStream → Option (List α × RandomStream)
  | 0, last => some last
  | times + 1, last => (shuffle base swaps last.2).bind (reshuffled base swaps times)

theorem reshuffled_map (f : α → β) (base : List α) (swaps times : Nat) (last : List α × RandomStream) :
    reshuffled (base.map f) swaps times (last.1.map f, last.2) =
      (reshuffled base swaps times last).map fun drawn => (drawn.1.map f, drawn.2) := by
  induction times generalizing last with
  | zero => rfl
  | succ times ih =>
      unfold reshuffled
      rw [shuffle_map]
      cases shuffle base swaps last.2 with
      | none => rfl
      | some drawn => exact ih drawn

theorem reshuffled_perm {base : List α} {swaps times : Nat} {last last' : List α × RandomStream}
    (perm : last.1.Perm base) (ended : reshuffled base swaps times last = some last') : last'.1.Perm base := by
  induction times generalizing last with
  | zero =>
      cases ended
      exact perm
  | succ times ih =>
      obtain ⟨drawn, once, later⟩ := Option.bind_eq_some_iff.mp ended
      exact ih (shuffle_perm once) later

theorem reshuffled_add (base : List α) (swaps times more : Nat) (last : List α × RandomStream) :
    reshuffled base swaps (times + more) last =
      (reshuffled base swaps times last).bind (reshuffled base swaps more) := by
  induction times generalizing last with
  | zero => rw [Nat.zero_add]; rfl
  | succ times ih =>
      rw [Nat.add_right_comm, reshuffled, reshuffled, Option.bind_assoc]
      exact congrArg _ (funext ih)

/-! ## Shuffles in parts -/

theorem exchange_add (xs : Array α) (swaps more : Nat) (s : RandomStream) :
    exchange xs (swaps + more) s = (exchange xs swaps s).bind fun drawn => exchange drawn.1 more drawn.2 := by
  induction swaps generalizing xs s with
  | zero => rw [Nat.zero_add]; rfl
  | succ swaps ih =>
      rw [Nat.add_right_comm]
      by_cases nonempty : 0 < xs.size
      · simp only [exchange_succ nonempty, ih, Option.bind_assoc]
      · rw [exchange_of_empty nonempty, exchange_of_empty nonempty, Option.bind_some, exchange_of_empty nonempty]

theorem shuffle_add (xs : List α) (swaps more : Nat) (s : RandomStream) :
    shuffle xs (swaps + more) s = (shuffle xs swaps s).bind fun drawn => shuffle drawn.1 more drawn.2 := by
  unfold shuffle
  rw [exchange_add]
  cases exchange xs.toArray swaps s with
  | none => rfl
  | some drawn => simp

/-- How many words are drawn for a list, and where its elements come from, is the same for all lists of one length.
Either all of them are shuffled or none is. -/
theorem exists_position_perm (size swaps : Nat) (s : RandomStream) :
    (∀ (γ : Type) (xs : List γ), xs.length = size → shuffle xs swaps s = none) ∨
      ∃ (words : Nat) (source : Equiv.Perm (Fin size)), ∀ (γ : Type) (xs : List γ), xs.length = size →
        ∃ ys, shuffle xs swaps s = some (ys, s.skip words) ∧
          ∀ position : Fin size, ys[position.val]? = xs[(source position).val]? := by
  have named {γ : Type} (xs : List γ) (same : xs.length = size) : shuffle xs swaps s =
      (shuffle (List.finRange size) swaps s).map fun drawn =>
        (drawn.1.map fun position => xs.get (position.cast same.symm), drawn.2) := by
    subst same
    conv_lhs => rw [← List.map_get_finRange xs, shuffle_map]
    rfl
  cases ended : shuffle (List.finRange size) swaps s with
  | none =>
      refine .inl fun γ xs same => ?_
      rw [named xs same, ended]
      rfl
  | some drawn =>
      obtain ⟨moved, s'⟩ := drawn
      obtain ⟨words, rfl⟩ := exchange_skip (shuffle_eq_some_iff.mp ended)
      have perm : moved.Perm (List.finRange size) := shuffle_perm ended
      have length : moved.length = size := by simpa using perm.length_eq
      have distinct : moved.Nodup := perm.nodup_iff.mpr (List.nodup_finRange size)
      have injective : Function.Injective fun position : Fin size => moved.get (position.cast length.symm) :=
        (List.nodup_iff_injective_get.mp distinct).comp (Fin.cast_injective length.symm)
      refine .inr ⟨words, .ofBijective _ (Finite.injective_iff_bijective.mp injective), fun γ xs same => ?_⟩
      rw [named xs same, ended]
      exact ⟨_, rfl, fun position => by simp [length, same]⟩

/-- A shuffle can be taken in two parts, does not see the elements, and moves them by a permutation of the positions
that only the stream, the length and the number of swaps decide on.  These also decide whether it ends, which it does
on a stream that yields for the length. -/
theorem shuffle_by_position (xs : List α) (f : α → β) (swaps more : Nat) (s : RandomStream) :
    shuffle xs (swaps + more) s = (shuffle xs swaps s).bind (fun drawn => shuffle drawn.1 more drawn.2) ∧
      shuffle (xs.map f) swaps s = (shuffle xs swaps s).map (fun drawn => (drawn.1.map f, drawn.2)) ∧
      ((∀ (γ : Type) (ys : List γ), ys.length = xs.length → shuffle ys swaps s = none) ∧
          ¬s.Yields xs.length ∨
        ∃ (words : Nat) (source : Equiv.Perm (Fin xs.length)), ∀ (γ : Type) (ys : List γ), ys.length = xs.length →
          ∃ zs, shuffle ys swaps s = some (zs, s.skip words) ∧
            ∀ position : Fin xs.length, zs[position.val]? = ys[(source position).val]?) := by
  refine ⟨shuffle_add xs swaps more s, shuffle_map f xs swaps s, ?_⟩
  rcases exists_position_perm xs.length swaps s with endless | moved
  · refine .inl ⟨endless, fun yields => ?_⟩
    obtain ⟨ys, words, ended⟩ := yields.exists_shuffle swaps
    rw [endless α xs rfl] at ended
    cases ended
  · exact .inr moved

/-- Where a position is drawn out of three, the first word of this stream is refused. -/
def refusedFirst : RandomStream :=
  .ofWords [0x4000000000000000, 0x8000000000000000, 0, 0xc000000000000000, 0x8000000000000000]

/-- Three elements are drawn from with the second and the third word. -/
theorem index_refusedFirst (three : 0 < 3) : refusedFirst.index three = some (1, refusedFirst.skip 2) ∧
    (refusedFirst.skip 2).index three = some (0, refusedFirst.skip 3) ∧
    (refusedFirst.skip 3).index three = some (2, refusedFirst.skip 4) ∧
    (refusedFirst.skip 4).index three = some (1, refusedFirst.skip 5) := by
  refine ⟨RandomStream.index_of_accepts three (?_ : RandomStream.FirstAccepted 3 refusedFirst 1),
    RandomStream.index_of_accepts three (?_ : RandomStream.FirstAccepted 3 (refusedFirst.skip 2) 0),
    RandomStream.index_of_accepts three (?_ : RandomStream.FirstAccepted 3 (refusedFirst.skip 3) 0),
    RandomStream.index_of_accepts three (?_ : RandomStream.FirstAccepted 3 (refusedFirst.skip 4) 0)⟩ <;>
  decide +kernel

theorem shuffle_refusedFirst (a b c : α) :
    shuffle [a, b, c] 1 refusedFirst = some ([b, a, c], refusedFirst.skip 3) ∧
      shuffle [a, b, c] 2 refusedFirst = some ([b, c, a], refusedFirst.skip 5) := by
  have three : 0 < #[a, b, c].size := by simp
  obtain ⟨first, second, third, fourth⟩ := index_refusedFirst three
  constructor
  · exact shuffle_eq_some_iff.mpr (exchange_of_draws 0 first second)
  · have three' : 0 < #[b, a, c].size := by simp
    have last : exchange #[b, a, c] 1 (refusedFirst.skip 3) = some (#[b, c, a], refusedFirst.skip 5) :=
      @exchange_of_draws α #[b, a, c] _ _ _ three' _ _ 0 third fourth
    exact shuffle_eq_some_iff.mpr ((exchange_of_draws 1 first second).trans last)

theorem shuffle_by_position_refusedFirst :
    ([true, false, false] : List Bool).length = ([30, 10, 20] : List Int).length ∧
      shuffle ([30, 10, 20] : List Int) (1 + 1) refusedFirst = shuffle [10, 30, 20] 1 (refusedFirst.skip 3) ∧
      shuffle ([-30, -10, -20] : List Int) 1 refusedFirst = some ([-10, -30, -20], refusedFirst.skip 3) ∧
      ∃ source : Equiv.Perm (Fin 3), ∀ position : Fin 3,
        ([10, 30, 20] : List Int)[position.val]? = ([30, 10, 20] : List Int)[(source position).val]? ∧
          ([false, true, false] : List Bool)[position.val]? =
            ([true, false, false] : List Bool)[(source position).val]? := by
  have same : ([true, false, false] : List Bool).length = ([30, 10, 20] : List Int).length := rfl
  have moved := (shuffle_refusedFirst (30 : Int) 10 20).1
  have moved' := (shuffle_refusedFirst true false false).1
  obtain ⟨twice, negated, ⟨endless, -⟩ | ⟨words, source, alike⟩⟩ :=
    shuffle_by_position ([30, 10, 20] : List Int) (- ·) 1 1 refusedFirst
  · rw [endless Int [30, 10, 20] rfl] at moved
    cases moved
  · obtain ⟨zs, drawn, places⟩ := alike Int [30, 10, 20] rfl
    obtain ⟨zs', drawn', places'⟩ := alike Bool [true, false, false] same
    rw [moved] at twice negated
    obtain ⟨rfl, -⟩ := Prod.mk.inj (Option.some.inj (moved.symm.trans drawn))
    obtain ⟨rfl, -⟩ := Prod.mk.inj (Option.some.inj (moved'.symm.trans drawn'))
    exact ⟨same, twice, negated, source, fun position => ⟨places position, places' position⟩⟩

end QuicksortStudy
