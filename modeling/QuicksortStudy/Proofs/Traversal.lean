import Mathlib

/-!
# Steps that may fail

What is known of the parts when a computation of several steps has ended, well or with an error.  A step for
every entry of a list either succeeds for all of them or has a first entry at which it fails.
-/

namespace QuicksortStudy

variable {α β ε : Type}

theorem exists_of_bind {f : α → Except ε β} {x : Except ε α} {y : β} (done : x.bind f = .ok y) :
    ∃ a, x = .ok a ∧ f a = .ok y := by
  cases x with
  | error error => cases done
  | ok a => exact ⟨a, rfl, done⟩

theorem exists_of_map {f : α → β} {x : Except ε α} {y : β} (done : x.map f = .ok y) : ∃ a, x = .ok a ∧ f a = y := by
  cases x with
  | error error => cases done
  | ok a => exact ⟨a, rfl, Except.ok.inj done⟩

theorem error_of_map {f : α → β} {x : Except ε α} {error : ε} (failed : x.map f = .error error) :
    x = .error error := by
  cases x with
  | error error' =>
      cases failed
      rfl
  | ok a => cases failed

/-! ## A step for every entry -/

theorem map_eq_map_iff {γ : Type} {f : α → γ} {g : β → γ} {xs : List α} {ys : List β} :
    xs.map f = ys.map g ↔ List.Forall₂ (fun x y => f x = g y) xs ys := by
  rw [← List.forall₂_eq_eq_eq, List.forall₂_map_left_iff, List.forall₂_map_right_iff]

theorem mapM_eq_ok_iff {f : α → Except ε β} {xs : List α} {ys : List β} :
    xs.mapM f = .ok ys ↔ List.Forall₂ (fun x y => f x = .ok y) xs ys := by
  induction xs generalizing ys with
  | nil =>
      rw [List.mapM_nil, List.forall₂_nil_left_iff]
      exact ⟨fun same => (Except.ok.inj same).symm, fun empty => congrArg Except.ok empty.symm⟩
  | cons x xs ih =>
      rw [List.mapM_cons, List.forall₂_cons_left_iff]
      constructor
      · intro done
        obtain ⟨y, first, done⟩ := exists_of_bind done
        obtain ⟨ys', others, done⟩ := exists_of_bind done
        exact ⟨y, ys', first, ih.mp others, (Except.ok.inj done).symm⟩
      · rintro ⟨y, ys', first, others, rfl⟩
        rw [first, ih.mpr others]
        rfl

theorem mapM_eq_some_iff {f : α → Option β} {xs : List α} {ys : List β} :
    xs.mapM f = some ys ↔ List.Forall₂ (fun x y => f x = some y) xs ys := by
  induction xs generalizing ys with
  | nil =>
      rw [List.mapM_nil, List.forall₂_nil_left_iff]
      exact ⟨fun same => (Option.some.inj same).symm, fun empty => congrArg some empty.symm⟩
  | cons x xs ih =>
      rw [List.mapM_cons, List.forall₂_cons_left_iff]
      constructor
      · intro done
        obtain ⟨y, first, done⟩ := Option.bind_eq_some_iff.mp done
        obtain ⟨ys', others, done⟩ := Option.bind_eq_some_iff.mp done
        exact ⟨y, ys', first, ih.mp others, (Option.some.inj done).symm⟩
      · rintro ⟨y, ys', first, others, rfl⟩
        rw [first, ih.mpr others]
        rfl

/-- The entry behind some others is at the position of their number. -/
theorem getElem?_behind (before : List α) (x : α) (after : List α) :
    (before ++ x :: after)[before.length]? = some x := by
  rw [List.getElem?_append_right (Nat.le_refl _), Nat.sub_self, List.getElem?_cons_zero]

theorem exists_mem_of_forall₂ {r : α → β → Prop} {xs : List α} {ys : List β} (all : List.Forall₂ r xs ys) :
    ∀ x ∈ xs, ∃ y ∈ ys, r x y := by
  induction all with
  | nil => exact List.forall_mem_nil _
  | @cons x y xs ys first others ih =>
      refine List.forall_mem_cons.mpr ⟨⟨y, List.mem_cons_self .., first⟩, fun x' member => ?_⟩
      obtain ⟨y', inRest, related⟩ := ih x' member
      exact ⟨y', List.mem_cons_of_mem y inRest, related⟩

theorem exists_of_forall₂ {r : α → β → Prop} {xs : List α} {ys : List β} (all : List.Forall₂ r xs ys) :
    ∀ x ∈ xs, ∃ y, r x y := by
  intro x member
  obtain ⟨y, -, related⟩ := exists_mem_of_forall₂ all x member
  exact ⟨y, related⟩

/-- The first step that fails decides. -/
theorem mapM_of_first_error {f : α → Except ε β} {before after : List α} {x : α} {error : ε}
    (good : ∀ y ∈ before, ∃ b, f y = .ok b) (bad : f x = .error error) :
    (before ++ x :: after).mapM f = .error error := by
  induction before with
  | nil =>
      rw [List.nil_append, List.mapM_cons, bad]
      rfl
  | cons y before ih =>
      obtain ⟨b, done⟩ := good y (List.mem_cons_self ..)
      rw [List.cons_append, List.mapM_cons, done, ih fun z member => good z (List.mem_cons_of_mem y member)]
      rfl

/-- Either all steps succeed or one is the first that fails. -/
theorem all_ok_or_first_error (f : α → Except ε β) (xs : List α) :
    (∃ ys, List.Forall₂ (fun x y => f x = .ok y) xs ys) ∨
      ∃ before x after error, xs = before ++ x :: after ∧
        (∃ ys, List.Forall₂ (fun x y => f x = .ok y) before ys) ∧ f x = .error error := by
  induction xs with
  | nil => exact .inl ⟨[], .nil⟩
  | cons x xs ih =>
      cases first : f x with
      | error error => exact .inr ⟨[], x, xs, error, rfl, ⟨[], .nil⟩, first⟩
      | ok y =>
          rcases ih with ⟨ys, all⟩ | ⟨before, x', after, error, rfl, ⟨ys, all⟩, bad⟩
          · exact .inl ⟨y :: ys, .cons first all⟩
          · exact .inr ⟨x :: before, x', after, error, rfl, ⟨y :: ys, .cons first all⟩, bad⟩

end QuicksortStudy
