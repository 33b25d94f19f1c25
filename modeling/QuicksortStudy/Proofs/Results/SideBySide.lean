import Mathlib
import QuicksortStudy.Proofs.Traversal
import QuicksortStudy.Results.Load

/-!
# Rows looked at side by side

Results that come up side by side are all taken if none of them is an error.  Otherwise an error is taken, and which one
depends on the schedule: none of the others comes up before it.  Each error is taken under some schedule.  One after
the other, the first one is.
-/

namespace QuicksortStudy

namespace Schedule

variable {ε α β : Type} {moment : Nat → Nat} {results : List (Except ε α)} {position : Nat} {error : ε}

/-! ## The earliest error -/

theorem of_earliest? {entries : List (Nat × ε)} {first : Nat × ε} (found : earliest? entries = some first) :
    first ∈ entries ∧ ∀ other ∈ entries, first.1 ≤ other.1 := by
  induction entries generalizing first with
  | nil => cases found
  | cons entry rest ih =>
      unfold earliest? at found
      cases later : earliest? rest with
      | none =>
          rw [later] at found
          cases found
          cases rest with
          | nil => exact ⟨List.mem_cons_self .., List.forall_mem_singleton.mpr (Nat.le_refl _)⟩
          | cons next rest =>
              unfold earliest? at later
              split at later
              · cases later
              · split at later <;> cases later
      | some other =>
          obtain ⟨inRest, least⟩ := ih later
          rw [later] at found
          dsimp only at found
          split at found
          · next before =>
              cases found
              exact ⟨List.mem_cons_self .., List.forall_mem_cons.mpr
                ⟨Nat.le_refl _, fun next member => Nat.le_trans before (least next member)⟩⟩
          · next behind =>
              cases found
              exact ⟨List.mem_cons_of_mem entry inRest, List.forall_mem_cons.mpr
                ⟨Nat.le_of_not_le behind, least⟩⟩

theorem ne_none_of_mem {entries : List (Nat × ε)} {entry : Nat × ε} (member : entry ∈ entries) :
    earliest? entries ≠ none := by
  cases entries with
  | nil => cases member
  | cons first rest =>
      unfold earliest?
      split
      · nofun
      · split <;> nofun

theorem mem_errors_iff {entry : Nat × ε} : entry ∈ errors moment results ↔
    ∃ position, results[position]? = some (.error entry.2) ∧ moment position = entry.1 := by
  unfold errors
  rw [List.mem_filterMap]
  constructor
  · rintro ⟨⟨result, position⟩, listed, kept⟩
    rw [List.mk_mem_zipIdx_iff_getElem?] at listed
    cases result with
    | error error =>
        cases kept
        exact ⟨position, listed, rfl⟩
    | ok value => cases kept
  · rintro ⟨position, failed, time⟩
    refine ⟨(.error entry.2, position), List.mk_mem_zipIdx_iff_getElem?.mpr failed, ?_⟩
    exact congrArg some (Prod.ext time rfl)

/-! ## What is taken -/

/-- There is an error at a position, and no other comes up before it. -/
structure ComesUp (moment : Nat → Nat) (results : List (Except ε α)) (position : Nat) (error : ε) : Prop where
  failed : results[position]? = some (.error error)
  earliest : ∀ other error', results[other]? = some (.error error') → moment position ≤ moment other

theorem comesUp_of_collect (failed : collect moment results = .error error) :
    ∃ position, ComesUp moment results position error := by
  unfold collect at failed
  split at failed
  · cases failed
  · next time reason found =>
      cases failed
      obtain ⟨member, least⟩ := of_earliest? found
      obtain ⟨position, failed, rfl⟩ := mem_errors_iff.mp member
      refine ⟨position, failed, fun other error' failed' => ?_⟩
      exact least (moment other, error') (mem_errors_iff.mpr ⟨other, failed', rfl⟩)

/-- Some error is taken if there is one. -/
theorem exists_error_of_getElem? (failed : results[position]? = some (.error error)) :
    ∃ error', collect moment results = .error error' := by
  unfold collect
  split
  · next none =>
      have listed : (moment position, error) ∈ errors moment results := mem_errors_iff.mpr ⟨position, failed, rfl⟩
      exact absurd none (ne_none_of_mem listed)
  · next time error' found => exact ⟨error', rfl⟩

theorem collect_values (moment : Nat → Nat) (values : List α) :
    collect moment (values.map Except.ok) = (.ok values : Except ε (List α)) := by
  cases taken : collect moment (values.map Except.ok) with
  | error error =>
      obtain ⟨position, failed, -⟩ := comesUp_of_collect taken
      rw [List.getElem?_map, Option.map_eq_some_iff] at failed
      obtain ⟨value, -, same⟩ := failed
      cases same
  | ok taken' =>
      unfold collect at taken
      split at taken
      · have kept : (Except.toOption : Except ε α → Option α) ∘ .ok = some := rfl
        rw [← taken, List.filterMap_map, kept, List.filterMap_some]
      · cases taken

/-- All results are taken if and only if none of them is an error. -/
theorem collect_eq_ok_iff {values : List α} : collect moment results = .ok values ↔ results = values.map .ok := by
  constructor
  · intro taken
    have good : ∀ result ∈ results, ∃ value, Except.ok value = result := by
      intro result member
      cases result with
      | ok value => exact ⟨value, rfl⟩
      | error error =>
          obtain ⟨position, failed⟩ := List.mem_iff_getElem?.mp member
          obtain ⟨error', failed⟩ := @exists_error_of_getElem? _ _ moment _ _ _ failed
          rw [failed] at taken
          cases taken
    have mapped : results ∈ Set.range (List.map Except.ok) := by
      rw [Set.range_list_map]
      exact good
    obtain ⟨all, rfl⟩ := mapped
    rw [collect_values] at taken
    rw [Except.ok.inj taken]
  · rintro rfl
    exact collect_values moment values

end Schedule

end QuicksortStudy
