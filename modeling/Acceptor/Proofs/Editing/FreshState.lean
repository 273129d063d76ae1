import Acceptor.Ident
import Mathlib.Data.List.Nodup
import Mathlib.Data.List.Perm.Subperm

/-! # Fresh identifiers of states

A fresh identifier carries the least number, counted from as many as there are identifiers, that
none of these carries (`exists_leastFree_fresh`). The search for it cannot fail: one more number is
tried than there are identifiers, and different numbers make different identifiers.
-/

namespace Acceptor.StateId

/-- The first number whose identifier is free, from as many as identifiers are taken. -/
structure LeastFree (taken : List StateId) (number : Nat) : Prop where
  counted : taken.length ≤ number
  free : numbered number ∉ taken
  least : ∀ other, taken.length ≤ other → other < number → numbered other ∈ taken

/-- Not all candidates can be taken, since there are more of them than taken identifiers. -/
theorem exists_free_candidate (taken : List StateId) :
    ∃ number ∈ List.range' taken.length (taken.length + 1), numbered number ∉ taken := by
  by_contra! allTaken
  have distinct : ((List.range' taken.length (taken.length + 1)).map numbered).Nodup :=
    List.Nodup.map (fun _ _ => numbered_injective) (List.nodup_range' 1)
  have included : (List.range' taken.length (taken.length + 1)).map numbered ⊆ taken := by
    intro id member
    obtain ⟨number, candidate, rfl⟩ := List.mem_map.mp member
    exact allTaken number candidate
  have fits := (List.subperm_of_subset distinct included).length_le
  rw [List.length_map, List.length_range'] at fits
  omega

theorem exists_leastFree_fresh (taken : List StateId) :
    ∃ number, fresh taken = numbered number ∧ number ≤ 2 * taken.length ∧
      LeastFree taken number := by
  cases found : (List.range' taken.length (taken.length + 1)).find? fun number =>
      !taken.contains (numbered number) with
  | none =>
    obtain ⟨number, candidate, free⟩ := exists_free_candidate taken
    have refused := List.find?_eq_none.mp found number candidate
    simp [free] at refused
  | some number =>
    obtain ⟨free, candidate, earlier⟩ := List.find?_range'_eq_some.mp found
    rw [List.mem_range'_1] at candidate
    refine ⟨number, ?_, by omega, candidate.1, by simpa using free, ?_⟩
    · simp only [fresh, found, Option.getD_some]
    · intro other counted before
      simpa using earlier other counted before

theorem LeastFree.unique {taken : List StateId} {first second : Nat}
    (leastFirst : LeastFree taken first) (leastSecond : LeastFree taken second) :
    first = second := by
  rcases Nat.lt_trichotomy first second with before | same | behind
  · exact absurd (leastSecond.least first leastFirst.counted before) leastFirst.free
  · exact same
  · exact absurd (leastFirst.least second leastSecond.counted behind) leastSecond.free

/-- The fresh identifier is the one that carries the least free number. -/
theorem fresh_eq_iff {taken : List StateId} {id : StateId} :
    fresh taken = id ↔ ∃ number, id = numbered number ∧ LeastFree taken number := by
  obtain ⟨number, found, -, leastFree⟩ := exists_leastFree_fresh taken
  constructor
  · rintro rfl
    exact ⟨number, found, leastFree⟩
  · rintro ⟨other, rfl, leastOther⟩
    rw [found, leastFree.unique leastOther]

theorem fresh_not_mem (taken : List StateId) : fresh taken ∉ taken := by
  obtain ⟨number, same, -, leastFree⟩ := exists_leastFree_fresh taken
  rw [same]
  exact leastFree.free

end Acceptor.StateId
