import Acceptor.Proofs.Decimal.Spelling
import Acceptor.Proofs.Editing.FreshState

/-! # The search for a fresh identifier

The search goes up from as many as there are identifiers until it meets a free candidate. Nothing in
`StateId.Searches` says that it ever does: a search that only met taken candidates would have no
course. It ends because different numbers make different identifiers, at the least free number,
which a fresh identifier carries (`fresh_search_ends`). Only identifiers that are `q` and a numeral
can be candidates, so no others are in its way (`isNumbered_iff`, `searches_filter_iff`).
-/

namespace Acceptor

namespace StateId

/-! ## Candidates -/

/-- The identifier is `q` and a decimal numeral without zeros to spare. -/
def IsNumbered (id : StateId) : Prop :=
  id.text.toList.head? = some 'q' ∧ Json.WholeDigits id.text.toList.tail

instance : DecidablePred IsNumbered := fun id =>
  inferInstanceAs (Decidable (id.text.toList.head? = some 'q' ∧
    Json.WholeDigits id.text.toList.tail))

theorem toList_text_numbered (number : Nat) :
    (numbered number).text.toList = 'q' :: Nat.toDigits 10 number := by
  simp only [numbered, Nat.toString_eq_ofList_toDigits, String.toList_append, String.toList_ofList]
  rfl

/-- The candidates are the identifiers that are `q` and a numeral. -/
theorem isNumbered_iff {id : StateId} : id.IsNumbered ↔ ∃ number, id = numbered number := by
  constructor
  · rintro ⟨begins, whole⟩
    obtain ⟨number, written⟩ := Decimal.exists_toDigits_eq whole
    refine ⟨number, ?_⟩
    have spelled : id.text.toList = (numbered number).text.toList := by
      rw [toList_text_numbered, written]
      exact (List.cons_head?_tail begins).symm
    obtain ⟨text⟩ := id
    exact congrArg StateId.mk (String.toList_inj.mp spelled)
  · rintro ⟨number, rfl⟩
    rw [IsNumbered, toList_text_numbered]
    exact ⟨rfl, Decimal.wholeDigits_toDigits number⟩

example : ¬ IsNumbered ⟨"q007"⟩ ∧ ¬ IsNumbered ⟨"q+1"⟩ ∧ IsNumbered ⟨"q70"⟩ := by decide

/-! ## The course of the search -/

/-- How the search goes from a number on: the numbers that are tried one after another, as long as
their identifiers are taken, and the free one that is found. -/
inductive Searches (taken : List StateId) : Nat → List Nat → StateId → Prop
  | found {number : Nat} : numbered number ∉ taken →
    Searches taken number [number] (numbered number)
  | onward {number : Nat} {tried : List Nat} {id : StateId} : numbered number ∈ taken →
    Searches taken (number + 1) tried id → Searches taken number (number :: tried) id

/-- The search ends at the first free candidate. -/
theorem searches_of_free {taken : List StateId} {start count : Nat}
    (free : numbered (start + count) ∉ taken)
    (earlier : ∀ other, start ≤ other → other < start + count → numbered other ∈ taken) :
    Searches taken start (List.range' start (count + 1)) (numbered (start + count)) := by
  induction count generalizing start with
  | zero => exact .found free
  | succ count ih =>
    have further : start + (count + 1) = start + 1 + count := by omega
    rw [further] at free ⊢
    have blocked : numbered start ∈ taken := earlier start (Nat.le_refl start) (by omega)
    exact .onward blocked (ih free fun other above below =>
      earlier other (by omega) (by omega))

/-- From each number the search goes one way only. -/
theorem Searches.unique {taken : List StateId} {start : Nat} {tried others : List Nat}
    {id other : StateId} (searches : Searches taken start tried id)
    (searchesOther : Searches taken start others other) : tried = others ∧ id = other := by
  induction searches generalizing others with
  | found free =>
    cases searchesOther with
    | found _ => exact ⟨rfl, rfl⟩
    | onward blocked _ => exact absurd blocked free
  | onward blocked _ ih =>
    cases searchesOther with
    | found free => exact absurd blocked free
    | onward _ further =>
      obtain ⟨rfl, rfl⟩ := ih further
      exact ⟨rfl, rfl⟩

/-- Where the same candidates are taken, the search goes the same way. -/
theorem Searches.of_candidates {taken others : List StateId} {start : Nat} {tried : List Nat}
    {id : StateId} (same : ∀ number, numbered number ∈ others ↔ numbered number ∈ taken)
    (searches : Searches taken start tried id) : Searches others start tried id := by
  induction searches with
  | found free => exact .found fun blocked => free ((same _).mp blocked)
  | onward blocked _ ih => exact .onward ((same _).mpr blocked) ih

/-- Identifiers that are no candidates do not matter to the search. -/
theorem searches_filter_iff {taken : List StateId} {start : Nat} {tried : List Nat} {id : StateId} :
    Searches (taken.filter fun other => other.IsNumbered) start tried id ↔
      Searches taken start tried id := by
  have same (number : Nat) :
      numbered number ∈ (taken.filter fun other => other.IsNumbered) ↔
        numbered number ∈ taken := by
    have candidate : (numbered number).IsNumbered := isNumbered_iff.mpr ⟨number, rfl⟩
    rw [List.mem_filter, decide_eq_true candidate, eq_self, and_true]
  exact ⟨.of_candidates fun number => (same number).symm, .of_candidates same⟩

end StateId

open StateId in
/-- The search for a fresh identifier comes to an end, whatever identifiers there are and however
often. It tries the numbers from as many as there are identifiers up to the least free one, at most
one more than there are identifiers, and finds the identifier that a new state is given. None but
`q` and a numeral is ever in its way. -/
theorem fresh_search_ends (taken : List StateId) :
    (∃ number, LeastFree taken number ∧ number ≤ 2 * taken.length ∧
      fresh taken = numbered number ∧
      (∀ tried id, Searches taken taken.length tried id ↔
        tried = List.range' taken.length (number + 1 - taken.length) ∧ id = fresh taken) ∧
      number + 1 - taken.length ≤ taken.length + 1) ∧
    fresh taken ∉ taken ∧
    (∀ id : StateId, id.IsNumbered ↔ ∃ number, id = numbered number) ∧
    ∀ start tried id, Searches (taken.filter fun other => other.IsNumbered) start tried id ↔
      Searches taken start tried id := by
  refine ⟨?_, fresh_not_mem taken, fun _ => isNumbered_iff, fun _ _ _ => searches_filter_iff⟩
  obtain ⟨number, found, bound, least⟩ := exists_leastFree_fresh taken
  obtain ⟨count, rfl⟩ := Nat.exists_eq_add_of_le least.counted
  have ends := searches_of_free least.free least.least
  have counted : taken.length + count + 1 - taken.length = count + 1 := by omega
  rw [← found] at ends
  refine ⟨_, least, bound, found, fun tried id => ?_, by omega⟩
  rw [counted]
  constructor
  · intro searches
    exact searches.unique ends
  · rintro ⟨rfl, rfl⟩
    exact ends

end Acceptor
