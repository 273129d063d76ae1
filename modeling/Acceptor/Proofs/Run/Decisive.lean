import Acceptor.Proofs.Run.Agreement
import Acceptor.Proofs.Run.Dependence
import Acceptor.Proofs.Validation.Report
import Mathlib.Data.List.Induction

/-! # Decisive transitions

Where several transitions leave a state on one symbol, the first in the list decides. Runs,
validation and the list itself agree on which one that is, and the others may as well not be there:
without them nothing is left to complain of and every run stays the same
(`first_transition_decides`).
-/

namespace Acceptor

open Walk

/-- The transitions of a list that no earlier one goes before. -/
def decisive (transitions : List Transition) : List Transition :=
  transitions.flatMapWithEarlier fun earlier transition =>
    if ∃ other ∈ earlier, other.source = transition.source ∧ other.symbol = transition.symbol
    then [] else [transition]

/-- The automaton with its decisive transitions only. -/
def Automaton.settled (automaton : Automaton) : Automaton :=
  { automaton with transitions := decisive automaton.transitions }

/-- The transitions without the ones that never decide lead to the same states. -/
theorem firstTarget?_decisive (transitions : List Transition) :
    firstTarget? (decisive transitions) = firstTarget? transitions := by
  funext state symbol
  -- Only the last transition of a list may have all others before it, so the list grows at its end.
  induction transitions using List.reverseRecOn with
  | nil => rfl
  | append_singleton earlier transition ih =>
    rw [decisive, List.flatMapWithEarlier_concat, firstTarget?_append, firstTarget?_append,
      ← decisive, ih]
    split
    · next preceded =>
      cases found : firstTarget? earlier state symbol with
      | some target => rfl
      | none =>
        have elsewhere : firstTarget? [transition] state symbol = none := by
          rw [firstTarget?_eq_none_iff] at found ⊢
          intro last member
          rw [List.mem_singleton.mp member]
          rintro ⟨rfl, rfl⟩
          obtain ⟨other, listed, same⟩ := preceded
          exact found other listed same
        rw [elsewhere]
        rfl
    · rfl

theorem decisive_subset (transitions : List Transition) : decisive transitions ⊆ transitions := by
  intro transition member
  obtain ⟨earlier, kept, later, rfl, here⟩ := List.mem_flatMapWithEarlier.mp member
  split at here
  · exact absurd here List.not_mem_nil
  · rw [List.mem_singleton.mp here]
    exact List.mem_append_right _ List.mem_cons_self

/-- No two decisive transitions leave the same state on the same symbol. -/
theorem pairwise_decisive (transitions : List Transition) :
    (decisive transitions).Pairwise fun earlier later =>
      ¬ (earlier.source = later.source ∧ earlier.symbol = later.symbol) := by
  induction transitions using List.reverseRecOn with
  | nil => exact .nil
  | append_singleton earlier transition ih =>
    rw [decisive, List.flatMapWithEarlier_concat, ← decisive]
    split
    · rwa [List.append_nil]
    · next first =>
      refine List.pairwise_append.mpr ⟨ih, List.pairwise_singleton .., ?_⟩
      intro other member last isLast
      rw [List.mem_singleton.mp isLast]
      intro same
      exact first ⟨other, decisive_subset earlier member, same⟩

namespace Automaton

/-- A transition has a conflict among its defects if an earlier one serves its state and symbol. -/
theorem nondeterministic_mem_transitionDefects_iff {automaton : Automaton}
    {earlier : List Transition} {transition : Transition} {state kept conflicting : StateId}
    {symbol : Symbol} :
    .nondeterministic state symbol kept conflicting ∈
        automaton.transitionDefects earlier transition ↔
      transition.source = state ∧ transition.symbol = symbol ∧
        transition.target = conflicting ∧ firstTarget? earlier state symbol = some kept := by
  rw [transitionDefects, List.mem_append]
  refine Iff.trans (or_iff_right ?_) ?_
  · split <;> split <;> split <;> simp
  cases found : firstTarget? earlier transition.source transition.symbol with
  | none =>
    simp only [List.not_mem_nil, false_iff]
    rintro ⟨rfl, rfl, -, first⟩
    rw [found] at first
    cases first
  | some target =>
    rw [List.mem_singleton, ValidationError.nondeterministic.injEq]
    constructor
    · rintro ⟨rfl, rfl, rfl, rfl⟩
      exact ⟨rfl, rfl, rfl, found⟩
    · rintro ⟨rfl, rfl, rfl, first⟩
      rw [found] at first
      exact ⟨rfl, rfl, (Option.some.inj first).symm, rfl⟩

/-- A conflict is reported of a transition exactly if earlier ones serve its state and symbol, and
what the report names as kept is the target of the first of these. -/
theorem nondeterministic_mem_errors_iff {automaton : Automaton} {state kept conflicting : StateId}
    {symbol : Symbol} :
    .nondeterministic state symbol kept conflicting ∈ automaton.validate.value.errors ↔
      ∃ earlier transition later, automaton.transitions = earlier ++ transition :: later ∧
        transition.source = state ∧ transition.symbol = symbol ∧
        transition.target = conflicting ∧ firstTarget? earlier state symbol = some kept := by
  simp only [← @nondeterministic_mem_transitionDefects_iff automaton,
    ← List.mem_flatMapWithEarlier]
  rw [errors_validate, defects, List.mem_append]
  refine or_iff_right ?_
  simp only [List.mem_append, List.mem_map, reduceCtorEq, and_false, exists_false, or_false]
  split <;> split <;> simp

/-- What a conflict names as kept is where runs go. -/
theorem next?_of_nondeterministic {automaton : Automaton} {state kept conflicting : StateId}
    {symbol : Symbol}
    (reported : .nondeterministic state symbol kept conflicting ∈
      automaton.validate.value.errors) : automaton.next? state symbol = some kept := by
  obtain ⟨earlier, transition, later, split, -, -, -, first⟩ :=
    nondeterministic_mem_errors_iff.mp reported
  rw [next?_eq, split, firstTarget?_append, first, Option.some_or]

/-- Among decisive transitions there is no conflict. -/
theorem nondeterministic_not_mem_errors_settled (automaton : Automaton)
    (state kept conflicting : StateId) (symbol : Symbol) :
    .nondeterministic state symbol kept conflicting ∉
      automaton.settled.validate.value.errors := by
  intro reported
  obtain ⟨earlier, transition, later, split, rfl, rfl, -, first⟩ :=
    nondeterministic_mem_errors_iff.mp reported
  obtain ⟨other, listed, source, symbol, -⟩ := exists_of_firstTarget?_eq_some first
  have apart := pairwise_decisive automaton.transitions
  rw [List.pairwise_iff_forall_earlier] at apart
  exact apart earlier transition later split other listed ⟨source, symbol⟩

/-- Looking among the transitions that leave the state finds the same as the index. -/
theorem next?_eq_find? (automaton : Automaton) (state : StateId) (symbol : Symbol) :
    automaton.next? state symbol =
      ((automaton.transitionsFrom state).find? fun transition =>
        transition.symbol == symbol).map Transition.target := by
  rw [next?_eq, firstTarget?, transitionsFrom, List.find?_filter]
  congr 2
  funext transition
  rw [Bool.eq_iff_iff, Transition.serves_eq_true_iff]
  simp

/-- Verdict, trace and steps depend on where first transitions lead, not on the other ones. -/
theorem value_runs_eq_of_firstTarget?_eq (automaton other : Automaton)
    (alphabet : automaton.alphabet = other.alphabet) (initial : automaton.initial = other.initial)
    (accepting : automaton.accepting = other.accepting)
    (targets : firstTarget? automaton.transitions = firstTarget? other.transitions)
    (word : Word) :
    (automaton.judge word).value = (other.judge word).value ∧
    (automaton.trace word).value = (other.trace word).value ∧
    (automaton.steps word).value = (other.steps word).value := by
  have same : other.SameFrame automaton := .of_eq initial alphabet accepting
  exact same.value_runs_eq targets word

end Automaton

/-- One rule everywhere: of several transitions from a state on a symbol the first in the list
decides. The index of runs finds it, as does looking through the transitions of the state, and the
report of a conflict names it as kept. Without all others there is no conflict to report and
nothing else changes for runs. -/
theorem first_transition_decides (automaton : Automaton) :
    (∀ state symbol,
      automaton.next? state symbol =
        ((automaton.transitionsFrom state).find? fun transition =>
          transition.symbol == symbol).map Transition.target ∧
      (automaton.next? state symbol = none ↔
        ∀ transition ∈ automaton.transitionsFrom state, transition.symbol ≠ symbol)) ∧
    (∀ state symbol kept conflicting,
      .nondeterministic state symbol kept conflicting ∈ automaton.validate.value.errors →
        automaton.next? state symbol = some kept) ∧
    (∀ state symbol kept conflicting,
      .nondeterministic state symbol kept conflicting ∉
        automaton.settled.validate.value.errors) ∧
    (∀ state symbol, automaton.settled.next? state symbol = automaton.next? state symbol) ∧
    ∀ word,
      (automaton.settled.judge word).value = (automaton.judge word).value ∧
      (automaton.settled.trace word).value = (automaton.trace word).value ∧
      (automaton.settled.steps word).value = (automaton.steps word).value := by
  have targets : firstTarget? automaton.settled.transitions =
      firstTarget? automaton.transitions :=
    firstTarget?_decisive automaton.transitions
  refine ⟨fun state symbol => ⟨automaton.next?_eq_find? state symbol, ?_⟩, ?_, ?_, ?_, ?_⟩
  · rw [automaton.next?_eq_find?, Option.map_eq_none_iff, List.find?_eq_none]
    simp only [beq_iff_eq, ne_eq]
  · intro state symbol kept conflicting reported
    exact Automaton.next?_of_nondeterministic reported
  · intro state symbol kept conflicting
    exact automaton.nondeterministic_not_mem_errors_settled state kept conflicting symbol
  · intro state symbol
    rw [Automaton.next?_eq, Automaton.next?_eq, targets]
  · intro word
    exact automaton.settled.value_runs_eq_of_firstTarget?_eq automaton rfl rfl rfl targets word

/-- Three transitions leave one state on one symbol, with others between them. -/
def contested : Automaton where
  id := "contested"
  name := "contested"
  description := none
  alphabet := ⟨['a', 'b']⟩
  states := [.ofId ⟨"s"⟩, .ofId ⟨"t"⟩, .ofId ⟨"u"⟩]
  transitions := [⟨⟨"t0"⟩, ⟨"s"⟩, 'a', ⟨"t"⟩⟩, ⟨⟨"t1"⟩, ⟨"t"⟩, 'a', ⟨"s"⟩⟩,
    ⟨⟨"t2"⟩, ⟨"s"⟩, 'a', ⟨"u"⟩⟩, ⟨⟨"t3"⟩, ⟨"s"⟩, 'b', ⟨"s"⟩⟩, ⟨⟨"t4"⟩, ⟨"s"⟩, 'a', ⟨"s"⟩⟩]
  initial := ⟨"s"⟩
  accepting := [⟨"t"⟩]

/-- The last of the three is reported against the first, not against the one in between. -/
theorem first_transition_decides_contested :
    .nondeterministic ⟨"s"⟩ 'a' ⟨"t"⟩ ⟨"s"⟩ ∈ contested.validate.value.errors ∧
      contested.next? ⟨"s"⟩ 'a' = some ⟨"t"⟩ ∧
      (contested.settled.judge ['b', 'a']).value = (contested.judge ['b', 'a']).value := by
  have reported : .nondeterministic ⟨"s"⟩ 'a' ⟨"t"⟩ ⟨"s"⟩ ∈ contested.validate.value.errors := by
    rw [Automaton.errors_validate]
    decide
  exact ⟨reported, (first_transition_decides contested).2.1 _ _ _ _ reported,
    ((first_transition_decides contested).2.2.2.2 _).1⟩

end Acceptor
