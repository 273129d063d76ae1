import Acceptor.Proofs.Validation.WellFormed
import Mathlib.Data.List.Pairwise

/-! # Well-formed but for the initial state

Of the properties that make an automaton valid, all but one speak of what its lists refer to. They
are `Automaton.Coherent`; the one that is left out is that the initial state is declared. What
validation can still report about a coherent automaton is told in `Coherent.defects_eq`.
-/

namespace Acceptor

/-- Where no two transitions leave one state on one symbol, two that do are the same one. -/
theorem Transition.eq_of_alike {transitions : List Transition}
    (deterministic : transitions.Pairwise fun earlier later =>
      ¬ (earlier.source = later.source ∧ earlier.symbol = later.symbol))
    {first second : Transition} (listedFirst : first ∈ transitions)
    (listedSecond : second ∈ transitions) (source : first.source = second.source)
    (symbol : first.symbol = second.symbol) : first = second := by
  by_contra different
  have : Std.Symm fun one other : Transition =>
      ¬ (one.source = other.source ∧ one.symbol = other.symbol) :=
    ⟨fun _ _ apart same => apart ⟨same.1.symm, same.2.symm⟩⟩
  exact deterministic.forall listedFirst listedSecond different ⟨source, symbol⟩

namespace Automaton

/-- Well-formed but for the initial state, which may be any identifier. -/
structure Coherent (automaton : Automaton) : Prop where
  accepting : ∀ id ∈ automaton.accepting, id ∈ automaton.stateIds
  unique : automaton.stateIds.Nodup
  source : ∀ transition ∈ automaton.transitions, transition.source ∈ automaton.stateIds
  target : ∀ transition ∈ automaton.transitions, transition.target ∈ automaton.stateIds
  symbol : ∀ transition ∈ automaton.transitions,
    transition.symbol ∈ automaton.alphabet.symbols
  deterministic : automaton.transitions.Pairwise fun earlier later =>
    ¬ (earlier.source = later.source ∧ earlier.symbol = later.symbol)

variable {automaton : Automaton}

theorem WellFormed.coherent (formed : automaton.WellFormed) : automaton.Coherent :=
  ⟨formed.accepting, formed.unique, formed.source, formed.target, formed.symbol,
    formed.deterministic⟩

theorem WellFormed.states_ne_nil (formed : automaton.WellFormed) : automaton.states ≠ [] :=
  states_ne_nil_of_mem formed.initial

namespace Coherent

theorem unknownAccepting_eq_nil (coherent : automaton.Coherent) :
    (automaton.accepting.filter fun id => id ∉ automaton.stateIds) = [] := by
  refine List.filter_eq_nil_iff.mpr fun id accepts => ?_
  simpa using coherent.accepting id accepts

theorem transitions_clean (coherent : automaton.Coherent) :
    automaton.transitions.flatMapWithEarlier automaton.transitionDefects = [] := by
  refine transitions_clean_iff.mpr ⟨?_, coherent.deterministic⟩
  intro transition listed
  exact ⟨coherent.source transition listed, coherent.target transition listed,
    coherent.symbol transition listed⟩

/-- A coherent automaton can only lack states and its initial one. -/
theorem defects_eq (coherent : automaton.Coherent) :
    automaton.defects =
      (if automaton.states = [] then [.noStates] else []) ++
      (if automaton.initial ∈ automaton.stateIds then []
        else [.unknownInitialState automaton.initial]) := by
  rw [defects, coherent.unknownAccepting_eq_nil, coherent.transitions_clean,
    List.repetitions_eq_nil_iff.mpr coherent.unique]
  simp only [List.map_nil, List.append_nil]

end Coherent

end Automaton

end Acceptor
