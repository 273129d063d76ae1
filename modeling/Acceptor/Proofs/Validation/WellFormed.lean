import Acceptor.Proofs.Validation.Report

/-! # Well-formed automata

What it takes for an automaton to be valid, as properties of its lists: whatever is referred to is
declared, identifiers are declared once, and no two transitions serve the same state and symbol.
Validation finds no error exactly in such automata (`isValid_validate_iff_wellFormed`). Nothing is
asked about warnings: a well-formed automaton may lack transitions.
-/

namespace Acceptor.Automaton

/-- All references lead somewhere, and in only one way. -/
structure WellFormed (automaton : Automaton) : Prop where
  initial : automaton.initial ∈ automaton.stateIds
  accepting : ∀ id ∈ automaton.accepting, id ∈ automaton.stateIds
  unique : automaton.stateIds.Nodup
  source : ∀ transition ∈ automaton.transitions, transition.source ∈ automaton.stateIds
  target : ∀ transition ∈ automaton.transitions, transition.target ∈ automaton.stateIds
  symbol : ∀ transition ∈ automaton.transitions,
    transition.symbol ∈ automaton.alphabet.symbols
  deterministic : automaton.transitions.Pairwise fun earlier later =>
    ¬ (earlier.source = later.source ∧ earlier.symbol = later.symbol)

/-- A transition has no defect if its parts are known and no earlier one serves its situation. -/
theorem transitionDefects_eq_nil_iff {automaton : Automaton} {earlier : List Transition}
    {transition : Transition} :
    automaton.transitionDefects earlier transition = [] ↔
      (transition.source ∈ automaton.stateIds ∧ transition.target ∈ automaton.stateIds ∧
        transition.symbol ∈ automaton.alphabet.symbols) ∧
      ∀ other ∈ earlier,
        ¬ (other.source = transition.source ∧ other.symbol = transition.symbol) := by
  rw [← firstTarget?_eq_none_iff]
  cases found : firstTarget? earlier transition.source transition.symbol <;>
    simp [transitionDefects, found]

theorem transitions_clean_iff {automaton : Automaton} :
    automaton.transitions.flatMapWithEarlier automaton.transitionDefects = [] ↔
      (∀ transition ∈ automaton.transitions, transition.source ∈ automaton.stateIds ∧
        transition.target ∈ automaton.stateIds ∧
        transition.symbol ∈ automaton.alphabet.symbols) ∧
      automaton.transitions.Pairwise fun earlier later =>
        ¬ (earlier.source = later.source ∧ earlier.symbol = later.symbol) := by
  rw [List.flatMapWithEarlier_eq_nil_iff, List.pairwise_iff_forall_earlier]
  simp only [transitionDefects_eq_nil_iff]
  constructor
  · intro clean
    refine ⟨?_, fun earlier transition later split => (clean earlier transition later split).2⟩
    intro transition listed
    obtain ⟨earlier, later, split⟩ := List.append_of_mem listed
    exact (clean earlier transition later split).1
  · rintro ⟨known, apart⟩ earlier transition later split
    refine ⟨known transition ?_, apart earlier transition later split⟩
    rw [split]
    exact List.mem_append_right _ List.mem_cons_self

/-- An automaton with a declared initial state has states, so that defect needs no clause. -/
theorem defects_eq_nil_iff {automaton : Automaton} :
    automaton.defects = [] ↔ automaton.WellFormed := by
  simp only [defects, List.append_eq_nil_iff, List.map_eq_nil_iff, transitions_clean_iff,
    List.repetitions_eq_nil_iff, List.filter_eq_nil_iff, decide_eq_true_eq, not_not]
  constructor
  · rintro ⟨⟨⟨⟨_, initial⟩, accepting⟩, unique⟩, known, deterministic⟩
    refine ⟨?_, accepting, unique, fun _ listed => (known _ listed).1,
      fun _ listed => (known _ listed).2.1, fun _ listed => (known _ listed).2.2, deterministic⟩
    by_contra unknown
    rw [if_neg unknown] at initial
    exact List.cons_ne_nil _ _ initial
  · intro formed
    refine ⟨⟨⟨⟨if_neg (states_ne_nil_of_mem formed.initial), if_pos formed.initial⟩,
      formed.accepting⟩, formed.unique⟩, fun transition listed => ?_, formed.deterministic⟩
    exact ⟨formed.source _ listed, formed.target _ listed, formed.symbol _ listed⟩

theorem isValid_validate_iff_wellFormed {automaton : Automaton} :
    automaton.validate.value.isValid = true ↔ automaton.WellFormed :=
  automaton.isValid_validate_iff.trans defects_eq_nil_iff

end Acceptor.Automaton
