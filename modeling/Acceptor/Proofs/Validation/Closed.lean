import Acceptor.Proofs.Validation.Report

/-! # Automata that refer to declared states only

An automaton is `Automaton.Closed` if every identifier that it refers to is declared. What
validation can still report about it are repeated declarations, symbols that the alphabet does not
have and conflicts (`Closed.defect_cases`). Repetitions are reported whether it is closed or not,
exactly where they are (`filterMap_duplicate?_defects`).
-/

namespace Acceptor

/-- The identifier that is declared again. -/
def ValidationError.duplicate? : ValidationError → Option StateId
  | .duplicateState state => some state
  | _ => none

namespace Automaton

/-- Whatever the automaton refers to is declared. -/
structure Closed (automaton : Automaton) : Prop where
  initial : automaton.initial ∈ automaton.stateIds
  accepting : ∀ id ∈ automaton.accepting, id ∈ automaton.stateIds
  source : ∀ transition ∈ automaton.transitions, transition.source ∈ automaton.stateIds
  target : ∀ transition ∈ automaton.transitions, transition.target ∈ automaton.stateIds

variable {automaton : Automaton} {error : ValidationError}

/-- Every defect of a transition has its reason. -/
theorem transitionDefect_cases {earlier : List Transition} {transition : Transition}
    (reported : error ∈ automaton.transitionDefects earlier transition) :
    (transition.source ∉ automaton.stateIds ∧
      error = .unknownSourceState transition.id transition.source) ∨
    (transition.target ∉ automaton.stateIds ∧
      error = .unknownTargetState transition.id transition.target) ∨
    (transition.symbol ∉ automaton.alphabet.symbols ∧
      error = .symbolNotInAlphabet transition.id transition.symbol) ∨
    ∃ kept, error =
      .nondeterministic transition.source transition.symbol kept transition.target := by
  rw [transitionDefects, List.mem_append, List.mem_append, List.mem_append] at reported
  rcases reported with ((source | target) | symbol) | conflict
  · split at source
    · cases source
    · next unknown => exact .inl ⟨unknown, List.mem_singleton.mp source⟩
  · split at target
    · cases target
    · next unknown => exact .inr (.inl ⟨unknown, List.mem_singleton.mp target⟩)
  · split at symbol
    · cases symbol
    · next foreign => exact .inr (.inr (.inl ⟨foreign, List.mem_singleton.mp symbol⟩))
  · split at conflict
    · next kept _ => exact .inr (.inr (.inr ⟨kept, List.mem_singleton.mp conflict⟩))
    · cases conflict

/-- With everything declared that is referred to, only some kinds of defects are left. -/
theorem Closed.defect_cases (closed : automaton.Closed) (reported : error ∈ automaton.defects) :
    (∃ state, error = .duplicateState state) ∨
    (∃ transition ∈ automaton.transitions, transition.symbol ∉ automaton.alphabet.symbols ∧
      error = .symbolNotInAlphabet transition.id transition.symbol) ∨
    ∃ state symbol kept conflicting, error = .nondeterministic state symbol kept conflicting := by
  have unknown : (automaton.accepting.filter fun id => id ∉ automaton.stateIds) = [] := by
    refine List.filter_eq_nil_iff.mpr fun id accepts => ?_
    simpa using closed.accepting id accepts
  rw [defects, if_neg (states_ne_nil_of_mem closed.initial), if_pos closed.initial, unknown,
    List.map_nil, List.nil_append, List.nil_append, List.nil_append, List.mem_append] at reported
  rcases reported with repeated | defective
  · obtain ⟨state, -, rfl⟩ := List.mem_map.mp repeated
    exact .inl ⟨state, rfl⟩
  obtain ⟨earlier, transition, later, split, here⟩ := List.mem_flatMapWithEarlier.mp defective
  have listed : transition ∈ automaton.transitions := by
    rw [split]
    exact List.mem_append_right _ List.mem_cons_self
  rcases transitionDefect_cases here with ⟨source, -⟩ | ⟨target, -⟩ | symbol | ⟨kept, conflict⟩
  · exact absurd (closed.source transition listed) source
  · exact absurd (closed.target transition listed) target
  · exact .inr (.inl ⟨transition, listed, symbol⟩)
  · exact .inr (.inr ⟨_, _, _, _, conflict⟩)

theorem filterMap_duplicate?_defects (automaton : Automaton) :
    automaton.defects.filterMap ValidationError.duplicate? = automaton.stateIds.repetitions := by
  have ofTransitions : (automaton.transitions.flatMapWithEarlier
      automaton.transitionDefects).filterMap ValidationError.duplicate? = [] := by
    refine List.filterMap_eq_nil_iff.mpr fun error reported => ?_
    obtain ⟨earlier, transition, later, -, here⟩ := List.mem_flatMapWithEarlier.mp reported
    rcases transitionDefect_cases here with ⟨-, rfl⟩ | ⟨-, rfl⟩ | ⟨-, rfl⟩ | ⟨kept, rfl⟩ <;> rfl
  have ofRepetitions (ids : List StateId) :
      (ids.map ValidationError.duplicateState).filterMap ValidationError.duplicate? = ids := by
    rw [List.filterMap_map]
    exact List.filterMap_some
  have ofAccepting (ids : List StateId) : (ids.map
      ValidationError.unknownAcceptingState).filterMap ValidationError.duplicate? = [] := by
    rw [List.filterMap_map]
    exact List.filterMap_eq_nil_iff.mpr fun _ _ => rfl
  have ofStates : ((if automaton.states = [] then [ValidationError.noStates] else []) ++
      (if automaton.initial ∈ automaton.stateIds then []
        else [ValidationError.unknownInitialState automaton.initial])).filterMap
          ValidationError.duplicate? = [] := by
    split <;> split <;> rfl
  rw [defects, List.filterMap_append, ofTransitions, List.filterMap_append, ofRepetitions,
    List.filterMap_append, ofAccepting, ofStates, List.nil_append, List.nil_append, List.append_nil]

end Automaton

end Acceptor
