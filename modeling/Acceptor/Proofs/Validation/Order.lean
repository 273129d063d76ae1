import Acceptor.Proofs.Reordering
import Acceptor.Proofs.Run.Dependence
import Acceptor.Proofs.Validation.WellFormed
import Mathlib.Data.List.Perm.Basic

/-! # Validation in another order

What validation finds does not depend on the order in which an automaton is written down. States,
symbols and accepting states may be listed in any order (`Automaton.Relisted`). Transitions may too
as long as only the verdict and the warnings are asked for; the errors name the transition that was
there first, so for them the transitions that leave one state on one symbol have to follow each
other as before (`validation_ignores_order`).
-/

namespace Acceptor

namespace Automaton

/-- The same states, symbols and accepting states, listed in another order at most. Nothing is said
about transitions. -/
structure Relisted (automaton other : Automaton) : Prop where
  initial : other.initial = automaton.initial
  states : other.states.Perm automaton.states
  alphabet : other.alphabet.symbols.Perm automaton.alphabet.symbols
  accepting : other.accepting.Perm automaton.accepting

section Transitions

variable {before after : List Transition}

theorem Reordered.ofKey_eq (reordered : Reordered before after) (situation : Situation) :
    after.ofKey Transition.situation situation = before.ofKey Transition.situation situation :=
  reordered situation.state situation.symbol

theorem Reordered.perm (reordered : Reordered before after) : after.Perm before :=
  List.perm_of_ofKey_eq reordered.ofKey_eq

/-- Of the transitions before it, a transition is held against those that serve its situation. -/
theorem reportsByKey_transitionDefects (automaton : Automaton) :
    List.ReportsByKey Transition.situation automaton.transitionDefects := by
  intro earlier transition
  have kept : firstTarget? (earlier.ofKey Transition.situation transition.situation)
      transition.source transition.symbol =
        firstTarget? earlier transition.source transition.symbol := by
    rw [firstTarget?_eq_head?_filter, firstTarget?_eq_head?_filter]
    exact congrArg (fun serving => serving.head?.map Transition.target)
      (List.ofKey_ofKey Transition.situation transition.situation earlier)
  simp only [transitionDefects, kept]

end Transitions

namespace Relisted

variable {automaton other : Automaton}

theorem stateIds_perm (relisted : automaton.Relisted other) :
    other.stateIds.Perm automaton.stateIds :=
  relisted.states.map State.id

theorem mem_stateIds_iff (relisted : automaton.Relisted other) (id : StateId) :
    id ∈ other.stateIds ↔ id ∈ automaton.stateIds :=
  relisted.stateIds_perm.mem_iff

theorem transitionDefects_eq (relisted : automaton.Relisted other) :
    other.transitionDefects = automaton.transitionDefects := by
  funext earlier transition
  simp only [transitionDefects, relisted.mem_stateIds_iff, relisted.alphabet.mem_iff]

/-- Each list has its own errors, and each of them only needs its own list to be the same. -/
theorem defects_perm (relisted : automaton.Relisted other)
    (reordered : Reordered automaton.transitions other.transitions) :
    other.defects.Perm automaton.defects := by
  have empty : other.states = [] ↔ automaton.states = [] := by
    rw [← List.length_eq_zero_iff, relisted.states.length_eq, List.length_eq_zero_iff]
  have accepting : ((other.accepting.filter fun id => id ∉ automaton.stateIds).map
      ValidationError.unknownAcceptingState).Perm
        ((automaton.accepting.filter fun id => id ∉ automaton.stateIds).map
          ValidationError.unknownAcceptingState) :=
    (relisted.accepting.filter _).map _
  have repeated : (other.stateIds.repetitions.map ValidationError.duplicateState).Perm
      (automaton.stateIds.repetitions.map ValidationError.duplicateState) :=
    (List.repetitions_perm relisted.stateIds_perm).map _
  have transitions : (other.transitions.flatMapWithEarlier automaton.transitionDefects).Perm
      (automaton.transitions.flatMapWithEarlier automaton.transitionDefects) :=
    automaton.reportsByKey_transitionDefects.flatMapWithEarlier_perm reordered.ofKey_eq
  rw [defects, defects, relisted.transitionDefects_eq]
  simp only [empty, relisted.initial, relisted.mem_stateIds_iff]
  exact ((accepting.append_left _).append repeated).append transitions

/-- Whether a situation is served can be asked of the transitions in any order. -/
theorem unserved_perm (relisted : automaton.Relisted other)
    (transitions : other.transitions.Perm automaton.transitions) :
    other.unserved.Perm automaton.unserved := by
  have states := List.firstOccurrences_perm relisted.stateIds_perm
  have symbols := List.firstOccurrences_perm relisted.alphabet
  simp only [unserved, transitions.mem_iff]
  exact states.flatMap fun state _ => (symbols.filter _).map _

theorem omissions_perm (relisted : automaton.Relisted other)
    (transitions : other.transitions.Perm automaton.transitions) :
    other.omissions.Perm automaton.omissions := by
  have empty : other.alphabet.symbols = [] ↔ automaton.alphabet.symbols = [] := by
    rw [← List.length_eq_zero_iff, relisted.alphabet.length_eq, List.length_eq_zero_iff]
  simp only [omissions, empty]
  exact ((relisted.unserved_perm transitions).map _).append_left _

theorem symm (relisted : automaton.Relisted other) : other.Relisted automaton where
  initial := relisted.initial.symm
  states := relisted.states.symm
  alphabet := relisted.alphabet.symm
  accepting := relisted.accepting.symm

/-- No clause of well-formedness knows an order. -/
theorem wellFormed (relisted : automaton.Relisted other)
    (transitions : other.transitions.Perm automaton.transitions) (formed : automaton.WellFormed) :
    other.WellFormed where
  initial := by
    rw [relisted.initial, relisted.mem_stateIds_iff]
    exact formed.initial
  accepting id listed :=
    (relisted.mem_stateIds_iff id).mpr (formed.accepting id (relisted.accepting.mem_iff.mp listed))
  unique := relisted.stateIds_perm.nodup_iff.mpr formed.unique
  source transition listed :=
    (relisted.mem_stateIds_iff _).mpr (formed.source transition (transitions.mem_iff.mp listed))
  target transition listed :=
    (relisted.mem_stateIds_iff _).mpr (formed.target transition (transitions.mem_iff.mp listed))
  symbol transition listed :=
    relisted.alphabet.mem_iff.mpr (formed.symbol transition (transitions.mem_iff.mp listed))
  deterministic := by
    refine (transitions.pairwise_iff ?_).mpr formed.deterministic
    rintro earlier later apart ⟨state, symbol⟩
    exact apart ⟨state.symm, symbol.symm⟩

theorem isValid_validate_eq (relisted : automaton.Relisted other)
    (transitions : other.transitions.Perm automaton.transitions) :
    other.validate.value.isValid = automaton.validate.value.isValid := by
  rw [Bool.eq_iff_iff, isValid_validate_iff_wellFormed, isValid_validate_iff_wellFormed]
  exact ⟨relisted.symm.wellFormed transitions.symm, relisted.wellFormed transitions⟩

end Relisted

end Automaton

/-- However states, symbols and accepting states are listed, validation has the same errors and the
same warnings, each as often, as long as transitions that leave one state on one symbol follow each
other as before. If the transitions too are in any order, the verdict and the warnings still are the
same. -/
theorem validation_ignores_order {automaton other : Automaton}
    (relisted : automaton.Relisted other) :
    (Automaton.Reordered automaton.transitions other.transitions →
      other.validate.value.errors.Perm automaton.validate.value.errors ∧
      other.validate.value.warnings.Perm automaton.validate.value.warnings) ∧
    (other.transitions.Perm automaton.transitions →
      other.validate.value.isValid = automaton.validate.value.isValid ∧
      other.validate.value.warnings.Perm automaton.validate.value.warnings) := by
  simp only [Automaton.errors_validate, Automaton.warnings_validate]
  refine ⟨fun reordered => ⟨?_, ?_⟩, fun transitions => ⟨?_, ?_⟩⟩
  · exact relisted.defects_perm reordered
  · exact relisted.omissions_perm reordered.perm
  · exact relisted.isValid_validate_eq transitions
  · exact relisted.omissions_perm transitions

/-- A state declared twice and two transitions that are in conflict. -/
def untidy : Automaton where
  id := "untidy"
  name := "untidy"
  description := none
  alphabet := ⟨['a', 'b']⟩
  states := [.ofId ⟨"p"⟩, .ofId ⟨"p"⟩, .ofId ⟨"q"⟩]
  transitions := [⟨⟨"t0"⟩, ⟨"p"⟩, 'a', ⟨"q"⟩⟩, ⟨⟨"t1"⟩, ⟨"p"⟩, 'a', ⟨"p"⟩⟩,
    ⟨⟨"t2"⟩, ⟨"q"⟩, 'b', ⟨"r"⟩⟩]
  initial := ⟨"p"⟩
  accepting := [⟨"q"⟩, ⟨"s"⟩]

/-- Everything in another order, except for the conflict. -/
def rearranged : Automaton where
  id := "rearranged"
  name := "rearranged"
  description := none
  alphabet := ⟨['b', 'a']⟩
  states := [.ofId ⟨"q"⟩, .ofId ⟨"p"⟩, .ofId ⟨"p"⟩]
  transitions := [⟨⟨"t2"⟩, ⟨"q"⟩, 'b', ⟨"r"⟩⟩, ⟨⟨"t0"⟩, ⟨"p"⟩, 'a', ⟨"q"⟩⟩,
    ⟨⟨"t1"⟩, ⟨"p"⟩, 'a', ⟨"p"⟩⟩]
  initial := ⟨"p"⟩
  accepting := [⟨"s"⟩, ⟨"q"⟩]

/-- The conflict too is the other way round. -/
def reversed : Automaton :=
  { rearranged with transitions := rearranged.transitions.reverse }

theorem relisted_rearranged : untidy.Relisted rearranged where
  initial := rfl
  states := (List.perm_append_singleton _ _).symm
  alphabet := .swap ..
  accepting := .swap ..

theorem validation_ignores_order_rearranged :
    untidy.Relisted rearranged ∧ untidy.Relisted reversed ∧
    Automaton.Reordered untidy.transitions rearranged.transitions ∧
    rearranged.validate.value.errors.Perm untidy.validate.value.errors ∧
    rearranged.validate.value.warnings.Perm untidy.validate.value.warnings ∧
    reversed.transitions.Perm untidy.transitions ∧
    reversed.validate.value.isValid = untidy.validate.value.isValid := by
  have reordered : Automaton.Reordered untidy.transitions rearranged.transitions := by
    intro state symbol
    have apart : ∀ other ∈ untidy.transitions.dropLast,
        other.situation ≠ Transition.situation ⟨⟨"t2"⟩, ⟨"q"⟩, 'b', ⟨"r"⟩⟩ := by decide
    exact (List.ofKey_append_cons [] apart ⟨state, symbol⟩).symm
  have permuted : reversed.transitions.Perm untidy.transitions := by decide
  have relisted : untidy.Relisted reversed := { relisted_rearranged with }
  have same := (validation_ignores_order relisted_rearranged).1 reordered
  have verdict := ((validation_ignores_order relisted).2 permuted).1
  exact ⟨relisted_rearranged, relisted, reordered, same.1, same.2, permuted, verdict⟩

/-- The errors do depend on which of two transitions in conflict is the first. -/
example : ¬ reversed.defects.Perm untidy.defects := by decide

end Acceptor
