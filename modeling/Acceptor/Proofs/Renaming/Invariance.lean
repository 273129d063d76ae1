import Acceptor.Proofs.Renaming.Basic
import Acceptor.Proofs.Run.Judgement
import Acceptor.Proofs.Validation.Report
import Mathlib.Logic.Equiv.Basic

/-! # Names do not matter

Under other names an automaton is validated and run as before, the findings and the results being
told under the new names (`results_rename`). All that is ever asked of two names is whether they are
equal, and a renaming keeps the answer: a state and a symbol are looked up as a pair, and a pair
finds the same under its new name, whatever the names are made of (`firstTarget?_rename`).
-/

namespace Acceptor

open Walk

variable (names : Renaming)

theorem Transition.serves_rename (transition : Transition) (state : StateId) (symbol : Symbol) :
    (transition.rename names).serves (names.state state) (names.symbol symbol) =
      transition.serves state symbol := by
  rw [Bool.eq_iff_iff, serves_eq_true_iff, serves_eq_true_iff]
  simp only [rename, EmbeddingLike.apply_eq_iff_eq]

/-- The first transition for a state and a symbol is the first one under any names. -/
theorem firstTarget?_rename (transitions : List Transition) (state : StateId) (symbol : Symbol) :
    firstTarget? (transitions.map (Transition.rename names)) (names.state state)
        (names.symbol symbol) =
      (firstTarget? transitions state symbol).map names.state := by
  have served : (fun transition : Transition => transition.serves (names.state state)
      (names.symbol symbol)) ∘ Transition.rename names =
      fun transition => transition.serves state symbol := by
    funext transition
    exact transition.serves_rename names state symbol
  rw [firstTarget?, List.find?_map, served, firstTarget?, Option.map_map, Option.map_map]
  rfl

namespace Walk

variable {names} {next? renamed? : StateId → Symbol → Option StateId}
  (carried : ∀ state symbol,
    renamed? (names.state state) (names.symbol symbol) = (next? state symbol).map names.state)

include carried

theorem stop_rename (source : StateId) (word : Word) :
    stop renamed? (names.state source) (word.map names.symbol) =
      (names.state (stop next? source word).1, (stop next? source word).2.map names.symbol) := by
  induction word generalizing source with
  | nil => rfl
  | cons symbol rest ih =>
    have moved := carried source symbol
    cases found : next? source symbol with
    | none => simp [stop, moved, found]
    | some target => simpa [stop, moved, found] using ih target

theorem onward_rename (source : StateId) (index : Nat) (word : Word) :
    onward renamed? (names.state source) index (word.map names.symbol) =
      (onward next? source index word).map (Step.rename names) := by
  induction word generalizing source index with
  | nil => rfl
  | cons symbol rest ih =>
    have moved := carried source symbol
    cases found : next? source symbol with
    | none => simp [onward, moved, found]
    | some target => simpa [onward, moved, found, Step.rename] using ih target (index + 1)

theorem trail_rename (source : StateId) (word : Word) :
    trail renamed? (names.state source) (word.map names.symbol) =
      (trail next? source word).map (Step.rename names) := by
  rw [trail, onward_rename carried, trail, List.map_cons]
  rfl

end Walk

/-- Renaming the steps renames the path through their states. -/
theorem map_state_rename (steps : List Step) :
    (steps.map (Step.rename names)).map Step.state = (steps.map Step.state).map names.state := by
  rw [List.map_map, List.map_map]
  rfl

theorem Outcome.ending_rename (outcome : Outcome) :
    (outcome.rename names).ending = outcome.ending.rename names := by
  cases outcome <;> rfl

namespace Automaton

variable (automaton : Automaton) (word : Word)

theorem spells_rename_iff :
    (automaton.rename names).alphabet.Spells (word.map names.symbol) ↔
      automaton.alphabet.Spells word := by
  simp only [Alphabet.Spells, rename, Alphabet.rename, List.forall_mem_map,
    List.mem_map_of_injective names.symbol.injective]

theorem invalidSymbols_rename :
    (automaton.rename names).invalidSymbols (word.map names.symbol) =
      (automaton.invalidSymbols word).map names.symbol := by
  have foreign : (fun symbol => !(automaton.rename names).alphabet.contains symbol) ∘ names.symbol =
      fun symbol => !automaton.alphabet.contains symbol := by
    funext symbol
    have same : (automaton.rename names).alphabet.contains (names.symbol symbol) =
        automaton.alphabet.contains symbol := by
      rw [Bool.eq_iff_iff, Alphabet.contains_eq_true_iff, Alphabet.contains_eq_true_iff]
      exact List.mem_map_of_injective names.symbol.injective
    rw [Function.comp_apply, same]
  rw [invalidSymbols, invalidSymbols, List.filter_map, foreign,
    ← List.firstOccurrences_eq_eraseDups, ← List.firstOccurrences_eq_eraseDups,
    List.firstOccurrences_map names.symbol.injective]

theorem stop_rename :
    (automaton.rename names).stop (word.map names.symbol) =
      (names.state (automaton.stop word).1, (automaton.stop word).2.map names.symbol) :=
  Walk.stop_rename (firstTarget?_rename names automaton.transitions) automaton.initial word

theorem trail_rename :
    trail (firstTarget? (automaton.rename names).transitions) (automaton.rename names).initial
        (word.map names.symbol) =
      (trail (firstTarget? automaton.transitions) automaton.initial word).map
        (Step.rename names) :=
  Walk.trail_rename (firstTarget?_rename names automaton.transitions) automaton.initial word

theorem outcomeAt_rename (state : StateId) (left : Word) :
    (automaton.rename names).outcomeAt (names.state state, left.map names.symbol) =
      (automaton.outcomeAt (state, left)).rename names := by
  cases left with
  | cons symbol rest => rfl
  | nil =>
    have accepts : names.state state ∈ (automaton.rename names).accepting ↔
        state ∈ automaton.accepting :=
      List.mem_map_of_injective names.state.injective
    by_cases accepting : state ∈ automaton.accepting
    · simp only [List.map_nil, outcomeAt, if_pos (accepts.mpr accepting), if_pos accepting]
      rfl
    · simp only [List.map_nil, outcomeAt, if_neg (accepting ∘ accepts.mp), if_neg accepting]
      rfl

theorem value_judge_rename :
    ((automaton.rename names).judge (word.map names.symbol)).value =
      (automaton.judge word).value.rename names := by
  by_cases spelled : automaton.alphabet.Spells word
  · rw [value_judge_of_spells spelled,
      value_judge_of_spells ((automaton.spells_rename_iff names word).mpr spelled), stop_rename,
      outcomeAt_rename, trail_rename, map_state_rename]
    rfl
  · rw [value_judge_of_not_spells spelled,
      value_judge_of_not_spells (spelled ∘ (automaton.spells_rename_iff names word).mp),
      invalidSymbols_rename]
    rfl

theorem value_trace_rename :
    ((automaton.rename names).trace (word.map names.symbol)).value =
      (automaton.trace word).value.rename names := by
  by_cases spelled : automaton.alphabet.Spells word
  · rw [value_trace_of_spells spelled,
      value_trace_of_spells ((automaton.spells_rename_iff names word).mpr spelled), stop_rename,
      outcomeAt_rename, trail_rename, Outcome.ending_rename]
    rfl
  · rw [value_trace_of_not_spells spelled,
      value_trace_of_not_spells (spelled ∘ (automaton.spells_rename_iff names word).mp),
      invalidSymbols_rename]
    rfl

theorem value_steps_rename :
    ((automaton.rename names).steps (word.map names.symbol)).value =
      (automaton.steps word).value.map (Step.rename names) := by
  rw [value_steps, value_steps, trail_rename]

theorem stateIds_rename :
    (automaton.rename names).stateIds = automaton.stateIds.map names.state := by
  simp only [stateIds, rename, List.map_map]
  rfl

theorem mem_stateIds_rename_iff {id : StateId} :
    names.state id ∈ (automaton.rename names).stateIds ↔ id ∈ automaton.stateIds := by
  rw [stateIds_rename, List.mem_map_of_injective names.state.injective]

theorem transitionDefects_rename (earlier : List Transition) (transition : Transition) :
    (automaton.rename names).transitionDefects (earlier.map (Transition.rename names))
        (transition.rename names) =
      (automaton.transitionDefects earlier transition).map (ValidationError.rename names) := by
  have listed : names.symbol transition.symbol ∈ (automaton.rename names).alphabet.symbols ↔
      transition.symbol ∈ automaton.alphabet.symbols :=
    List.mem_map_of_injective names.symbol.injective
  have kept := firstTarget?_rename names earlier transition.source transition.symbol
  simp only [transitionDefects, Transition.rename, mem_stateIds_rename_iff, listed, kept,
    List.map_append, apply_ite (List.map (ValidationError.rename names)), List.map_nil,
    List.map_singleton]
  cases firstTarget? earlier transition.source transition.symbol <;> rfl

theorem defects_rename :
    (automaton.rename names).defects = automaton.defects.map (ValidationError.rename names) := by
  have empty : (automaton.rename names).states = [] ↔ automaton.states = [] := List.map_eq_nil_iff
  have initial : (automaton.rename names).initial ∈ (automaton.rename names).stateIds ↔
      automaton.initial ∈ automaton.stateIds :=
    automaton.mem_stateIds_rename_iff names
  have unknown : (fun id => decide (id ∉ (automaton.rename names).stateIds)) ∘ names.state =
      fun id => decide (id ∉ automaton.stateIds) := by
    funext id
    exact decide_eq_decide.mpr (not_congr (automaton.mem_stateIds_rename_iff names))
  have accepting : (automaton.rename names).accepting = automaton.accepting.map names.state := rfl
  have transitions : (automaton.rename names).transitions.flatMapWithEarlier
      (automaton.rename names).transitionDefects =
      (automaton.transitions.flatMapWithEarlier automaton.transitionDefects).map
        (ValidationError.rename names) := by
    rw [List.map_flatMapWithEarlier]
    simp only [← transitionDefects_rename]
    exact List.flatMapWithEarlier_map ..
  rw [defects, defects, transitions, stateIds_rename,
    List.repetitions_map names.state.injective, ← stateIds_rename, accepting, List.filter_map,
    unknown]
  simp only [empty, initial, List.map_append, apply_ite (List.map (ValidationError.rename names)),
    List.map_map, List.map_nil, List.map_singleton]
  rfl

theorem unserved_rename :
    (automaton.rename names).unserved = automaton.unserved.map (Situation.rename names) := by
  have missing (state : StateId) : (fun symbol =>
      decide (∀ transition ∈ (automaton.rename names).transitions,
        ¬ (transition.source = names.state state ∧ transition.symbol = symbol))) ∘ names.symbol =
      fun symbol => decide (∀ transition ∈ automaton.transitions,
        ¬ (transition.source = state ∧ transition.symbol = symbol)) := by
    funext symbol
    refine decide_eq_decide.mpr ?_
    rw [← firstTarget?_eq_none_iff, ← firstTarget?_eq_none_iff]
    simp only [rename, firstTarget?_rename, Option.map_eq_none_iff]
  have symbols : (automaton.rename names).alphabet.symbols.firstOccurrences =
      automaton.alphabet.symbols.firstOccurrences.map names.symbol :=
    List.firstOccurrences_map names.symbol.injective _
  rw [unserved, unserved, stateIds_rename, List.firstOccurrences_map names.state.injective,
    List.flatMap_map, List.map_flatMap, symbols]
  simp only [List.filter_map, missing, List.map_map]
  rfl

theorem omissions_rename :
    (automaton.rename names).omissions =
      automaton.omissions.map (ValidationWarning.rename names) := by
  have empty : (automaton.rename names).alphabet.symbols = [] ↔ automaton.alphabet.symbols = [] :=
    List.map_eq_nil_iff
  rw [omissions, omissions, unserved_rename]
  simp only [empty, List.map_append, apply_ite (List.map (ValidationWarning.rename names)),
    List.map_map, List.map_nil, List.map_singleton]
  rfl

theorem value_validate_rename :
    (automaton.rename names).validate.value = automaton.validate.value.rename names := by
  rw [ValidationReport.rename, errors_validate, warnings_validate, ← defects_rename,
    ← omissions_rename, ← errors_validate, ← warnings_validate]

end Automaton

/-- Under other names for its states and symbols an automaton has the same report, and every word
the same verdict, trace and steps, all under the new names. No two pairs of a state and a symbol are
taken for each other: a pair under its new names leads to what the pair led to. -/
theorem results_rename (names : Renaming) (automaton : Automaton) :
    (automaton.rename names).validate.value = automaton.validate.value.rename names ∧
    (∀ word : Word,
      ((automaton.rename names).judge (word.map names.symbol)).value =
        (automaton.judge word).value.rename names ∧
      ((automaton.rename names).trace (word.map names.symbol)).value =
        (automaton.trace word).value.rename names ∧
      ((automaton.rename names).steps (word.map names.symbol)).value =
        (automaton.steps word).value.map (Step.rename names)) ∧
    ∀ state symbol,
      (automaton.rename names).next? (names.state state) (names.symbol symbol) =
        (automaton.next? state symbol).map names.state := by
  refine ⟨automaton.value_validate_rename names, ?_, ?_⟩
  · intro word
    exact ⟨automaton.value_judge_rename names word, automaton.value_trace_rename names word,
      automaton.value_steps_rename names word⟩
  · intro state symbol
    rw [Automaton.next?_eq, Automaton.next?_eq]
    exact firstTarget?_rename names automaton.transitions state symbol

/-- Each state is called what it and a dash read as before, and the dash and the letter are
exchanged. -/
def lookalikes : Renaming where
  state := ⟨fun id => ⟨id.text ++ "-"⟩, fun _ _ same =>
    congrArg StateId.mk ((String.append_left_inj "-").mp (StateId.mk.inj same))⟩
  symbol := (Equiv.swap 'a' '-').toEmbedding

/-- The state `q-` is called like the state `q` and a dash, and `q` is left twice on the letter. -/
def tricky : Automaton where
  id := "tricky"
  name := "tricky"
  description := none
  alphabet := ⟨['a', '-']⟩
  states := [.ofId ⟨"q"⟩, .ofId ⟨"q-"⟩]
  transitions := [⟨⟨"t0"⟩, ⟨"q-"⟩, 'a', ⟨"q"⟩⟩, ⟨⟨"t1"⟩, ⟨"q"⟩, '-', ⟨"q"⟩⟩,
    ⟨⟨"t2"⟩, ⟨"q"⟩, 'a', ⟨"q-"⟩⟩, ⟨⟨"t3"⟩, ⟨"q"⟩, 'a', ⟨"q"⟩⟩]
  initial := ⟨"q"⟩
  accepting := []

/-- Now the state `q` is called `q-`, and what was called `q-` is called `q--`. -/
theorem results_rename_lookalikes :
    (tricky.rename lookalikes).validate.value =
      ⟨[.nondeterministic ⟨"q-"⟩ '-' ⟨"q--"⟩ ⟨"q-"⟩], [.missingTransition ⟨"q--"⟩ 'a']⟩ ∧
    ((tricky.rename lookalikes).judge ['a', '-', 'a', '-']).value =
      ⟨['a', '-', 'a', '-'], [⟨"q-"⟩, ⟨"q-"⟩, ⟨"q--"⟩], ⟨"q--"⟩, ['a', '-'],
        .failed (.missingTransition ⟨"q--"⟩ 'a')⟩ ∧
    (tricky.rename lookalikes).next? ⟨"q-"⟩ '-' = some ⟨"q--"⟩ := by
  obtain ⟨report, words, pairs⟩ := results_rename lookalikes tricky
  refine ⟨report.trans ?_, (words ['-', 'a', '-', 'a']).1.trans ?_,
    (pairs ⟨"q"⟩ 'a').trans ?_⟩
  · rw [ValidationReport.rename, Automaton.errors_validate, Automaton.warnings_validate]
    decide
  · rw [Automaton.value_judge_of_spells (by decide)]
    decide
  · rw [Automaton.next?_eq]
    decide

end Acceptor
