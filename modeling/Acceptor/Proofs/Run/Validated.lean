import Acceptor.Proofs.Run.Judgement
import Acceptor.Proofs.Validation.WellFormed

/-! # Runs of valid automata

What a report without errors promises to runs. No run leaves the declared states, and the warnings
about missing transitions are exactly the places where runs can get stuck, as far as a word over the
alphabet leads there (`runs_of_valid`). Validity alone does not keep runs from getting stuck; an
automaton that has no such warning either reads every word over its alphabet to the end.
-/

namespace Acceptor

open Walk

namespace Automaton

variable {automaton : Automaton} {word : Word}

/-- The initial state is declared and transitions lead to declared states, so runs stay there. -/
theorem mem_stateIds_of_reached? (formed : automaton.WellFormed) {state : StateId}
    (reached : reached? (firstTarget? automaton.transitions) automaton.initial word = some state) :
    state ∈ automaton.stateIds := by
  refine of_reached? (· ∈ automaton.stateIds) ?_ formed.initial reached
  intro source symbol target _ found
  obtain ⟨transition, listed, _, _, rfl⟩ := exists_of_firstTarget?_eq_some found
  exact formed.target transition listed

theorem mem_stateIds_of_mem_steps (formed : automaton.WellFormed) {step : Step}
    (member : step ∈ (automaton.steps word).value) : step.state ∈ automaton.stateIds := by
  rw [value_steps] at member
  obtain ⟨place, reached⟩ := reached?_of_mem_trail member
  exact mem_stateIds_of_reached? formed reached

theorem mem_stateIds_of_mem_path (formed : automaton.WellFormed) {state : StateId}
    (member : state ∈ (automaton.judge word).value.path) : state ∈ automaton.stateIds := by
  by_cases spelled : automaton.alphabet.Spells word
  · rw [value_judge_of_spells spelled, ← value_steps] at member
    obtain ⟨step, listed, rfl⟩ := List.mem_map.mp member
    exact mem_stateIds_of_mem_steps formed listed
  · rw [value_judge_of_not_spells spelled] at member
    exact absurd member List.not_mem_nil

theorem state_judge_mem_stateIds (formed : automaton.WellFormed) (word : Word) :
    (automaton.judge word).value.state ∈ automaton.stateIds := by
  by_cases spelled : automaton.alphabet.Spells word
  · rw [value_judge_of_spells spelled]
    exact mem_stateIds_of_reached? formed (reached?_readable _ automaton.initial word)
  · rw [value_judge_of_not_spells spelled]
    exact formed.initial

theorem outcomeAt_eq_missing_iff {stopped : StateId × Word} {state : StateId} {symbol : Symbol} :
    automaton.outcomeAt stopped = .failed (.missingTransition state symbol) ↔
      ∃ rest, stopped = (state, symbol :: rest) := by
  obtain ⟨reached, left⟩ := stopped
  cases left with
  | nil => by_cases accepting : reached ∈ automaton.accepting <;> simp [outcomeAt, accepting]
  | cons first rest => simp [outcomeAt]

/-- A word gets stuck in a state on a symbol exactly if it is over the alphabet and its walk stops
there. -/
theorem outcome_judge_eq_missing_iff {state : StateId} {symbol : Symbol} :
    (automaton.judge word).value.outcome = .failed (.missingTransition state symbol) ↔
      automaton.alphabet.Spells word ∧ ∃ rest, automaton.stop word = (state, symbol :: rest) := by
  by_cases spelled : automaton.alphabet.Spells word
  · rw [value_judge_of_spells spelled, outcomeAt_eq_missing_iff]
    exact (and_iff_right spelled).symm
  · rw [value_judge_of_not_spells spelled]
    simp [spelled]

/-- Where a run of a valid automaton gets stuck, validation misses a transition, and the part of the
word that was read leads there. -/
theorem warned_of_stuck (formed : automaton.WellFormed) {state : StateId} {symbol : Symbol}
    (stuck : (automaton.judge word).value.outcome = .failed (.missingTransition state symbol)) :
    .missingTransition state symbol ∈ automaton.validate.value.warnings ∧
      ∃ consumed, automaton.alphabet.Spells consumed ∧
        reached? (firstTarget? automaton.transitions) automaton.initial consumed = some state := by
  obtain ⟨spelled, rest, stopped⟩ := outcome_judge_eq_missing_iff.mp stuck
  have split := readable_append_stop (firstTarget? automaton.transitions) automaton.initial word
  have reached := reached?_readable (firstTarget? automaton.transitions) automaton.initial word
  rw [stop] at stopped
  rw [stopped] at split reached
  have known := mem_stateIds_of_reached? formed reached
  have inWord : symbol ∈ word := by
    rw [← split]
    exact List.mem_append_right _ List.mem_cons_self
  have warned := missingTransition_mem_warnings_iff.mpr
    ⟨known, spelled symbol inWord, next?_stop stopped⟩
  refine ⟨warned, _, ?_, reached⟩
  intro other member
  apply spelled other
  rw [← split]
  exact List.mem_append_left _ member

/-- A word that leads to a state where validation misses a transition gets stuck there when the
symbol follows, whether the automaton is valid or not. -/
theorem stuck_of_warned {state : StateId} {symbol : Symbol} {consumed : Word}
    (warned : .missingTransition state symbol ∈ automaton.validate.value.warnings)
    (spelled : automaton.alphabet.Spells consumed)
    (reached : reached? (firstTarget? automaton.transitions) automaton.initial consumed =
      some state) :
    (automaton.judge (consumed ++ [symbol])).value.outcome =
      .failed (.missingTransition state symbol) := by
  obtain ⟨_, listed, missing⟩ := missingTransition_mem_warnings_iff.mp warned
  refine outcome_judge_eq_missing_iff.mpr ⟨?_, [], stop_append_cons reached missing⟩
  intro other member
  rcases List.mem_append.mp member with before | last
  · exact spelled other before
  · rwa [List.mem_singleton.mp last]

/-- Without such warnings every word over the alphabet of a valid automaton is read to its end. -/
theorem completes_of_unwarned (formed : automaton.WellFormed)
    (unwarned : ∀ state symbol,
      .missingTransition state symbol ∉ automaton.validate.value.warnings)
    (spelled : automaton.alphabet.Spells word) :
    ((automaton.judge word).value.outcome = .accepted ∨
      ∃ state, (automaton.judge word).value.outcome = .rejected state) ∧
    (automaton.judge word).value.remaining = [] ∧
    (automaton.judge word).value.path.length = word.length + 1 := by
  have split := readable_append_stop (firstTarget? automaton.transitions) automaton.initial word
  cases stopped : automaton.stop word with
  | mk state left =>
    cases left with
    | cons symbol rest =>
      have stuck := outcome_judge_eq_missing_iff.mpr ⟨spelled, rest, stopped⟩
      exact absurd (warned_of_stuck formed stuck).1 (unwarned state symbol)
    | nil =>
      rw [value_judge_of_spells spelled, stopped]
      refine ⟨?_, rfl, ?_⟩
      · by_cases accepting : state ∈ automaton.accepting
        · exact .inl (if_pos accepting)
        · exact .inr ⟨state, if_neg accepting⟩
      · rw [stop] at stopped
        rw [stopped, List.append_nil] at split
        rw [List.length_map, trail, List.length_cons, length_onward, split]

end Automaton

/-- Runs of a valid automaton stay in its declared states. They get stuck in a state on a symbol
exactly if there is a warning about the two and a word over the alphabet leads to the state; hence
without warnings about missing transitions every word over the alphabet is read to its end. -/
theorem runs_of_valid (automaton : Automaton)
    (valid : automaton.validate.value.isValid = true) :
    (∀ word,
      (∀ state ∈ (automaton.judge word).value.path, state ∈ automaton.stateIds) ∧
      (automaton.judge word).value.state ∈ automaton.stateIds ∧
      ∀ step ∈ (automaton.steps word).value, step.state ∈ automaton.stateIds) ∧
    (∀ state symbol,
      (∃ word, (automaton.judge word).value.outcome =
        .failed (.missingTransition state symbol)) ↔
      .missingTransition state symbol ∈ automaton.validate.value.warnings ∧
        ∃ consumed, automaton.alphabet.Spells consumed ∧
          reached? (firstTarget? automaton.transitions) automaton.initial consumed =
            some state) ∧
    ((∀ state symbol, .missingTransition state symbol ∉ automaton.validate.value.warnings) →
      ∀ word, automaton.alphabet.Spells word →
        ((automaton.judge word).value.outcome = .accepted ∨
          ∃ state, (automaton.judge word).value.outcome = .rejected state) ∧
        (automaton.judge word).value.remaining = [] ∧
        (automaton.judge word).value.path.length = word.length + 1) := by
  have formed := Automaton.isValid_validate_iff_wellFormed.mp valid
  refine ⟨?_, ?_, ?_⟩
  · intro word
    exact ⟨fun _ member => Automaton.mem_stateIds_of_mem_path formed member,
      Automaton.state_judge_mem_stateIds formed word,
      fun _ member => Automaton.mem_stateIds_of_mem_steps formed member⟩
  · intro state symbol
    constructor
    · rintro ⟨word, stuck⟩
      exact Automaton.warned_of_stuck formed stuck
    · rintro ⟨warned, consumed, spelled, reached⟩
      exact ⟨_, Automaton.stuck_of_warned warned spelled reached⟩
  · intro unwarned word spelled
    exact Automaton.completes_of_unwarned formed unwarned spelled

/-- Two states that every zero swaps and every one keeps. -/
def evenZeros : Automaton where
  id := "even zeros"
  name := "even zeros"
  description := none
  alphabet := ⟨['0', '1']⟩
  states := [.ofId ⟨"e"⟩, .ofId ⟨"o"⟩]
  transitions := [⟨⟨"t0"⟩, ⟨"e"⟩, '0', ⟨"o"⟩⟩, ⟨⟨"t1"⟩, ⟨"e"⟩, '1', ⟨"e"⟩⟩,
    ⟨⟨"t2"⟩, ⟨"o"⟩, '0', ⟨"e"⟩⟩, ⟨⟨"t3"⟩, ⟨"o"⟩, '1', ⟨"o"⟩⟩]
  initial := ⟨"e"⟩
  accepting := [⟨"e"⟩]

/-- The same without the last transition: still valid, but a one behind a zero gets stuck. -/
def evenZerosIncomplete : Automaton :=
  { evenZeros with transitions := evenZeros.transitions.dropLast }

theorem runs_of_valid_evenZeros :
    (evenZeros.validate.value.isValid = true ∧ evenZeros.alphabet.Spells ['0', '1'] ∧
      (evenZeros.judge ['0', '1']).value.remaining = []) ∧
    evenZerosIncomplete.validate.value.isValid = true ∧
      ∃ word, (evenZerosIncomplete.judge word).value.outcome =
        .failed (.missingTransition ⟨"o"⟩ '1') := by
  have complete : evenZeros.validate.value.isValid = true :=
    evenZeros.isValid_validate_iff.mpr (by decide)
  have incomplete : evenZerosIncomplete.validate.value.isValid = true :=
    evenZerosIncomplete.isValid_validate_iff.mpr (by decide)
  have unwarned (state : StateId) (symbol : Symbol) :
      .missingTransition state symbol ∉ evenZeros.validate.value.warnings := by
    rw [Automaton.warnings_validate, show evenZeros.omissions = [] by decide]
    exact List.not_mem_nil
  have warned : .missingTransition ⟨"o"⟩ '1' ∈ evenZerosIncomplete.validate.value.warnings := by
    rw [Automaton.warnings_validate]
    decide
  have spelled : evenZeros.alphabet.Spells ['0', '1'] := by decide
  refine ⟨⟨complete, spelled, ?_⟩, incomplete, ?_⟩
  · exact ((runs_of_valid evenZeros complete).2.2 unwarned _ spelled).2.1
  · exact ((runs_of_valid evenZerosIncomplete incomplete).2.1 ⟨"o"⟩ '1').mpr
      ⟨warned, ['0'], by decide, by decide⟩

end Acceptor
