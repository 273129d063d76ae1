import Acceptor.Proofs.Run.Judgement

/-! # Verdict, trace and steps of one word

The three ways to run a word tell the same story. Over the alphabet the trace has all steps, the
path of the verdict goes through their states and both end alike; a word with foreign symbols is
refused by the verdict and the trace, while the steps go on as far as transitions lead
(`entry_points_agree`).
-/

namespace Acceptor

open Walk

theorem Outcome.ending_eq_completed_iff {outcome : Outcome} {accepted : Bool} :
    outcome.ending = .completed accepted ↔
      (outcome = .accepted ∨ ∃ state, outcome = .rejected state) ∧
        accepted = (outcome == .accepted) := by
  cases outcome with
  | accepted => simp [Outcome.ending, eq_comm]
  | rejected state =>
    have differs : (Outcome.rejected state == .accepted) = false := rfl
    simp [Outcome.ending, differs, eq_comm]
  | failed failure => simp [Outcome.ending]

theorem Outcome.ending_eq_failed_iff {outcome : Outcome} {failure : RunFailure} :
    outcome.ending = .failed failure ↔ outcome = .failed failure := by
  cases outcome <;> simp [Outcome.ending]

namespace Automaton

/-- Refused or not, the trace ends for the reason that the verdict gives. -/
theorem ending_trace (automaton : Automaton) (word : Word) :
    (automaton.trace word).value.ending = (automaton.judge word).value.outcome.ending := by
  by_cases spelled : automaton.alphabet.Spells word
  · rw [value_trace_of_spells spelled, value_judge_of_spells spelled]
  · rw [value_trace_of_not_spells spelled, value_judge_of_not_spells spelled]
    rfl

theorem isAccepted_trace (automaton : Automaton) (word : Word) :
    (automaton.trace word).value.isAccepted = (automaton.judge word).value.isAccepted := by
  rw [Trace.isAccepted, ending_trace, Verdict.isAccepted]
  cases (automaton.judge word).value.outcome <;> rfl

/-- The last step stands in the state of the verdict, in front of what the verdict leaves. -/
theorem getLast?_steps_of_spells {automaton : Automaton} {word : Word}
    (spelled : automaton.alphabet.Spells word) :
    ∃ last, (automaton.steps word).value.getLast? = some last ∧
      (automaton.judge word).value.state = last.state ∧
      (automaton.judge word).value.remaining = last.remaining := by
  obtain ⟨last, found, equal⟩ := Option.map_eq_some_iff.mp
    (getLast?_onward (firstTarget? automaton.transitions) automaton.initial none 0 word)
  refine ⟨last, by rw [value_steps, trail, found], ?_, ?_⟩
  · rw [value_judge_of_spells spelled, stop, ← equal]
  · rw [value_judge_of_spells spelled, stop, ← equal]

end Automaton

theorem entry_points_agree (automaton : Automaton) (word : Word) :
    (automaton.alphabet.Spells word →
      (automaton.trace word).value.steps = (automaton.steps word).value ∧
      (automaton.judge word).value.path = (automaton.steps word).value.map Step.state ∧
      (∃ last, (automaton.steps word).value.getLast? = some last ∧
        (automaton.judge word).value.state = last.state ∧
        (automaton.judge word).value.remaining = last.remaining) ∧
      (∀ accepted, (automaton.trace word).value.ending = .completed accepted ↔
        ((automaton.judge word).value.outcome = .accepted ∨
          ∃ state, (automaton.judge word).value.outcome = .rejected state) ∧
        accepted = (automaton.judge word).value.isAccepted) ∧
      ∀ failure, (automaton.trace word).value.ending = .failed failure ↔
        (automaton.judge word).value.outcome = .failed failure) ∧
    (¬ automaton.alphabet.Spells word →
      (∃ first later, (automaton.steps word).value = first :: later ∧
        (automaton.trace word).value.steps = [first]) ∧
      (automaton.judge word).value.path = [] ∧
      ∃ invalid, (automaton.trace word).value.ending = .failed (.invalidSymbols invalid) ∧
        (automaton.judge word).value.outcome = .failed (.invalidSymbols invalid)) ∧
    (∀ place ≤ word.length, ((automaton.steps word).value.map Step.state)[place]? =
      reached? (firstTarget? automaton.transitions) automaton.initial (word.take place)) ∧
    (automaton.trace word).value.isAccepted = (automaton.judge word).value.isAccepted ∧
    (automaton.judge word).value.isAccepted = (automaton.accepts word).value := by
  refine ⟨?_, ?_, ?_, automaton.isAccepted_trace word, rfl⟩
  · intro spelled
    refine ⟨?_, ?_, Automaton.getLast?_steps_of_spells spelled, ?_, ?_⟩
    · rw [Automaton.value_trace_of_spells spelled, Automaton.value_steps]
    · rw [Automaton.value_judge_of_spells spelled, Automaton.value_steps]
    · intro accepted
      rw [Automaton.ending_trace, Outcome.ending_eq_completed_iff, Verdict.isAccepted]
    · intro failure
      rw [Automaton.ending_trace, Outcome.ending_eq_failed_iff]
  · intro foreign
    rw [Automaton.value_trace_of_not_spells foreign, Automaton.value_judge_of_not_spells foreign,
      Automaton.value_steps]
    exact ⟨⟨_, _, rfl, rfl⟩, rfl, _, rfl, rfl⟩
  · intro place within
    rw [Automaton.value_steps]
    exact getElem?_states_trail automaton.initial within

/-- A transition on a symbol that the alphabet does not have, out of an accepting state without any
other. -/
def trespassing : Automaton where
  id := "trespassing"
  name := "trespassing"
  description := none
  alphabet := ⟨['a']⟩
  states := [.ofId ⟨"s"⟩, .ofId ⟨"t"⟩]
  transitions := [⟨⟨"t0"⟩, ⟨"s"⟩, 'a', ⟨"t"⟩⟩, ⟨⟨"t1"⟩, ⟨"t"⟩, 'b', ⟨"s"⟩⟩]
  initial := ⟨"s"⟩
  accepting := [⟨"t"⟩]

theorem entry_points_agree_trespassing :
    (trespassing.alphabet.Spells ['a', 'a'] ∧
      (trespassing.trace ['a', 'a']).value.steps = (trespassing.steps ['a', 'a']).value) ∧
    ¬ trespassing.alphabet.Spells ['a', 'b'] ∧
      (∃ first later, (trespassing.steps ['a', 'b']).value = first :: later ∧
        (trespassing.trace ['a', 'b']).value.steps = [first]) ∧
      (trespassing.steps ['a', 'b']).value.length = 3 :=
  ⟨⟨by decide, ((entry_points_agree trespassing _).1 (by decide)).1⟩,
    by decide, ((entry_points_agree trespassing _).2.1 (by decide)).1,
    by rw [Automaton.value_steps]; decide⟩

end Acceptor
