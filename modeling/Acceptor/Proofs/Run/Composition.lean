import Acceptor.Automaton.Edit
import Acceptor.Proofs.Run.Validated

/-! # Words in two parts

A run that reads the first part of a word to its end goes on in the second part like a run that
starts in the state it has reached; only the count of symbols goes on too. A run that gets stuck in
the first part has nothing to do with the second, which is left unread behind the rest of the first
(`runs_compose`). The walk is cut at the boundary for an arbitrary source and an arbitrary number of
symbols before it, since both change with every symbol of the first part.
-/

namespace Acceptor

/-- The step of a word that another word is appended to. -/
def Step.followedBy (later : Word) (step : Step) : Step :=
  { step with remaining := step.remaining ++ later }

/-- The step of a word that a number of symbols were read before. -/
def Step.countedFrom (count : Nat) (step : Step) : Step :=
  { step with index := step.index + count }

/-- What follows and what was before a word are no part of the path. -/
theorem map_state_followedBy (later : Word) (steps : List Step) :
    (steps.map (Step.followedBy later)).map Step.state = steps.map Step.state :=
  List.map_map

theorem map_state_countedFrom (count : Nat) (steps : List Step) :
    (steps.map (Step.countedFrom count)).map Step.state = steps.map Step.state :=
  List.map_map

/-- The automaton that starts in the state where judging the word ends. -/
def Automaton.behind (automaton : Automaton) (word : Word) : Automaton :=
  automaton.setInitial (automaton.judge word).value.state

namespace Walk

variable {next? : StateId → Symbol → Option StateId} {source state : StateId}
  {first second rest : Word} {symbol : Symbol}

/-- If the first part is read to its end, the walk stops where it stops from there on. -/
theorem stop_append_of_read (read : stop next? source first = (state, [])) :
    stop next? source (first ++ second) = stop next? state second := by
  induction first generalizing source with
  | nil =>
    cases read
    rfl
  | cons symbol others ih =>
    cases found : next? source symbol with
    | none => simp [stop, found] at read
    | some target =>
      simp only [stop, found] at read
      simpa only [List.cons_append, stop, found] using ih read

/-- Where the walk gets stuck in the first part, it is stuck whatever follows. -/
theorem stop_append_of_stuck (stuck : stop next? source first = (state, symbol :: rest)) :
    stop next? source (first ++ second) = (state, symbol :: (rest ++ second)) := by
  have split := readable_append_stop next? source first
  have reached := reached?_readable next? source first
  rw [stuck] at split reached
  rw [← split, List.append_assoc, List.cons_append]
  exact stop_append_cons reached (next?_stop stuck)

/-- The steps of the first part, then those of the second from the state behind the first. -/
theorem onward_append_of_read (index : Nat) (read : stop next? source first = (state, [])) :
    onward next? source index (first ++ second) =
      (onward next? source index first).map (Step.followedBy second) ++
        onward next? state (index + first.length) second := by
  induction first generalizing source index with
  | nil =>
    cases read
    rfl
  | cons symbol others ih =>
    cases found : next? source symbol with
    | none => simp [stop, found] at read
    | some target =>
      simp only [stop, found] at read
      have counted : index + (symbol :: others).length = index + 1 + others.length := by
        rw [List.length_cons]
        omega
      simp only [List.cons_append, onward, found, List.map_cons, ih (index + 1) read, counted]
      rfl

/-- Behind a gap in the first part there are no more steps. -/
theorem onward_append_of_stuck (index : Nat)
    (stuck : stop next? source first = (state, symbol :: rest)) :
    onward next? source index (first ++ second) =
      (onward next? source index first).map (Step.followedBy second) := by
  induction first generalizing source index with
  | nil => simp [stop] at stuck
  | cons other others ih =>
    cases found : next? source other with
    | none => simp [onward, found]
    | some target =>
      simp only [stop, found] at stuck
      simp only [List.cons_append, onward, found, List.map_cons, ih (index + 1) stuck]
      rfl

/-- Symbols that were read before are counted in every step and change nothing else. -/
theorem onward_countedFrom (next? : StateId → Symbol → Option StateId) (source : StateId)
    (index count : Nat) (word : Word) :
    onward next? source (index + count) word =
      (onward next? source index word).map (Step.countedFrom count) := by
  induction word generalizing source index with
  | nil => rfl
  | cons symbol rest ih =>
    cases found : next? source symbol with
    | none => simp [onward, found]
    | some target =>
      have counted : index + count + 1 = index + 1 + count := by omega
      simp only [onward, found, List.map_cons, counted, ih]
      rfl

theorem trail_append_of_read (read : stop next? source first = (state, [])) :
    trail next? source (first ++ second) =
      (trail next? source first).map (Step.followedBy second) ++
        ((trail next? state second).tail.map (Step.countedFrom first.length)) := by
  have later := onward_countedFrom next? state 0 first.length second
  rw [Nat.zero_add] at later
  simp only [trail, onward_append_of_read 0 read, Nat.zero_add, List.map_cons, List.tail_cons,
    List.cons_append, later]
  rfl

theorem trail_append_of_stuck (stuck : stop next? source first = (state, symbol :: rest)) :
    trail next? source (first ++ second) =
      (trail next? source first).map (Step.followedBy second) := by
  simp only [trail, onward_append_of_stuck 0 stuck, List.map_cons]
  rfl

end Walk

theorem Alphabet.Spells.append {alphabet : Alphabet} {first second : Word}
    (spelledFirst : alphabet.Spells first) (spelledSecond : alphabet.Spells second) :
    alphabet.Spells (first ++ second) := by
  intro symbol member
  exact (List.mem_append.mp member).elim (spelledFirst symbol) (spelledSecond symbol)

namespace Automaton

open Walk

variable {automaton : Automaton} {first second rest : Word} {state : StateId} {symbol : Symbol}

/-- A word that is stuck in its first part is judged like the first part, the second being left. -/
theorem value_judge_append_of_stuck (spelledFirst : automaton.alphabet.Spells first)
    (spelledSecond : automaton.alphabet.Spells second)
    (stuck : automaton.stop first = (state, symbol :: rest)) :
    (automaton.judge (first ++ second)).value =
      { (automaton.judge first).value with
        input := first ++ second
        remaining := (automaton.judge first).value.remaining ++ second } := by
  have stopped : automaton.stop (first ++ second) = (state, symbol :: (rest ++ second)) :=
    stop_append_of_stuck stuck
  rw [value_judge_of_spells (spelledFirst.append spelledSecond), value_judge_of_spells spelledFirst,
    stopped, stuck, trail_append_of_stuck stuck, map_state_followedBy]
  rfl

/-- Behind a first part that is read to its end, a word is judged like its second part from the
state reached; the path leads there first. -/
theorem value_judge_append_of_read (spelledFirst : automaton.alphabet.Spells first)
    (spelledSecond : automaton.alphabet.Spells second)
    (read : automaton.stop first = (state, [])) :
    (automaton.judge (first ++ second)).value =
      { ((automaton.setInitial state).judge second).value with
        input := first ++ second
        path := (automaton.judge first).value.path ++
          ((automaton.setInitial state).judge second).value.path.tail } := by
  have stopped : automaton.stop (first ++ second) = (automaton.setInitial state).stop second :=
    stop_append_of_read read
  have alike : automaton.outcomeAt = (automaton.setInitial state).outcomeAt := by
    funext position
    rcases position with ⟨reached, _ | ⟨symbol, left⟩⟩ <;> rfl
  have spelledOnward : (automaton.setInitial state).alphabet.Spells second := spelledSecond
  rw [value_judge_of_spells (spelledFirst.append spelledSecond), value_judge_of_spells spelledFirst,
    value_judge_of_spells spelledOnward, stopped, alike, trail_append_of_read read,
    List.map_append, map_state_followedBy, map_state_countedFrom, List.map_tail]
  rfl

end Automaton

/-- Judging a word in two parts over the alphabet. If the first part gets stuck, so does the whole
word, at the same place with the same path, and the second part is left behind what the first one
leaves. Otherwise the whole word fares like its second part on the automaton that starts where the
first part has led; path and steps are those of the first part and then those of the second without
their beginning, the steps of the first part in front of more symbols and those of the second behind
more of them. -/
theorem runs_compose (automaton : Automaton) (first second : Word)
    (spelledFirst : automaton.alphabet.Spells first)
    (spelledSecond : automaton.alphabet.Spells second) :
    (∀ state symbol,
      (automaton.judge first).value.outcome = .failed (.missingTransition state symbol) →
      (automaton.judge (first ++ second)).value.outcome =
        .failed (.missingTransition state symbol) ∧
      (automaton.judge (first ++ second)).value.path = (automaton.judge first).value.path ∧
      (automaton.judge (first ++ second)).value.state = (automaton.judge first).value.state ∧
      (automaton.judge (first ++ second)).value.remaining =
        (automaton.judge first).value.remaining ++ second ∧
      (automaton.steps (first ++ second)).value =
        (automaton.steps first).value.map (Step.followedBy second)) ∧
    ((∀ state symbol,
      (automaton.judge first).value.outcome ≠ .failed (.missingTransition state symbol)) →
      (automaton.judge (first ++ second)).value.outcome =
        ((automaton.behind first).judge second).value.outcome ∧
      (automaton.judge (first ++ second)).value.isAccepted =
        ((automaton.behind first).judge second).value.isAccepted ∧
      (automaton.judge (first ++ second)).value.state =
        ((automaton.behind first).judge second).value.state ∧
      (automaton.judge (first ++ second)).value.remaining =
        ((automaton.behind first).judge second).value.remaining ∧
      (automaton.judge (first ++ second)).value.path =
        (automaton.judge first).value.path ++
          ((automaton.behind first).judge second).value.path.tail ∧
      (automaton.steps (first ++ second)).value =
        (automaton.steps first).value.map (Step.followedBy second) ++
          ((automaton.behind first).steps second).value.tail.map
            (Step.countedFrom first.length)) := by
  constructor
  · intro state symbol failed
    obtain ⟨-, rest, stuck⟩ := Automaton.outcome_judge_eq_missing_iff.mp failed
    rw [Automaton.value_judge_append_of_stuck spelledFirst spelledSecond stuck,
      Automaton.value_steps, Automaton.value_steps]
    exact ⟨failed, rfl, rfl, rfl, Walk.trail_append_of_stuck stuck⟩
  · intro completes
    cases stopped : automaton.stop first with
    | mk state left =>
      cases left with
      | cons symbol rest =>
        have failed := Automaton.outcome_judge_eq_missing_iff.mpr ⟨spelledFirst, rest, stopped⟩
        exact absurd failed (completes state symbol)
      | nil =>
        have onward : automaton.behind first = automaton.setInitial state := by
          rw [Automaton.behind, Automaton.value_judge_of_spells spelledFirst, stopped]
        rw [onward, Automaton.value_judge_append_of_read spelledFirst spelledSecond stopped]
        refine ⟨rfl, rfl, rfl, rfl, rfl, ?_⟩
        simp only [Automaton.value_steps]
        exact Walk.trail_append_of_read stopped

/-- A zero leads to the state that has no transition on ones; a second word goes on from there. -/
theorem runs_compose_evenZerosIncomplete :
    (evenZerosIncomplete.alphabet.Spells ['0'] ∧ evenZerosIncomplete.alphabet.Spells ['0', '1']) ∧
    (evenZerosIncomplete.judge (['0', '1'] ++ ['0'])).value.outcome =
      .failed (.missingTransition ⟨"o"⟩ '1') ∧
    (evenZerosIncomplete.judge (['0'] ++ ['0', '1'])).value.outcome =
      ((evenZerosIncomplete.behind ['0']).judge ['0', '1']).value.outcome := by
  have zero : evenZerosIncomplete.alphabet.Spells ['0'] := by decide
  have zeroOne : evenZerosIncomplete.alphabet.Spells ['0', '1'] := by decide
  have failed : (evenZerosIncomplete.judge ['0', '1']).value.outcome =
      .failed (.missingTransition ⟨"o"⟩ '1') :=
    Automaton.outcome_judge_eq_missing_iff.mpr ⟨zeroOne, [], by decide⟩
  have completes (state : StateId) (symbol : Symbol) :
      (evenZerosIncomplete.judge ['0']).value.outcome ≠
        .failed (.missingTransition state symbol) := by
    rw [Automaton.value_judge_of_spells zero,
      show evenZerosIncomplete.outcomeAt (evenZerosIncomplete.stop ['0']) =
        .rejected ⟨"o"⟩ by decide]
    exact nofun
  refine ⟨⟨zero, zeroOne⟩, ?_, ?_⟩
  · exact ((runs_compose evenZerosIncomplete _ ['0'] zeroOne zero).1 _ _ failed).1
  · exact ((runs_compose evenZerosIncomplete _ ['0', '1'] zero zeroOne).2 completes).1

end Acceptor
