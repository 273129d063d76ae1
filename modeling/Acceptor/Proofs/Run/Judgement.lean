import Acceptor.Proofs.Occurrence
import Acceptor.Proofs.Run.Rest

/-! # What judging a word means

The verdict, the trace and the steps of a word in terms of its walk along first transitions, for
automata of any kind. A word with foreign symbols is refused: nothing is read and the symbols are
named. Any other word is read as far as transitions lead, and the state there decides if nothing is
left (`judge_semantics`).
-/

namespace Acceptor

open Walk

/-- Every symbol of the word is in the alphabet. -/
def Alphabet.Spells (alphabet : Alphabet) (word : Word) : Prop :=
  ∀ symbol ∈ word, symbol ∈ alphabet.symbols

instance (alphabet : Alphabet) (word : Word) : Decidable (alphabet.Spells word) :=
  List.decidableBAll (fun symbol => symbol ∈ alphabet.symbols) word

/-- The verdict on a word with foreign symbols: it names them, each once, in the order in which they
first appear, and nothing of the word is read. -/
structure Verdict.Refuses (verdict : Verdict) (automaton : Automaton) (word : Word) : Prop where
  outcome : ∃ invalid, verdict.outcome = .failed (.invalidSymbols invalid) ∧
    (∀ symbol, symbol ∈ invalid ↔ symbol ∈ word ∧ symbol ∉ automaton.alphabet.symbols) ∧
    invalid.Nodup ∧ invalid.Pairwise fun earlier later => word.idxOf earlier < word.idxOf later
  path : verdict.path = []
  state : verdict.state = automaton.initial
  remaining : verdict.remaining = word

/-- The verdict on a word over the alphabet: the path leads along the longest prefix that first
transitions can read, and what is left of the word, or else the last state, decides. -/
structure Verdict.Follows (verdict : Verdict) (automaton : Automaton) (word : Word) : Prop where
  path : ∃ consumed,
    LongestReadable (firstTarget? automaton.transitions) automaton.initial word consumed ∧
    word = consumed ++ verdict.remaining ∧ verdict.path.length = consumed.length + 1 ∧
    ∀ place ≤ consumed.length, verdict.path[place]? =
      reached? (firstTarget? automaton.transitions) automaton.initial (consumed.take place)
  state : verdict.path.getLast? = some verdict.state
  outcome : verdict.outcome =
    match verdict.remaining with
    | symbol :: _ => .failed (.missingTransition verdict.state symbol)
    | [] => if verdict.state ∈ automaton.accepting then .accepted else .rejected verdict.state

/-- The reason that a trace gives where a verdict has an outcome. -/
def Outcome.ending : Outcome → Ending
  | .accepted => .completed true
  | .rejected _ => .completed false
  | .failed failure => .failed failure

namespace Automaton

/-- Where reading the word along first transitions stops, and what it leaves. -/
def stop (automaton : Automaton) (word : Word) : StateId × Word :=
  Walk.stop (firstTarget? automaton.transitions) automaton.initial word

/-- How a word is judged of which nothing or something is left in a state. -/
def outcomeAt (automaton : Automaton) : StateId × Word → Outcome
  | (state, []) => if state ∈ automaton.accepting then .accepted else .rejected state
  | (state, symbol :: _) => .failed (.missingTransition state symbol)

variable {automaton : Automaton} {word : Word}

theorem lookup_next? (automaton : Automaton) :
    automaton.lookup.next? = firstTarget? automaton.transitions := by
  funext state symbol
  exact Lookup.next?_ofTransitions ..

theorem mem_invalidSymbols {symbol : Symbol} :
    symbol ∈ automaton.invalidSymbols word ↔
      symbol ∈ word ∧ symbol ∉ automaton.alphabet.symbols := by
  simp [invalidSymbols, Alphabet.contains]

theorem invalidSymbols_eq_nil_iff :
    automaton.invalidSymbols word = [] ↔ automaton.alphabet.Spells word := by
  simp [List.eq_nil_iff_forall_not_mem, mem_invalidSymbols, Alphabet.Spells]

theorem pairwise_idxOf_invalidSymbols (automaton : Automaton) (word : Word) :
    (automaton.invalidSymbols word).Pairwise fun earlier later =>
      word.idxOf earlier < word.idxOf later :=
  List.pairwise_idxOf_eraseDups_filter _ word

/-- The steps are those of the walk; the alphabet has no say in it. -/
theorem value_steps (automaton : Automaton) (word : Word) :
    (automaton.steps word).value =
      trail (firstTarget? automaton.transitions) automaton.initial word := by
  simp only [steps, run, Traced.value_bind, Traced.value_pure, Run.value_rest_start, lookup_next?]

/-- A run that has ended is judged by where its walk stops. -/
theorem outcomeOf_ended (automaton : Automaton) (word : Word) :
    automaton.outcomeOf (.ended automaton.lookup automaton.initial 0 word) =
      automaton.outcomeAt (automaton.stop word) := by
  rw [outcomeOf, Run.failure?_ended, lookup_next?]
  cases stopped : automaton.stop word with
  | mk state left =>
    rw [stop] at stopped
    cases left with
    | nil => simp [stopped, Run.ended, lookup_next?, outcomeAt, isAccepting]
    | cons symbol rest => simp [stopped, outcomeAt]

/-- What judges a run that has ended also says why its trace ends. -/
theorem endingOf_eq (automaton : Automaton) (ended : Run) :
    automaton.endingOf ended = (automaton.outcomeOf ended).ending := by
  cases failed : ended.failure? with
  | some failure => simp [endingOf, outcomeOf, failed, Outcome.ending]
  | none =>
    cases accepting : automaton.isAccepting ended.state <;>
      simp [endingOf, outcomeOf, failed, accepting, Outcome.ending]

/-- The verdict on a word over the alphabet is read off its walk. -/
theorem value_judge_of_spells (spelled : automaton.alphabet.Spells word) :
    (automaton.judge word).value =
      ⟨word, (trail (firstTarget? automaton.transitions) automaton.initial word).map Step.state,
        (automaton.stop word).1, (automaton.stop word).2,
        automaton.outcomeAt (automaton.stop word)⟩ := by
  simp only [judge, invalidSymbols_eq_nil_iff.mpr spelled, run, Traced.value_bind,
    Traced.value_pure, Traced.value_mapEvents, Run.value_rest_start, outcomeOf_ended]
  simp only [Run.ended, lookup_next?, stop]

theorem value_judge_of_not_spells (foreign : ¬ automaton.alphabet.Spells word) :
    (automaton.judge word).value =
      ⟨word, [], automaton.initial, word,
        .failed (.invalidSymbols (automaton.invalidSymbols word))⟩ := by
  cases invalid : automaton.invalidSymbols word with
  | nil => exact absurd (invalidSymbols_eq_nil_iff.mp invalid) foreign
  | cons symbol rest => simp [judge, invalid]

theorem value_trace_of_spells (spelled : automaton.alphabet.Spells word) :
    (automaton.trace word).value =
      ⟨trail (firstTarget? automaton.transitions) automaton.initial word,
        (automaton.outcomeAt (automaton.stop word)).ending⟩ := by
  simp only [trace, invalidSymbols_eq_nil_iff.mpr spelled, run, Traced.value_bind,
    Traced.value_pure, Run.value_rest_start, endingOf_eq, outcomeOf_ended, lookup_next?]

theorem value_trace_of_not_spells (foreign : ¬ automaton.alphabet.Spells word) :
    (automaton.trace word).value =
      ⟨[⟨automaton.initial, none, word, 0⟩],
        .failed (.invalidSymbols (automaton.invalidSymbols word))⟩ := by
  cases invalid : automaton.invalidSymbols word with
  | nil => exact absurd (invalidSymbols_eq_nil_iff.mp invalid) foreign
  | cons symbol rest => simp [trace, invalid, run, Run.value_take_one_start]

theorem refuses_of_not_spells (foreign : ¬ automaton.alphabet.Spells word) :
    (automaton.judge word).value.Refuses automaton word := by
  rw [value_judge_of_not_spells foreign]
  have ordered := pairwise_idxOf_invalidSymbols automaton word
  refine ⟨⟨_, rfl, fun _ => mem_invalidSymbols, ?_, ordered⟩, rfl, rfl, rfl⟩
  refine ordered.imp ?_
  rintro earlier later before rfl
  exact Nat.lt_irrefl _ before

theorem follows_of_spells (spelled : automaton.alphabet.Spells word) :
    (automaton.judge word).value.Follows automaton word := by
  rw [value_judge_of_spells spelled]
  have split := readable_append_stop (firstTarget? automaton.transitions) automaton.initial word
  have last := getLast?_onward (firstTarget? automaton.transitions) automaton.initial none 0 word
  refine ⟨⟨_, longestReadable_readable automaton.initial word, split.symm, ?_, ?_⟩, ?_, ?_⟩
  · simp [trail, length_onward]
  · intro place within
    have shorter : place ≤ word.length := by
      rw [← split, List.length_append]
      omega
    -- Up to its end the part that is read has the same beginnings as the word.
    have same : word.take place =
        (readable (firstTarget? automaton.transitions) automaton.initial word).take place := by
      conv_lhs => rw [← split]
      exact List.take_append_of_le_length within
    rw [← same]
    exact getElem?_states_trail automaton.initial shorter
  · obtain ⟨step, found, equal⟩ := Option.map_eq_some_iff.mp last
    simp only [List.getLast?_map, trail, found, Option.map_some, stop, ← equal]
  · cases automaton.stop word with
    | mk state left => cases left <;> rfl

end Automaton

/-- The verdict on any word on any automaton. It repeats the word, counts as acceptance exactly if
the outcome says so, and refuses the word or follows it, depending on the alphabet. -/
theorem judge_semantics (automaton : Automaton) (word : Word) :
    (automaton.judge word).value.input = word ∧
    ((automaton.judge word).value.isAccepted = true ↔
      (automaton.judge word).value.outcome = .accepted) ∧
    (¬ automaton.alphabet.Spells word → (automaton.judge word).value.Refuses automaton word) ∧
    (automaton.alphabet.Spells word → (automaton.judge word).value.Follows automaton word) := by
  refine ⟨?_, by simp [Verdict.isAccepted], Automaton.refuses_of_not_spells,
    Automaton.follows_of_spells⟩
  by_cases spelled : automaton.alphabet.Spells word
  · rw [Automaton.value_judge_of_spells spelled]
  · rw [Automaton.value_judge_of_not_spells spelled]

/-- A state that is declared twice and left twice on one symbol: the transition that counts leads to
a state that is not declared, the other one back. -/
def forked : Automaton where
  id := "forked"
  name := "forked"
  description := none
  alphabet := ⟨['a', 'b', 'a']⟩
  states := [.ofId ⟨"s"⟩, .ofId ⟨"s"⟩]
  transitions := [⟨⟨"t0"⟩, ⟨"s"⟩, 'a', ⟨"t"⟩⟩, ⟨⟨"t1"⟩, ⟨"s"⟩, 'a', ⟨"s"⟩⟩]
  initial := ⟨"s"⟩
  accepting := [⟨"t"⟩]

theorem judge_semantics_forked :
    (forked.alphabet.Spells ['a', 'a', 'b'] ∧
      (forked.judge ['a', 'a', 'b']).value.Follows forked ['a', 'a', 'b']) ∧
    ¬ forked.alphabet.Spells ['a', 'd', 'c', 'd'] ∧
      (forked.judge ['a', 'd', 'c', 'd']).value.Refuses forked ['a', 'd', 'c', 'd'] :=
  ⟨⟨by decide, (judge_semantics forked _).2.2.2 (by decide)⟩,
    by decide, (judge_semantics forked _).2.2.1 (by decide)⟩

end Acceptor
