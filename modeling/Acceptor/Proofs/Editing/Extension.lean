import Acceptor.Automaton.Edit
import Acceptor.Proofs.Run.Dependence
import Acceptor.Proofs.Run.Validated

/-! # Runs after a transition is added

A transition that is added comes last in the list, so it decides only where nothing decided before.
Every run follows the transitions that it followed before, and the only runs to notice anything are
those that were stuck in the source of the new transition in front of its symbol: these go on
(`addition_extends_stuck_runs`). Nothing is asked of the automaton, and whatever source names the
transition has no say in it.
-/

namespace Acceptor

namespace Walk

variable {next? other? : StateId → Symbol → Option StateId} {source state target : StateId}
  {symbol : Symbol} {word rest : Word}

/-- Whatever the first one follows the second one follows too. -/
def Extends (next? other? : StateId → Symbol → Option StateId) : Prop :=
  ∀ state symbol target, next? state symbol = some target → other? state symbol = some target

/-- More transitions do not change a walk unless one of them is there where it is stuck. -/
theorem agreeAlong_of_stop
    (kept : Extends next? other?)
    (stuck : ∀ state symbol rest, stop next? source word = (state, symbol :: rest) →
      other? state symbol = none) :
    AgreeAlong next? other? source word := by
  induction word generalizing source with
  | nil => trivial
  | cons symbol rest ih =>
    cases found : next? source symbol with
    | none =>
      have stopped : stop next? source (symbol :: rest) = (source, symbol :: rest) := by
        simp only [stop, found]
      refine ⟨(stuck source symbol rest stopped).trans found.symm, fun target leads => ?_⟩
      rw [found] at leads
      cases leads
    | some target =>
      have further : stop next? source (symbol :: rest) = stop next? target rest := by
        simp only [stop, found]
      refine ⟨(kept source symbol target found).trans found.symm, fun next leads => ?_⟩
      obtain rfl : target = next := Option.some.inj (found.symm.trans leads)
      exact ih fun state letter left stopped => stuck state letter left (further.trans stopped)

/-- A walk that was stuck has all its steps still, and goes on from there where a transition has
come. -/
theorem onward_eq_append
    (kept : Extends next? other?)
    (stuck : stop next? source word = (state, symbol :: rest))
    (leads : other? state symbol = some target) (index : Nat) :
    onward other? source index word =
      onward next? source index word ++
        ⟨target, some symbol, rest, index + (onward next? source index word).length + 1⟩ ::
          onward other? target (index + (onward next? source index word).length + 1) rest := by
  induction word generalizing source index with
  | nil => simp [stop] at stuck
  | cons first others ih =>
    cases found : next? source first with
    | none =>
      simp only [stop, found, Prod.mk.injEq, List.cons.injEq] at stuck
      obtain ⟨rfl, rfl, rfl⟩ := stuck
      simp [onward, found, leads]
    | some middle =>
      simp only [stop, found] at stuck
      have later := ih stuck (index + 1)
      simp only [onward, found, kept source first middle found, List.length_cons,
        List.cons_append]
      rw [later]
      simp only [Nat.add_assoc, Nat.add_comm 1]

theorem trail_eq_append
    (kept : Extends next? other?)
    (stuck : stop next? source word = (state, symbol :: rest))
    (leads : other? state symbol = some target) :
    trail other? source word =
      trail next? source word ++
        ⟨target, some symbol, rest, (trail next? source word).length⟩ ::
          onward other? target (trail next? source word).length rest := by
  rw [trail, onward_eq_append kept stuck leads 0, trail, List.length_cons, Nat.zero_add,
    List.cons_append]

end Walk

open Walk

namespace Automaton

variable (automaton : Automaton) (source : StateId) (symbol : Symbol) (target : StateId)
  (tokens : TokenSource)

/-- The new transition decides where there was none, in its source on its symbol. -/
theorem firstTarget?_addTransition (state : StateId) (letter : Symbol) :
    firstTarget? (automaton.addTransition source symbol target tokens).2.1.transitions state
        letter =
      (firstTarget? automaton.transitions state letter).or
        (if source = state ∧ symbol = letter then some target else none) := by
  rw [addTransition, firstTarget?_append, firstTarget?_cons]
  simp only [Transition.serves_eq_true_iff]
  rfl

theorem extends_addTransition :
    Extends (firstTarget? automaton.transitions)
      (firstTarget? (automaton.addTransition source symbol target tokens).2.1.transitions) := by
  intro state letter next found
  rw [firstTarget?_addTransition, found, Option.some_or]

variable {automaton source symbol} {word : Word}

/-- What stops elsewhere follows the same transitions as before. -/
theorem agreeAlong_addTransition
    (elsewhere : ∀ rest, automaton.stop word ≠ (source, symbol :: rest)) :
    AgreeAlong (firstTarget? automaton.transitions)
      (firstTarget? (automaton.addTransition source symbol target tokens).2.1.transitions)
      automaton.initial word := by
  apply agreeAlong_of_stop (automaton.extends_addTransition source symbol target tokens)
  intro state letter rest stopped
  rw [firstTarget?_addTransition, next?_stop stopped, Option.none_or, if_neg]
  rintro ⟨rfl, rfl⟩
  exact elsewhere rest stopped

/-- Where a word was stuck in front of the new transition, its steps go on to the target. -/
theorem value_steps_addTransition_of_stuck {rest : Word}
    (stuck : automaton.stop word = (source, symbol :: rest)) :
    ∃ later, ((automaton.addTransition source symbol target tokens).2.1.steps word).value =
      (automaton.steps word).value ++
        ⟨target, some symbol, rest, (automaton.steps word).value.length⟩ :: later := by
  have leads : firstTarget?
      (automaton.addTransition source symbol target tokens).2.1.transitions source symbol =
        some target := by
    rw [firstTarget?_addTransition, next?_stop stuck, Option.none_or, if_pos ⟨rfl, rfl⟩]
  rw [value_steps, value_steps]
  exact ⟨_, trail_eq_append (automaton.extends_addTransition source symbol target tokens) stuck
    leads⟩

theorem steps_isPrefix_addTransition (word : Word) :
    (automaton.steps word).value <+:
      ((automaton.addTransition source symbol target tokens).2.1.steps word).value := by
  by_cases stuck : ∃ rest, automaton.stop word = (source, symbol :: rest)
  · obtain ⟨rest, stopped⟩ := stuck
    obtain ⟨later, further⟩ := value_steps_addTransition_of_stuck target tokens stopped
    exact ⟨_, further.symm⟩
  · have along := agreeAlong_addTransition target tokens (not_exists.mp stuck)
    have same : ((automaton.addTransition source symbol target tokens).2.1.steps word).value =
        (automaton.steps word).value :=
      value_steps_eq rfl along
    exact same ▸ List.prefix_rfl

/-- Verdict and trace stay unless the word was stuck in front of the new transition; for a word with
foreign symbols transitions do not matter. -/
theorem agreeOn_addTransition
    (unstuck : (automaton.judge word).value.outcome ≠
      .failed (.missingTransition source symbol)) :
    automaton.AgreeOn (automaton.addTransition source symbol target tokens).2.1 word where
  initial := rfl
  alphabet _ := Iff.rfl
  transitions spelled := by
    refine agreeAlong_addTransition target tokens fun rest stopped => unstuck ?_
    exact outcome_judge_eq_missing_iff.mpr ⟨spelled, rest, stopped⟩
  accepting _ := Iff.rfl

/-- A transition that has one of its kind before it never decides. -/
theorem firstTarget?_addTransition_of_served
    (served : ∃ transition ∈ automaton.transitions,
      transition.source = source ∧ transition.symbol = symbol) :
    firstTarget? (automaton.addTransition source symbol target tokens).2.1.transitions =
      firstTarget? automaton.transitions := by
  funext state letter
  rw [firstTarget?_addTransition]
  cases found : firstTarget? automaton.transitions state letter with
  | some next => rw [Option.some_or]
  | none =>
    rw [Option.none_or, if_neg]
    rintro ⟨rfl, rfl⟩
    obtain ⟨transition, listed, same⟩ := served
    exact firstTarget?_eq_none_iff.mp found transition listed same

end Automaton

/-- Adding a transition to any automaton. All steps of a word stay where they were, in front of
whatever follows; verdict and trace stay as they were unless the word was stuck for that very
transition, and so accepted words stay accepted and rejected ones rejected. A word that was stuck
for it goes at least one step further, to the target. Nothing at all changes if there was a
transition from that state on that symbol before. -/
theorem addition_extends_stuck_runs (automaton : Automaton) (source : StateId) (symbol : Symbol)
    (target : StateId) (tokens : TokenSource) (word : Word) :
    let grown := (automaton.addTransition source symbol target tokens).2.1
    (automaton.steps word).value <+: (grown.steps word).value ∧
    ((automaton.judge word).value.outcome ≠ .failed (.missingTransition source symbol) →
      (grown.judge word).value = (automaton.judge word).value ∧
      (grown.trace word).value = (automaton.trace word).value) ∧
    ((automaton.judge word).value.outcome = .failed (.missingTransition source symbol) →
      ∃ rest later, (automaton.judge word).value.remaining = symbol :: rest ∧
        (grown.steps word).value = (automaton.steps word).value ++
          ⟨target, some symbol, rest, (automaton.steps word).value.length⟩ :: later) ∧
    ((∃ transition ∈ automaton.transitions,
        transition.source = source ∧ transition.symbol = symbol) →
      (grown.judge word).value = (automaton.judge word).value ∧
      (grown.trace word).value = (automaton.trace word).value ∧
      (grown.steps word).value = (automaton.steps word).value) ∧
    ((automaton.judge word).value.outcome = .accepted →
      (grown.judge word).value.outcome = .accepted) ∧
    ∀ state, (automaton.judge word).value.outcome = .rejected state →
      (grown.judge word).value.outcome = .rejected state := by
  intro grown
  have unstuck (different : (automaton.judge word).value.outcome ≠
      .failed (.missingTransition source symbol)) : automaton.AgreeOn grown word :=
    Automaton.agreeOn_addTransition target tokens different
  refine ⟨Automaton.steps_isPrefix_addTransition target tokens word, ?_, ?_, ?_, ?_, ?_⟩
  · intro different
    exact ⟨(unstuck different).value_judge_eq, (unstuck different).value_trace_eq⟩
  · intro failed
    obtain ⟨spelled, rest, stopped⟩ := Automaton.outcome_judge_eq_missing_iff.mp failed
    obtain ⟨later, further⟩ :=
      Automaton.value_steps_addTransition_of_stuck target tokens stopped
    refine ⟨rest, later, ?_, further⟩
    rw [Automaton.value_judge_of_spells spelled, stopped]
  · intro served
    have same : automaton.SameFrame grown := .of_eq rfl rfl rfl
    exact same.value_runs_eq
      (Automaton.firstTarget?_addTransition_of_served target tokens served) word
  · intro accepted
    have different : (automaton.judge word).value.outcome ≠
        .failed (.missingTransition source symbol) := by simp [accepted]
    rw [(unstuck different).value_judge_eq, accepted]
  · intro state rejected
    have different : (automaton.judge word).value.outcome ≠
        .failed (.missingTransition source symbol) := by simp [rejected]
    rw [(unstuck different).value_judge_eq, rejected]

/-- With the missing loop on ones, though at the end of the list and under another name. -/
def evenZerosMended : Automaton :=
  (evenZerosIncomplete.addTransition ⟨"o"⟩ '1' ⟨"o"⟩ .standard).2.1

/-- With a second transition on a zero, which never decides. -/
def evenZerosDoubled : Automaton :=
  (evenZerosIncomplete.addTransition ⟨"e"⟩ '0' ⟨"e"⟩ .standard).2.1

/-- A word that needs the missing loop goes on with it, and the others end as they did. -/
theorem addition_extends_stuck_runs_evenZerosIncomplete :
    ((evenZerosIncomplete.judge ['0', '1', '0']).value.outcome =
        .failed (.missingTransition ⟨"o"⟩ '1') ∧
      ∃ rest later, (evenZerosIncomplete.judge ['0', '1', '0']).value.remaining = '1' :: rest ∧
        (evenZerosMended.steps ['0', '1', '0']).value =
          (evenZerosIncomplete.steps ['0', '1', '0']).value ++
            ⟨⟨"o"⟩, some '1', rest, (evenZerosIncomplete.steps ['0', '1', '0']).value.length⟩ ::
              later) ∧
    ((evenZerosIncomplete.judge ['0', '0']).value.outcome = .accepted ∧
      (evenZerosMended.judge ['0', '0']).value.outcome = .accepted ∧
      (evenZerosMended.trace ['0', '0']).value = (evenZerosIncomplete.trace ['0', '0']).value) ∧
    ((evenZerosIncomplete.judge ['0']).value.outcome = .rejected ⟨"o"⟩ ∧
      (evenZerosMended.judge ['0']).value.outcome = .rejected ⟨"o"⟩) ∧
    (evenZerosDoubled.steps ['0', '1']).value = (evenZerosIncomplete.steps ['0', '1']).value := by
  have stuck : (evenZerosIncomplete.judge ['0', '1', '0']).value.outcome =
      .failed (.missingTransition ⟨"o"⟩ '1') :=
    Automaton.outcome_judge_eq_missing_iff.mpr ⟨by decide, ['0'], by decide⟩
  have accepted : (evenZerosIncomplete.judge ['0', '0']).value.outcome = .accepted := by
    rw [Automaton.value_judge_of_spells (by decide)]
    decide
  have rejected : (evenZerosIncomplete.judge ['0']).value.outcome = .rejected ⟨"o"⟩ := by
    rw [Automaton.value_judge_of_spells (by decide)]
    decide
  have extended (word : Word) :=
    addition_extends_stuck_runs evenZerosIncomplete ⟨"o"⟩ '1' ⟨"o"⟩ .standard word
  have unchanged :=
    addition_extends_stuck_runs evenZerosIncomplete ⟨"e"⟩ '0' ⟨"e"⟩ .standard ['0', '1']
  refine ⟨⟨stuck, ?_⟩, ⟨accepted, ?_, ?_⟩, ⟨rejected, ?_⟩, ?_⟩
  · exact (extended ['0', '1', '0']).2.2.1 stuck
  · exact (extended ['0', '0']).2.2.2.2.1 accepted
  · exact ((extended ['0', '0']).2.1 (by simp [accepted])).2
  · exact (extended ['0']).2.2.2.2.2 ⟨"o"⟩ rejected
  · exact (unchanged.2.2.2.1 (by decide)).2.2

end Acceptor
