import Acceptor.Automaton.Basic
import Std.Data.HashMap

/-! # Finding the next state

A `Lookup` indexes transitions by source state and symbol, once, so that a run takes one look per
symbol. Main statement: what it finds is the target of the first transition of the list that leaves
the state on the symbol (`next?_ofTransitions`).
-/

namespace Acceptor

/-- The target of the first transition in the list that leaves `state` on `symbol`. -/
def firstTarget? (transitions : List Transition) (state : StateId) (symbol : Symbol) :
    Option StateId :=
  (transitions.find? fun transition => transition.serves state symbol).map Transition.target

theorem firstTarget?_eq_none_iff {transitions : List Transition} {state : StateId}
    {symbol : Symbol} :
    firstTarget? transitions state symbol = none ↔
      ∀ transition ∈ transitions, ¬ (transition.source = state ∧ transition.symbol = symbol) := by
  simp only [firstTarget?, Option.map_eq_none_iff, List.find?_eq_none,
    Transition.serves_eq_true_iff]

theorem exists_of_firstTarget?_eq_some {transitions : List Transition} {state target : StateId}
    {symbol : Symbol} (found : firstTarget? transitions state symbol = some target) :
    ∃ transition ∈ transitions, transition.source = state ∧ transition.symbol = symbol ∧
      transition.target = target := by
  obtain ⟨transition, first, rfl⟩ := Option.map_eq_some_iff.mp found
  have served := List.find?_some first
  obtain ⟨rfl, rfl⟩ := Transition.serves_eq_true_iff.mp served
  exact ⟨transition, List.mem_of_find?_eq_some first, rfl, rfl, rfl⟩

theorem firstTarget?_cons (transition : Transition) (rest : List Transition) (state : StateId)
    (symbol : Symbol) :
    firstTarget? (transition :: rest) state symbol =
      if transition.serves state symbol then some transition.target
      else firstTarget? rest state symbol := by
  by_cases served : transition.serves state symbol = true <;> simp [firstTarget?, served]

theorem firstTarget?_append (earlier later : List Transition) (state : StateId)
    (symbol : Symbol) :
    firstTarget? (earlier ++ later) state symbol =
      (firstTarget? earlier state symbol).or (firstTarget? later state symbol) := by
  simp only [firstTarget?, List.find?_append, Option.map_or]

/-- Transitions indexed by what they are looked up with. -/
structure Lookup where
  targets : Std.HashMap Situation StateId

namespace Lookup

/-- Enters a transition unless an earlier one leaves the same state on the same symbol. -/
def insert (lookup : Lookup) (transition : Transition) : Lookup :=
  ⟨lookup.targets.insertIfNew transition.situation transition.target⟩

def ofTransitions (transitions : List Transition) : Lookup := transitions.foldl insert ⟨∅⟩

/-- The state that follows `state` on `symbol`. -/
def next? (lookup : Lookup) (state : StateId) (symbol : Symbol) : Option StateId :=
  lookup.targets[Situation.mk state symbol]?

theorem next?_empty (state : StateId) (symbol : Symbol) : next? ⟨∅⟩ state symbol = none := by
  simp [next?]

theorem next?_insert (lookup : Lookup) (transition : Transition) (state : StateId)
    (symbol : Symbol) :
    (lookup.insert transition).next? state symbol =
      (lookup.next? state symbol).or
        (if transition.serves state symbol then some transition.target else none) := by
  simp only [next?, insert, Std.HashMap.getElem?_insertIfNew, Transition.serves]
  by_cases served : transition.situation = ⟨state, symbol⟩
  · by_cases known : Situation.mk state symbol ∈ lookup.targets <;> simp [served, known]
  · simp [served]

theorem next?_foldl_insert (transitions : List Transition) (lookup : Lookup) (state : StateId)
    (symbol : Symbol) :
    (transitions.foldl insert lookup).next? state symbol =
      (lookup.next? state symbol).or (firstTarget? transitions state symbol) := by
  induction transitions generalizing lookup with
  | nil => simp [firstTarget?]
  | cons transition rest ih =>
    rw [List.foldl_cons, ih, next?_insert, Option.or_assoc]
    congr 1
    by_cases served : transition.serves state symbol = true <;> simp [firstTarget?, served]

/-- Of several transitions from one state on one symbol, the first in the list counts. -/
theorem next?_ofTransitions (transitions : List Transition) (state : StateId) (symbol : Symbol) :
    (ofTransitions transitions).next? state symbol = firstTarget? transitions state symbol := by
  rw [ofTransitions, next?_foldl_insert, next?_empty, Option.none_or]

end Lookup

namespace Automaton

/-- The transitions of the automaton, indexed. -/
def lookup (automaton : Automaton) : Lookup := .ofTransitions automaton.transitions

/-- The state that follows `state` on `symbol`. -/
def next? (automaton : Automaton) (state : StateId) (symbol : Symbol) : Option StateId :=
  automaton.lookup.next? state symbol

theorem next?_eq (automaton : Automaton) (state : StateId) (symbol : Symbol) :
    automaton.next? state symbol = firstTarget? automaton.transitions state symbol :=
  Lookup.next?_ofTransitions ..

end Automaton

end Acceptor
