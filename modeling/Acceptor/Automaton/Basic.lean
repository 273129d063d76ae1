import Acceptor.Alphabet

/-! # Automata

A deterministic finite automaton as plain data: an alphabet, states, transitions, an initial state
and accepting states. Nothing is required of it. States may repeat or be missing, a state may have
two transitions on one symbol; such defects stay in the lists until validation names them, and runs
are defined on them all the same: of several transitions from one state on one symbol the first in
the list counts.

Whether a state is initial or accepting is a property of the automaton, not of the state.
-/

namespace Acceptor

/-- Where a state is drawn; carried along for display, with no influence on runs. -/
structure Position where
  x : Float
  y : Float
deriving BEq, Inhabited

/-- The place of a state that was given none. -/
def Position.origin : Position := ⟨0, 0⟩

/-- A declared state. -/
structure State where
  id : StateId
  label : String
  position : Position
deriving BEq, Inhabited

/-- A state that shows its identifier, drawn at the origin. -/
def State.ofId (id : StateId) : State := ⟨id, id.text, .origin⟩

/-- Reading `symbol` in `source` leads to `target`. -/
structure Transition where
  id : TransitionId
  source : StateId
  symbol : Symbol
  target : StateId
deriving DecidableEq, Repr, Inhabited

/-- A state and the symbol that is to be read in it. -/
structure Situation where
  state : StateId
  symbol : Symbol
deriving DecidableEq, Repr

instance : Hashable Situation :=
  ⟨fun situation => mixHash (hash situation.state) situation.symbol.val.toUInt64⟩

namespace Transition

/-- Where the transition applies. -/
def situation (transition : Transition) : Situation := ⟨transition.source, transition.symbol⟩

/-- The transition leaves `state` on `symbol`. -/
def serves (transition : Transition) (state : StateId) (symbol : Symbol) : Bool :=
  transition.situation == ⟨state, symbol⟩

/-- The transition starts or ends in `state`. -/
def touches (transition : Transition) (state : StateId) : Bool :=
  transition.source == state || transition.target == state

theorem serves_eq_true_iff {transition : Transition} {state : StateId} {symbol : Symbol} :
    transition.serves state symbol = true ↔
      transition.source = state ∧ transition.symbol = symbol := by
  simp [serves, situation]

end Transition

/-- Two automata are equal (`==`) when all parts agree, coordinates as numbers: zero equals minus
zero, and an undefined coordinate differs from itself. -/
structure Automaton where
  id : String
  name : String
  description : Option String
  alphabet : Alphabet
  states : List State
  transitions : List Transition
  initial : StateId
  accepting : List StateId
deriving BEq, Inhabited

namespace Automaton

/-- The number of declared states, repetitions included. -/
def size (automaton : Automaton) : Nat := automaton.states.length

/-- The identifiers of the declared states, repetitions included. -/
def stateIds (automaton : Automaton) : List StateId := automaton.states.map State.id

/-- The first declared state with the identifier. -/
def state? (automaton : Automaton) (id : StateId) : Option State :=
  automaton.states.find? fun state => state.id == id

def containsState (automaton : Automaton) (id : StateId) : Bool := (automaton.state? id).isSome

def isInitial (automaton : Automaton) (id : StateId) : Bool := automaton.initial == id

def isAccepting (automaton : Automaton) (id : StateId) : Bool := automaton.accepting.contains id

/-- The declared states that accept, repetitions included. -/
def acceptingStates (automaton : Automaton) : List StateId :=
  automaton.stateIds.filter automaton.isAccepting

/-- The declared states that do not accept, repetitions included. -/
def rejectingStates (automaton : Automaton) : List StateId :=
  automaton.stateIds.filter fun id => !automaton.isAccepting id

/-- The transitions that leave a state, in the order of the list. -/
def transitionsFrom (automaton : Automaton) (id : StateId) : List Transition :=
  automaton.transitions.filter fun transition => transition.source == id

/-- The symbols of a word that are not in the alphabet, each once, in order of first appearance. -/
def invalidSymbols (automaton : Automaton) (word : Word) : List Symbol :=
  (word.filter fun symbol => !automaton.alphabet.contains symbol).eraseDups

/-- Every symbol of the word is in the alphabet. -/
def admits (automaton : Automaton) (word : Word) : Bool := (automaton.invalidSymbols word).isEmpty

theorem containsState_eq_true_iff {automaton : Automaton} {id : StateId} :
    automaton.containsState id = true ↔ id ∈ automaton.stateIds := by
  simp [containsState, state?, stateIds]

theorem isAccepting_eq_true_iff {automaton : Automaton} {id : StateId} :
    automaton.isAccepting id = true ↔ id ∈ automaton.accepting := by
  simp [isAccepting]

end Automaton

end Acceptor
