import Acceptor.Ident.Source

/-! # Editing

One change at a time, with a value back where there is something to tell: the identifier that was
chosen or the part that was removed. Removing a state takes its transitions and its acceptance with
it, but leaves the initial state as it is, dangling if need be. An identifier that names nothing
changes nothing.
-/

namespace Acceptor

namespace Automaton

/-- Appends a state under a fresh identifier; without a label it shows the identifier. -/
def addState (automaton : Automaton) (label : Option String) (position : Position) :
    StateId × Automaton :=
  let id := StateId.fresh automaton.stateIds
  (id, { automaton with states := automaton.states ++ [⟨id, label.getD id.text, position⟩] })

/-- Removes the first state with the identifier, every transition that touches it and its
acceptance. -/
def removeState (automaton : Automaton) (id : StateId) : Option State × Automaton :=
  match automaton.state? id with
  | none => (none, automaton)
  | some removed =>
    (some removed, { automaton with
      states := automaton.states.eraseP fun state => state.id == id
      transitions := automaton.transitions.filter fun transition => !transition.touches id
      accepting := automaton.accepting.filter fun accepting => accepting != id })

/-- Appends a transition, named by the source. -/
def addTransition (automaton : Automaton) (source : StateId) (symbol : Symbol) (target : StateId)
    (tokens : TokenSource) : TransitionId × Automaton × TokenSource :=
  let id := tokens.drawTransitionId
  let added := automaton.transitions ++ [⟨id.1, source, symbol, target⟩]
  (id.1, { automaton with transitions := added }, id.2)

/-- Removes the first transition with the identifier. -/
def removeTransition (automaton : Automaton) (id : TransitionId) : Option Transition × Automaton :=
  match automaton.transitions.find? fun transition => transition.id == id with
  | none => (none, automaton)
  | some removed =>
    (some removed, { automaton with
      transitions := automaton.transitions.eraseP fun transition => transition.id == id })

/-- Makes a state accept or not. An accepting state moves to the end of the list, where it then
stands once. -/
def setAccepting (automaton : Automaton) (id : StateId) (accepting : Bool) : Automaton :=
  let others := automaton.accepting.filter fun other => other != id
  { automaton with accepting := if accepting then others ++ [id] else others }

/-- Makes a state the initial one. -/
def setInitial (automaton : Automaton) (id : StateId) : Automaton :=
  { automaton with initial := id }

theorem stateIds_withState (automaton : Automaton) (state : State) :
    stateIds { automaton with states := automaton.states ++ [state] } =
      automaton.stateIds ++ [state.id] := by
  simp [stateIds]

theorem stateIds_addState (automaton : Automaton) (label : Option String) (position : Position) :
    (automaton.addState label position).2.stateIds =
      automaton.stateIds ++ [(automaton.addState label position).1] :=
  automaton.stateIds_withState _

theorem isAccepting_setAccepting (automaton : Automaton) (id other : StateId) (accepting : Bool) :
    (automaton.setAccepting id accepting).isAccepting other =
      if other = id then accepting else automaton.isAccepting other := by
  by_cases same : other = id <;> cases accepting <;>
    simp [setAccepting, isAccepting, same]

end Automaton

end Acceptor
