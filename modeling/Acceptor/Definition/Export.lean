import Acceptor.Automaton.Basic
import Acceptor.Json.Value

/-! # Writing definitions

An automaton as a JSON object: all of its parts in a fixed order, symbols as strings of one
character. A description that is not there is left out.
-/

namespace Acceptor

open Json (Value)

/-- A symbol as a string. -/
def symbolValue (symbol : Symbol) : Value := .text symbol.toString

def Position.toValue (position : Position) : Value :=
  .object [("x", .number position.x), ("y", .number position.y)]

def State.toValue (state : State) : Value :=
  .object [("id", .text state.id.text), ("label", .text state.label),
    ("position", state.position.toValue)]

def Transition.toValue (transition : Transition) : Value :=
  .object [("id", .text transition.id.text), ("from", .text transition.source.text),
    ("to", .text transition.target.text), ("symbol", symbolValue transition.symbol)]

namespace Automaton

def toValue (automaton : Automaton) : Value :=
  .object ([("id", .text automaton.id), ("name", .text automaton.name)] ++
    (automaton.description.map fun text => ("description", Value.text text)).toList ++
    [("alphabet", .list (automaton.alphabet.symbols.map symbolValue)),
      ("states", .list (automaton.states.map State.toValue)),
      ("transitions", .list (automaton.transitions.map Transition.toValue)),
      ("initialStateId", .text automaton.initial.text),
      ("acceptingStateIds", .list (automaton.accepting.map fun id => .text id.text))])

/-- The definition of the automaton as a text. -/
def toJson (automaton : Automaton) : String := String.ofList automaton.toValue.render

end Automaton

end Acceptor
