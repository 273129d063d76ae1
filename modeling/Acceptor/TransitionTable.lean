import Acceptor.Automaton.Lookup
import Acceptor.Text.Box
import Acceptor.Text.Quoted

/-! # Transition tables

An automaton as a table: a column per symbol, a row per state, in each cell the state that follows.
Symbols and states that are listed several times have one column or row, at their first place. The
table says what runs do: of several transitions it shows the first.
-/

namespace Acceptor

/-- A state and where it leads on each symbol. -/
structure TransitionRow where
  state : StateId
  isInitial : Bool
  isAccepting : Bool
  targets : List (Option StateId)
deriving DecidableEq, Repr

/-- The table before it is drawn. -/
structure TransitionTable where
  symbols : List Symbol
  rows : List TransitionRow
deriving DecidableEq, Repr

namespace TransitionRow

/-- An arrow marks the initial state, a star an accepting one. -/
def heading (row : TransitionRow) : String :=
  (if row.isInitial then "→" else "") ++ (if row.isAccepting then "*" else "") ++ row.state.text

/-- A dash stands where no transition leads on. -/
def cell : Option StateId → String
  | some target => target.text
  | none => "-"

def record (row : TransitionRow) : List String := row.heading :: row.targets.map cell

end TransitionRow

namespace TransitionTable

/-- What the table shows, cell by cell, the head first. -/
def records (table : TransitionTable) : List (List String) :=
  ("State" :: table.symbols.map Text.Quoted.char) :: table.rows.map TransitionRow.record

/-- The table in a box. -/
def render (table : TransitionTable) : String :=
  let lines := Text.Box.render (table.records.map fun record => record.map String.toList)
  String.ofList (['\n'].intercalate lines)

end TransitionTable

/-- The table of an automaton. -/
def Automaton.transitionTable (automaton : Automaton) : TransitionTable :=
  let symbols := automaton.alphabet.unique
  let lookup := automaton.lookup
  ⟨symbols, automaton.stateIds.eraseDups.map fun id =>
    ⟨id, automaton.isInitial id, automaton.isAccepting id, symbols.map (lookup.next? id)⟩⟩

end Acceptor
