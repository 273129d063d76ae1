import Acceptor.Ident.Source

/-! # Building automata

A builder collects what is known of an automaton, in any order, and assembles it once the initial
state is given. States that are mentioned but not declared are added behind the declared ones, in
the order of first mention, unless the builder is strict. Without an alphabet the symbols of the
edges make one. Edges are named at the end, so the source of names may be given at any time.
-/

namespace Acceptor

/-- A transition that has no name yet. -/
structure Edge where
  source : StateId
  symbol : Symbol
  target : StateId
deriving DecidableEq, Repr

/-- What has been collected. -/
structure Builder where
  id : Option String
  name : String
  description : Option String
  alphabet : Option Alphabet
  states : List State
  edges : List Edge
  accepting : List StateId
  tokens : TokenSource
  strict : Bool

namespace Builder

/-- Nothing but a name. -/
def named (name : String) : Builder := ⟨none, name, none, none, [], [], [], .standard, false⟩

/-- One thing a builder can be told. -/
inductive Detail
  | id (id : String)
  | description (description : String)
  | alphabet (alphabet : Alphabet)
  /-- States that show their identifiers. -/
  | states (ids : List StateId)
  | labelledState (id : StateId) (label : String) (position : Position)
  | edges (edges : List Edge)
  | accepting (ids : List StateId)
  | tokens (tokens : TokenSource)
  /-- Only declared states are to be there. -/
  | strict

/-- Lists grow at the end, everything else is replaced. -/
def add (builder : Builder) : Detail → Builder
  | .id id => { builder with id := some id }
  | .description description => { builder with description := some description }
  | .alphabet alphabet => { builder with alphabet := some alphabet }
  | .states ids => { builder with states := builder.states ++ ids.map .ofId }
  | .labelledState id label position =>
    { builder with states := builder.states ++ [⟨id, label, position⟩] }
  | .edges edges => { builder with edges := builder.edges ++ edges }
  | .accepting ids => { builder with accepting := builder.accepting ++ ids }
  | .tokens tokens => { builder with tokens }
  | .strict => { builder with strict := true }

/-- Told one thing after another. -/
def addAll (builder : Builder) (details : List Detail) : Builder := details.foldl add builder

theorem addAll_append (builder : Builder) (first second : List Detail) :
    builder.addAll (first ++ second) = (builder.addAll first).addAll second :=
  List.foldl_append ..

/-- Every identifier that is mentioned, in the order in which they count. -/
def mentioned (builder : Builder) (initial : StateId) : List StateId :=
  initial :: builder.edges.flatMap (fun edge => [edge.source, edge.target]) ++ builder.accepting

/-- Appends a state of its own for an identifier that has none. -/
def declare (states : List State) (id : StateId) : List State :=
  if states.any fun state => state.id == id then states else states ++ [.ofId id]

/-- The states of the automaton. -/
def allStates (builder : Builder) (initial : StateId) : List State :=
  if builder.strict then builder.states
  else (builder.mentioned initial).foldl declare builder.states

/-- Names the edges in order. -/
def nameEdges : TokenSource → List Edge → List Transition
  | _, [] => []
  | tokens, edge :: rest =>
    let id := tokens.drawTransitionId
    ⟨id.1, edge.source, edge.symbol, edge.target⟩ :: nameEdges id.2 rest

/-- The alphabet given last, or else each symbol of the edges in order of first use. -/
def wholeAlphabet (builder : Builder) : Alphabet :=
  builder.alphabet.getD ⟨(builder.edges.map Edge.symbol).eraseDups⟩

/-- The automaton that starts in `initial`. Without an identifier it goes by its name. -/
def build (builder : Builder) (initial : StateId) : Automaton where
  id := builder.id.getD builder.name
  name := builder.name
  description := builder.description
  alphabet := builder.wholeAlphabet
  states := builder.allStates initial
  transitions := nameEdges builder.tokens builder.edges
  initial
  accepting := builder.accepting

end Builder

end Acceptor
