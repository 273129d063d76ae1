import Acceptor.Run.Verdict
import Acceptor.Validation.Report
import Mathlib.Logic.Embedding.Basic

/-! # Renaming states and symbols

Other names for states and symbols, carried through everything that mentions them: automata, words,
steps, verdicts and traces, findings and reports. Labels, positions and the names of transitions
stay. Nothing is asked of the new names but that different states and different symbols still have
different ones.
-/

namespace Acceptor

/-- Names for states and for symbols, no two of them given the same. -/
structure Renaming where
  state : StateId ↪ StateId
  symbol : Symbol ↪ Symbol

variable (names : Renaming)

def State.rename (state : State) : State := { state with id := names.state state.id }

def Transition.rename (transition : Transition) : Transition :=
  { transition with
    source := names.state transition.source
    symbol := names.symbol transition.symbol
    target := names.state transition.target }

def Situation.rename (situation : Situation) : Situation :=
  ⟨names.state situation.state, names.symbol situation.symbol⟩

def Alphabet.rename (alphabet : Alphabet) : Alphabet := ⟨alphabet.symbols.map names.symbol⟩

def Automaton.rename (automaton : Automaton) : Automaton :=
  { automaton with
    alphabet := automaton.alphabet.rename names
    states := automaton.states.map (State.rename names)
    transitions := automaton.transitions.map (Transition.rename names)
    initial := names.state automaton.initial
    accepting := automaton.accepting.map names.state }

def Step.rename (step : Step) : Step where
  state := names.state step.state
  symbol := step.symbol.map names.symbol
  remaining := step.remaining.map names.symbol
  index := step.index

def RunFailure.rename : RunFailure → RunFailure
  | .invalidSymbols symbols => .invalidSymbols (symbols.map names.symbol)
  | .missingTransition state symbol =>
    .missingTransition (names.state state) (names.symbol symbol)

def Outcome.rename : Outcome → Outcome
  | .accepted => .accepted
  | .rejected state => .rejected (names.state state)
  | .failed failure => .failed (failure.rename names)

def Ending.rename : Ending → Ending
  | .completed accepted => .completed accepted
  | .failed failure => .failed (failure.rename names)

def Verdict.rename (verdict : Verdict) : Verdict where
  input := verdict.input.map names.symbol
  path := verdict.path.map names.state
  state := names.state verdict.state
  remaining := verdict.remaining.map names.symbol
  outcome := verdict.outcome.rename names

def Trace.rename (trace : Trace) : Trace :=
  ⟨trace.steps.map (Step.rename names), trace.ending.rename names⟩

def ValidationError.rename : ValidationError → ValidationError
  | .noStates => .noStates
  | .unknownInitialState state => .unknownInitialState (names.state state)
  | .unknownAcceptingState state => .unknownAcceptingState (names.state state)
  | .duplicateState state => .duplicateState (names.state state)
  | .unknownSourceState transition state => .unknownSourceState transition (names.state state)
  | .unknownTargetState transition state => .unknownTargetState transition (names.state state)
  | .symbolNotInAlphabet transition symbol =>
    .symbolNotInAlphabet transition (names.symbol symbol)
  | .nondeterministic state symbol kept conflicting =>
    .nondeterministic (names.state state) (names.symbol symbol) (names.state kept)
      (names.state conflicting)

def ValidationWarning.rename : ValidationWarning → ValidationWarning
  | .emptyAlphabet => .emptyAlphabet
  | .missingTransition state symbol =>
    .missingTransition (names.state state) (names.symbol symbol)

def ValidationReport.rename (report : ValidationReport) : ValidationReport :=
  ⟨report.errors.map (ValidationError.rename names),
    report.warnings.map (ValidationWarning.rename names)⟩

end Acceptor
