import Acceptor.Ident
import Acceptor.Transcript

/-! # Findings

What validation can find: errors, which make an automaton invalid, and warnings, which leave it
usable. Each names the identifiers and symbols concerned.
-/

namespace Acceptor

/-- A defect that makes an automaton malformed. -/
inductive ValidationError
  | noStates
  | unknownInitialState (state : StateId)
  | unknownAcceptingState (state : StateId)
  | duplicateState (state : StateId)
  | unknownSourceState (transition : TransitionId) (state : StateId)
  | unknownTargetState (transition : TransitionId) (state : StateId)
  | symbolNotInAlphabet (transition : TransitionId) (symbol : Symbol)
  /-- A transition leads to `conflicting` where an earlier one already leads to `kept`. -/
  | nondeterministic (state : StateId) (symbol : Symbol) (kept conflicting : StateId)
deriving DecidableEq, Repr

/-- Something that leaves an automaton usable but incomplete. -/
inductive ValidationWarning
  | emptyAlphabet
  | missingTransition (state : StateId) (symbol : Symbol)
deriving DecidableEq, Repr

namespace ValidationError

def message : ValidationError → String
  | noStates => "DFA must have at least one state"
  | unknownInitialState state => s!"Initial state '{state}' does not exist"
  | unknownAcceptingState state => s!"Accepting state '{state}' does not exist"
  | duplicateState state => s!"Duplicate state id '{state}'"
  | unknownSourceState transition state =>
    s!"Transition {transition} starts in non-existent state '{state}'"
  | unknownTargetState transition state =>
    s!"Transition {transition} leads to non-existent state '{state}'"
  | symbolNotInAlphabet transition symbol =>
    s!"Transition {transition} uses symbol '{symbol}' which is not in the alphabet"
  | nondeterministic state symbol kept conflicting =>
    s!"Non-deterministic transitions from state {state} on symbol '{symbol}' " ++
      s!"(to {kept} and {conflicting})"

end ValidationError

namespace ValidationWarning

def message : ValidationWarning → String
  | emptyAlphabet => "Alphabet is empty, the automaton accepts at most the empty string"
  | missingTransition state symbol => s!"Missing transition from state {state} on symbol '{symbol}'"

end ValidationWarning

/-- One finding, in the order of discovery. -/
inductive Finding
  | error (error : ValidationError)
  | warning (warning : ValidationWarning)
deriving DecidableEq, Repr

namespace Finding

def error? : Finding → Option ValidationError
  | error found => some found
  | warning _ => none

def warning? : Finding → Option ValidationWarning
  | error _ => none
  | warning found => some found

end Finding

end Acceptor
