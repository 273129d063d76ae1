import Acceptor.Run.Basic

/-! # Verdicts and traces

Whole runs of an automaton. `judge` computes the verdict with the path, `trace` the steps with the
reason they end; both refuse a word with symbols outside the alphabet before any transition is
taken. `steps` lists steps without asking the alphabet, so there a foreign symbol ends the list only
if no transition is there for it.
-/

namespace Acceptor

/-- How a word fares. -/
inductive Outcome
  | accepted
  /-- The word is read to its end, in a state that does not accept. -/
  | rejected (state : StateId)
  | failed (failure : RunFailure)
deriving DecidableEq, Repr

/-- The outcome of a word and how it came about. -/
structure Verdict where
  input : Word
  /-- The visited states from the initial one on, one more than symbols read; none at all if the
  word is refused. -/
  path : List StateId
  /-- The state that was reached last. -/
  state : StateId
  /-- What was not read. -/
  remaining : Word
  outcome : Outcome
deriving DecidableEq, Repr

namespace Verdict

def isAccepted (verdict : Verdict) : Bool := verdict.outcome == .accepted

/-- The failure, if the run has one; a rejection is none. -/
def failure? (verdict : Verdict) : Option RunFailure :=
  match verdict.outcome with
  | .failed failure => some failure
  | _ => none

end Verdict

/-- Why a trace ends. -/
inductive Ending
  /-- The word was read to its end. -/
  | completed (accepted : Bool)
  | failed (failure : RunFailure)
deriving DecidableEq, Repr

/-- The steps of a run and why there are no more. -/
structure Trace where
  steps : List Step
  ending : Ending
deriving DecidableEq, Repr

/-- The word was read to its end and accepted. -/
def Trace.isAccepted (trace : Trace) : Bool := trace.ending == .completed true

namespace Run

/-- What judging a word tells the log. -/
inductive Notice
  /-- Something happened on the way. -/
  | underway (event : Event)
  /-- The word was not run for its foreign symbols. -/
  | refused (input : Word) (invalid : List Symbol)
  /-- The run came to its end. -/
  | ended (input : Word) (state : StateId) (outcome : Outcome)
deriving DecidableEq, Repr

end Run

namespace Automaton

/-- A run of the word from the initial state. -/
def run (automaton : Automaton) (word : Word) : Run :=
  .start automaton.lookup automaton.initial word

/-- How a run that has ended is judged: a failure stands, otherwise the state decides. -/
def outcomeOf (automaton : Automaton) (ended : Run) : Outcome :=
  match ended.failure? with
  | some failure => .failed failure
  | none => if automaton.isAccepting ended.state then .accepted else .rejected ended.state

/-- Why the trace of a run that has ended is complete. -/
def endingOf (automaton : Automaton) (ended : Run) : Ending :=
  match ended.failure? with
  | some failure => .failed failure
  | none => .completed (automaton.isAccepting ended.state)

/-- Runs the word and judges it. -/
def judge (automaton : Automaton) (word : Word) : Traced Run.Notice Verdict :=
  match automaton.invalidSymbols word with
  | [] => do
    let ran ← (automaton.run word).rest.mapEvents .underway
    let outcome := automaton.outcomeOf ran.2
    Traced.emit (.ended word ran.2.state outcome)
    pure ⟨word, ran.1.map Step.state, ran.2.state, ran.2.remaining, outcome⟩
  | invalid => do
    Traced.emit (.refused word invalid)
    pure ⟨word, [], automaton.initial, word, .failed (.invalidSymbols invalid)⟩

/-- The word is accepted. -/
def accepts (automaton : Automaton) (word : Word) : Traced Run.Notice Bool := do
  return (← automaton.judge word).isAccepted

/-- The steps of the run up to the end of the word or the first missing transition. -/
def steps (automaton : Automaton) (word : Word) : Traced Run.Event (List Step) := do
  return (← (automaton.run word).rest).1

/-- The steps of the run and why they end; of a refused word only the initial step. -/
def trace (automaton : Automaton) (word : Word) : Traced Run.Event Trace :=
  match automaton.invalidSymbols word with
  | [] => do
    let ran ← (automaton.run word).rest
    pure ⟨ran.1, automaton.endingOf ran.2⟩
  | invalid => do
    let begun ← (automaton.run word).take 1
    pure ⟨begun.1, .failed (.invalidSymbols invalid)⟩

end Automaton

end Acceptor
