import Acceptor.Automaton.Lookup
import Acceptor.Text.Quoted
import Acceptor.Transcript

/-! # Runs, step by step

A run reads a word from the initial state on, one symbol per step. Its first step stands in the
initial state before anything is read; each later one has followed a transition. A run ends when
the word is read or when no transition leads on, and then it stays where it is: asking again yields
nothing and says nothing. Nothing here consults the alphabet, only transitions matter.
-/

namespace Acceptor

/-- Why a run does not come to a verdict. -/
inductive RunFailure
  /-- The word has symbols outside the alphabet, each listed once in order of first appearance. -/
  | invalidSymbols (symbols : List Symbol)
  /-- No transition leaves the state on the symbol. -/
  | missingTransition (state : StateId) (symbol : Symbol)
deriving DecidableEq, Repr

/-- One point of a run. -/
structure Step where
  state : StateId
  /-- The symbol just read, none at the start. -/
  symbol : Option Symbol
  /-- What is left of the word. -/
  remaining : Word
  /-- How many symbols have been read. -/
  index : Nat
deriving DecidableEq, Repr, Inhabited

namespace Run

/-- What a run tells the log. -/
inductive Event
  /-- A transition was followed. -/
  | moved (source : StateId) (symbol : Symbol) (target : StateId)
  /-- No transition leaves the state on the symbol. -/
  | stuck (state : StateId) (symbol : Symbol)
deriving DecidableEq, Repr

/-- Where a run is between its steps. -/
inductive Phase
  /-- The initial step is still to come. -/
  | fresh
  /-- The run goes on as long as the word does. -/
  | underway
  /-- There is no transition on the next symbol. -/
  | stuck
deriving DecidableEq, Repr

end Run

/-- A run of a word on the transitions that `lookup` finds. -/
structure Run where
  lookup : Lookup
  state : StateId
  remaining : Word
  index : Nat
  phase : Run.Phase

namespace Run

/-- A run that has not shown its initial step yet. -/
def start (lookup : Lookup) (initial : StateId) (word : Word) : Run :=
  ⟨lookup, initial, word, 0, .fresh⟩

/-- The point where the run is, reached by reading `symbol`. -/
def snapshot (run : Run) (symbol : Option Symbol) : Step :=
  ⟨run.state, symbol, run.remaining, run.index⟩

/-- What stopped the run, if it is stuck: the missing transition on the next symbol. -/
def failure? (run : Run) : Option RunFailure :=
  match run.phase, run.remaining with
  | .stuck, symbol :: _ => some (.missingTransition run.state symbol)
  | _, _ => none

/-- The next step, if there is one, and the run after it. The run that gets stuck says so once. -/
def next (run : Run) : Traced Event (Option Step × Run) :=
  match run.phase, run.remaining with
  | .fresh, _ => pure (some (run.snapshot none), { run with phase := .underway })
  | .underway, symbol :: rest =>
    match run.lookup.next? run.state symbol with
    | some target => do
      Traced.emit (.moved run.state symbol target)
      let moved := { run with state := target, remaining := rest, index := run.index + 1 }
      pure (some (moved.snapshot (some symbol)), moved)
    | none => do
      Traced.emit (.stuck run.state symbol)
      pure (none, { run with phase := .stuck })
  | _, _ => pure (none, run)

/-- The steps to come, at most `count` of them, and the run after them. It ends before at the first
call of `next` that yields no step. -/
def take : Nat → Run → Traced Event (List Step × Run)
  | 0, run => pure ([], run)
  | count + 1, run => do
    match ← run.next with
    | (none, stopped) => pure ([], stopped)
    | (some step, moved) => (fun ended => (step :: ended.1, ended.2)) <$> take count moved

/-- All steps to come. A run has at most one step per remaining symbol and the initial one, and one
call more finds out why it ends. -/
def rest (run : Run) : Traced Event (List Step × Run) := run.take (run.remaining.length + 2)

theorem value_next_of_stuck {run : Run} (stuck : run.phase = .stuck) :
    run.next = pure (none, run) := by
  simp [next, stuck]

end Run

end Acceptor
