import Acceptor.Run.Verdict
import Acceptor.Text.Style

/-! # Runs as text

How failures, steps, verdicts and traces read, plain and coloured for a terminal, and how the
events of a run are entered into the log. What is left of a word is shown quoted, since it may hold
anything.
-/

namespace Acceptor

open Text

/-- The reason in a sentence. -/
def RunFailure.message : RunFailure → String
  | .invalidSymbols symbols =>
    "Invalid symbols in input: " ++ ", ".intercalate (symbols.map Char.toString)
  | .missingTransition state symbol => s!"No transition from state {state} on symbol '{symbol}'"

namespace Step

/-- The step with the state shown in a given way and the symbol in another. -/
def displayWith (showSymbol : Symbol → String) (showState : StateId → String) (step : Step) :
    String :=
  toString step.index ++
    match step.symbol with
    | none => ": start in " ++ showState step.state
    | some symbol => ": read '" ++ showSymbol symbol ++ "' -> " ++ showState step.state

/-- The step and what is left of the word. -/
def display (step : Step) : String :=
  step.displayWith Char.toString StateId.text ++ " | remaining " ++ Quoted.text step.remaining

/-- The step in colours: the state blue, the symbol bold. -/
def displayColored (step : Step) : String :=
  step.displayWith (fun symbol => Style.bold.paint symbol.toString)
    fun state => Style.blue.paint state.text

end Step

namespace Verdict

/-- Why the word is not accepted. -/
def failureMessage? (verdict : Verdict) : Option String :=
  match verdict.outcome with
  | .accepted => none
  | .rejected state => some s!"Ended in non-accepting state {state}"
  | .failed failure => some failure.message

/-- The word, the verdict, the path and what went wrong. -/
def display (verdict : Verdict) : String :=
  let decision := if verdict.isAccepted then "accepted" else "rejected"
  let path := " -> ".intercalate (verdict.path.map StateId.text)
  let reason := match verdict.failureMessage? with
    | some message => ": " ++ message
    | none => ""
  Quoted.text verdict.input ++ " " ++ decision ++ ", path [" ++ path ++ "]" ++ reason

end Verdict

namespace Ending

def display : Ending → String
  | completed true => "accepted"
  | completed false => "rejected"
  | failed failure => "failed: " ++ failure.message

/-- Green for acceptance, yellow for rejection, red for a failure. -/
def style : Ending → Style
  | completed true => .green
  | completed false => .yellow
  | failed _ => .red

end Ending

namespace Trace

/-- The steps, one a line, and the reason they end. -/
def render (trace : Trace) : String :=
  "\n".intercalate (trace.steps.map Step.display ++ [trace.ending.display])

/-- The steps and the reason in colours. -/
def renderColored (trace : Trace) : String :=
  "\n".intercalate
    (trace.steps.map Step.displayColored ++ [trace.ending.style.paint trace.ending.display])

end Trace

namespace RunFailure

/-- The failure as the log spells it, field by field. -/
def logText : RunFailure → String
  | invalidSymbols symbols => "InvalidSymbols(" ++ Quoted.chars symbols ++ ")"
  | missingTransition state symbol =>
    "MissingTransition \x7b state: " ++ state.text ++ ", symbol: " ++ Quoted.char symbol ++ " \x7d"

end RunFailure

/-- The outcome as the log spells it, field by field. -/
def Outcome.logText : Outcome → String
  | .accepted => "Accepted"
  | .rejected state => "Rejected \x7b state: " ++ state.text ++ " \x7d"
  | .failed failure => "Failed(" ++ failure.logText ++ ")"

namespace Run

/-- Steps are details of the log. -/
def Event.entry : Event → Entry
  | .moved source symbol target => ⟨.trace, s!"{source} --{symbol}--> {target}"⟩
  | .stuck state symbol => ⟨.trace, s!"no transition from {state} on {symbol}"⟩

/-- Each judged word has one line of its own, refused or not. -/
def Notice.entry : Notice → Entry
  | .underway event => event.entry
  | .refused input invalid =>
    ⟨.debug, "refusing input " ++ Quoted.text input ++ ", it contains invalid symbols " ++
      Quoted.chars invalid⟩
  | .ended input state outcome =>
    ⟨.debug, "ran " ++ Quoted.text input ++ " to " ++ state.text ++ ", outcome " ++
      outcome.logText⟩

end Run

end Acceptor
