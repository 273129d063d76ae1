import Acceptor.Automaton.Basic
import Acceptor.Validation.Finding
import Std.Data.HashMap
import Std.Data.HashSet

/-! # Validation

An audit of an automaton's structure. Every check is made whatever the others find, in a fixed
order: states exist, the initial and the accepting states are declared, the alphabet has symbols,
identifiers are unique, then each transition in turn (its ends are declared, its symbol is in the
alphabet, no earlier transition serves the same state and symbol), and last that every state has a
transition on every symbol. The report keeps errors and warnings apart, each in order of discovery,
and the log has one entry per finding and a summary.
-/

namespace Acceptor

/-- What validation found. -/
structure ValidationReport where
  errors : List ValidationError
  warnings : List ValidationWarning
deriving DecidableEq, Repr

namespace ValidationReport

def ofFindings (findings : List Finding) : ValidationReport :=
  ⟨findings.filterMap Finding.error?, findings.filterMap Finding.warning?⟩

/-- Warnings do not make an automaton invalid. -/
def isValid (report : ValidationReport) : Bool := report.errors.isEmpty

def errorMessages (report : ValidationReport) : List String :=
  report.errors.map ValidationError.message

def warningMessages (report : ValidationReport) : List String :=
  report.warnings.map ValidationWarning.message

end ValidationReport

namespace Validation

/-- What validation tells the log. -/
inductive Event
  | found (finding : Finding)
  | summary (name : String) (errors warnings : Nat)
deriving DecidableEq, Repr

/-- Findings are details of the log, the summary is not. -/
def Event.entry : Event → Entry
  | .found (.error error) => ⟨.trace, "validation error: " ++ error.message⟩
  | .found (.warning warning) => ⟨.trace, "validation warning: " ++ warning.message⟩
  | .summary name errors warnings =>
    ⟨.debug, s!"validated {name}: {errors} errors, {warnings} warnings"⟩

/-- The declared identifiers. -/
abbrev Known := Std.HashSet StateId

/-- The transitions seen so far: the first target for each state and symbol. -/
abbrev Served := Std.HashMap Situation StateId

/-- A finding if the condition holds. -/
def findIf (condition : Bool) (finding : Finding) : List Finding :=
  if condition then [finding] else []

/-- Identifiers that repeat an earlier one, at each repetition. -/
def duplicates (seen : Known) : List StateId → List Finding
  | [] => []
  | id :: rest =>
    findIf (seen.contains id) (.error (.duplicateState id)) ++ duplicates (seen.insert id) rest

/-- The findings on one transition, `served` holding those before it. -/
def transitionFindings (automaton : Automaton) (known : Known) (served : Served)
    (transition : Transition) : List Finding :=
  findIf (!known.contains transition.source)
    (.error (.unknownSourceState transition.id transition.source)) ++
  findIf (!known.contains transition.target)
    (.error (.unknownTargetState transition.id transition.target)) ++
  findIf (!automaton.alphabet.contains transition.symbol)
    (.error (.symbolNotInAlphabet transition.id transition.symbol)) ++
  match served[transition.situation]? with
  | some kept =>
    [.error (.nondeterministic transition.source transition.symbol kept transition.target)]
  | none => []

/-- The findings on transitions in turn, and what they serve together. A state and symbol stay with
the first transition that serves them. -/
def auditTransitions (automaton : Automaton) (known : Known) :
    Served → List Transition → List Finding × Served
  | served, [] => ([], served)
  | served, transition :: rest =>
    let later := auditTransitions automaton known
      (served.insertIfNew transition.situation transition.target) rest
    (transitionFindings automaton known served transition ++ later.1, later.2)

/-- A warning for every state and symbol that nothing serves, state by state. -/
def gaps (served : Served) (states : List StateId) (symbols : List Symbol) : List Finding :=
  states.flatMap fun state => symbols.flatMap fun symbol =>
    findIf (!served.contains ⟨state, symbol⟩) (.warning (.missingTransition state symbol))

/-- All findings in the order of discovery. -/
def findings (automaton : Automaton) : List Finding :=
  let known : Known := .ofList automaton.stateIds
  let audit := auditTransitions automaton known ∅ automaton.transitions
  findIf automaton.states.isEmpty (.error .noStates) ++
  findIf (!known.contains automaton.initial) (.error (.unknownInitialState automaton.initial)) ++
  (automaton.accepting.filter fun id => !known.contains id).map
    (fun id => .error (.unknownAcceptingState id)) ++
  findIf automaton.alphabet.isEmpty (.warning .emptyAlphabet) ++
  duplicates ∅ automaton.stateIds ++
  audit.1 ++
  gaps audit.2 automaton.stateIds.eraseDups automaton.alphabet.unique

end Validation

/-- Audits the automaton. -/
def Automaton.validate (automaton : Automaton) : Traced Validation.Event ValidationReport :=
  let findings := Validation.findings automaton
  let report := ValidationReport.ofFindings findings
  ⟨report, findings.map .found ++
    [.summary automaton.name report.errors.length report.warnings.length]⟩

end Acceptor
