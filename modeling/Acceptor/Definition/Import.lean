import Acceptor.Automaton.Basic
import Acceptor.Json.Reader

/-! # Reading definitions

The records that a definition consists of, with their fields in order and what stands for the
optional ones: no description, an empty label, the origin, no accepting states. Members that are
not listed here are ignored. What is read is not validated; a definition may well be malformed as an
automaton.
-/

namespace Acceptor.Definition

open Json

/-- A part of a draft that has to be there. -/
def need {α : Type} (name : String) : Option α → Except String α
  | some value => .ok value
  | none => .error name

/-- An identifier of a state. -/
def readStateId (text : List Char) : Except Failure (Reading StateId) := do
  let (id, rest) ← readString text
  .ok (⟨id⟩, rest)

def readTransitionId (text : List Char) : Except Failure (Reading TransitionId) := do
  let (id, rest) ← readString text
  .ok (⟨id⟩, rest)

/-- The one character of a text. -/
def symbolOf (text : String) : Except Cause Symbol :=
  match text.toList with
  | [symbol] => .ok symbol
  | characters => .error (.notOneSymbol characters)

/-- The symbols of texts of one character each; the first other text is the fault. -/
def symbolsOf : List String → Except Cause (List Symbol)
  | [] => .ok []
  | text :: rest => do
    let symbol ← symbolOf text
    let symbols ← symbolsOf rest
    .ok (symbol :: symbols)

/-- Judges what was read: a fault is one of the meaning. -/
def judge {α β : Type} (meaning : α → Except Cause β) : Reading α → Except Failure (Reading β)
  | (value, rest) =>
    match meaning value with
    | .ok value => .ok (value, rest)
    | .error cause => .error (.pending cause rest)

def readSymbol (text : List Char) : Except Failure (Reading Symbol) := do
  judge symbolOf (← readString text)

/-- The texts are read to the end of the list before the first of them is judged. -/
def readAlphabet (text : List Char) : Except Failure (Reading Alphabet) := do
  let (symbols, rest) ← judge symbolsOf (← readList readString text)
  .ok (⟨symbols⟩, rest)

/-! ## Positions -/

structure PositionDraft where
  x : Option Float
  y : Option Float

def positionRecord : Record PositionDraft Position where
  name := "Position"
  fields := [
    .ofReader "x" PositionDraft.x (fun draft x => { draft with x := some x }) readFloat,
    .ofReader "y" PositionDraft.y (fun draft y => { draft with y := some y }) readFloat]
  blank := ⟨none, none⟩
  finish draft := do
    let x ← need "x" draft.x
    let y ← need "y" draft.y
    .ok ⟨x, y⟩

/-! ## States -/

structure StateDraft where
  id : Option StateId
  label : Option String
  position : Option Position

def stateRecord : Record StateDraft State where
  name := "State"
  fields := [
    .ofReader "id" StateDraft.id (fun draft id => { draft with id := some id }) readStateId,
    .ofReader "label" StateDraft.label (fun draft label => { draft with label := some label })
      readString,
    .ofReader "position" StateDraft.position
      (fun draft position => { draft with position := some position }) positionRecord.read]
  blank := ⟨none, none, none⟩
  finish draft := do
    let id ← need "id" draft.id
    .ok ⟨id, draft.label.getD "", draft.position.getD .origin⟩

/-! ## Transitions -/

structure TransitionDraft where
  id : Option TransitionId
  source : Option StateId
  target : Option StateId
  symbol : Option Symbol

def transitionRecord : Record TransitionDraft Transition where
  name := "Transition"
  fields := [
    .ofReader "id" TransitionDraft.id (fun draft id => { draft with id := some id })
      readTransitionId,
    .ofReader "from" TransitionDraft.source
      (fun draft source => { draft with source := some source }) readStateId,
    .ofReader "to" TransitionDraft.target
      (fun draft target => { draft with target := some target }) readStateId,
    .ofReader "symbol" TransitionDraft.symbol
      (fun draft symbol => { draft with symbol := some symbol }) readSymbol]
  blank := ⟨none, none, none, none⟩
  finish draft := do
    let id ← need "id" draft.id
    let source ← need "from" draft.source
    let target ← need "to" draft.target
    let symbol ← need "symbol" draft.symbol
    .ok ⟨id, source, symbol, target⟩

/-! ## Automata -/

/-- A description may be given as `null`, which is not the same as not being given. -/
structure AutomatonDraft where
  id : Option String
  name : Option String
  description : Option (Option String)
  alphabet : Option Alphabet
  states : Option (List State)
  transitions : Option (List Transition)
  initial : Option StateId
  accepting : Option (List StateId)

def automatonRecord : Record AutomatonDraft Automaton where
  name := "Dfa"
  fields := [
    .ofReader "id" AutomatonDraft.id (fun draft id => { draft with id := some id }) readString,
    .ofReader "name" AutomatonDraft.name (fun draft name => { draft with name := some name })
      readString,
    .ofReader "description" AutomatonDraft.description
      (fun draft description => { draft with description := some description }) readStringOrNull,
    .ofReader "alphabet" AutomatonDraft.alphabet
      (fun draft alphabet => { draft with alphabet := some alphabet }) readAlphabet,
    .ofReader "states" AutomatonDraft.states
      (fun draft states => { draft with states := some states }) (readList stateRecord.read),
    .ofReader "transitions" AutomatonDraft.transitions
      (fun draft transitions => { draft with transitions := some transitions })
      (readList transitionRecord.read),
    .ofReader "initialStateId" AutomatonDraft.initial
      (fun draft initial => { draft with initial := some initial }) readStateId,
    .ofReader "acceptingStateIds" AutomatonDraft.accepting
      (fun draft accepting => { draft with accepting := some accepting }) (readList readStateId)]
  blank := ⟨none, none, none, none, none, none, none, none⟩
  finish draft := do
    let id ← need "id" draft.id
    let name ← need "name" draft.name
    let alphabet ← need "alphabet" draft.alphabet
    let states ← need "states" draft.states
    let transitions ← need "transitions" draft.transitions
    let initial ← need "initialStateId" draft.initial
    .ok ⟨id, name, draft.description.join, alphabet, states, transitions, initial,
      draft.accepting.getD []⟩

/-- An automaton and nothing behind it but blanks. -/
def readWhole (text : List Char) : Except Failure Automaton := do
  let (automaton, rest) ← automatonRecord.read text
  match skipBlanks rest with
  | [] => .ok automaton
  | rest => .error (.next .trailingCharacters rest)

/-- Why a text is no definition, and where. -/
structure DecodeError where
  cause : Cause
  location : Location

namespace DecodeError

def message (error : DecodeError) : String :=
  let line := error.location.line
  let column := error.location.column
  "could not decode automaton definition: " ++ error.cause.message ++
    s!" at line {line} column {column}"

end DecodeError

end Acceptor.Definition

namespace Acceptor

/-- The automaton that a text defines. -/
def Automaton.ofJson (text : String) : Except Definition.DecodeError Automaton :=
  let characters := text.toList
  match Definition.readWhole characters with
  | .ok automaton => .ok automaton
  | .error failure => .error ⟨failure.cause, failure.place.location characters⟩

end Acceptor
