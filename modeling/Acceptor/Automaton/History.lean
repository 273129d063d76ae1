import Acceptor.Automaton.Edit

/-! # Histories of edits

Edits as data, applied one after another to an automaton that is worked on together with the source
of its transition identifiers. Only adding a transition draws from the source.
-/

namespace Acceptor

/-- An automaton being edited. -/
structure Workspace where
  automaton : Automaton
  tokens : TokenSource

/-- One change. -/
inductive Edit
  | addState (label : Option String) (position : Position)
  | removeState (id : StateId)
  | addTransition (source : StateId) (symbol : Symbol) (target : StateId)
  | removeTransition (id : TransitionId)
  | setAccepting (id : StateId) (accepting : Bool)
  | setInitial (id : StateId)

namespace Edit

/-- What a change has to tell. -/
inductive Answer
  | stateAdded (id : StateId)
  | stateRemoved (state : Option State)
  | transitionAdded (id : TransitionId)
  | transitionRemoved (transition : Option Transition)
  | done

/-- Makes one change. -/
def apply (workspace : Workspace) : Edit → Answer × Workspace
  | addState label position =>
    let added := workspace.automaton.addState label position
    (.stateAdded added.1, { workspace with automaton := added.2 })
  | removeState id =>
    let removed := workspace.automaton.removeState id
    (.stateRemoved removed.1, { workspace with automaton := removed.2 })
  | addTransition source symbol target =>
    let added := workspace.automaton.addTransition source symbol target workspace.tokens
    (.transitionAdded added.1, ⟨added.2.1, added.2.2⟩)
  | removeTransition id =>
    let removed := workspace.automaton.removeTransition id
    (.transitionRemoved removed.1, { workspace with automaton := removed.2 })
  | setAccepting id accepting =>
    (.done, { workspace with automaton := workspace.automaton.setAccepting id accepting })
  | setInitial id => (.done, { workspace with automaton := workspace.automaton.setInitial id })

end Edit

/-- The workspace after a history of changes, oldest first. -/
def Workspace.after (workspace : Workspace) (history : List Edit) : Workspace :=
  history.foldl (fun current edit => (edit.apply current).2) workspace

/-- What the changes of a history answer, one after another. -/
def Workspace.answers (workspace : Workspace) : List Edit → List Edit.Answer
  | [] => []
  | edit :: rest =>
    let made := edit.apply workspace
    made.1 :: made.2.answers rest

theorem Workspace.after_append (workspace : Workspace) (first second : List Edit) :
    workspace.after (first ++ second) = (workspace.after first).after second :=
  List.foldl_append ..

end Acceptor
