import Acceptor.Definition.Export
import Acceptor.Proofs.Definition.Decoding
import Acceptor.Proofs.Json.Rendering

/-! # Definitions are read back as they were written

What an automaton is written as means that automaton, part by part, as long as its coordinates are
read back from their texts. A coordinate that is not finite is written as `null`, which means no
coordinate, so a definition with one is refused.
-/

namespace Acceptor

open Json

/-- The text of the number is read as the number. -/
def ReadsBack (value : Float) : Prop := readFloat (numberText value) = .ok (value, [])

theorem readsBack_iff {value : Float} :
    ReadsBack value ↔ (numberTree value).double? = some value := by
  have read := reads_readFloat.here (spells_numberText value) atBoundary_nil
  rw [List.append_nil] at read
  constructor
  · intro back
    rw [back] at read
    obtain ⟨value', meant, equal⟩ := Option.map_eq_some_iff.mp read.symm
    cases equal
    exact meant
  · intro meant
    rw [meant] at read
    rw [ReadsBack]
    cases result : readFloat (numberText value) with
    | error failure =>
      rw [result] at read
      cases read
    | ok reading =>
      rw [result] at read
      cases read
      rfl

instance (value : Float) : Decidable (ReadsBack value) := decidable_of_iff _ readsBack_iff.symm

theorem double?_of_not_finite {value : Float} (infinite : value.isFinite = false) :
    (numberTree value).double? = none := by
  rw [numberTree, Decimal.floatText?_eq_none infinite]
  rfl

theorem string?_text (text : String) : (Value.text text).tree.string? = some text := by
  rw [Value.tree, Tree.string?, Tree.text?, Option.map_some, String.ofList_toList]

theorem symbol?_symbolValue (symbol : Symbol) :
    (symbolValue symbol).tree.symbol? = some symbol := by
  rw [symbolValue, Value.tree, Char.toString_eq_singleton, String.toList_singleton]
  rfl

theorem list?_map {α β : Type} (write : α → Value) (meaning : Tree → Option β) (items : List α) :
    (Value.list (items.map write)).tree.list? meaning =
      items.mapM fun item => meaning (write item).tree := by
  rw [Value.tree, Value.itemTrees_eq, List.map_map]
  change (items.map _).mapM meaning = _
  rw [List.mapM_map]
  rfl

theorem position?_toValue (position : Position) :
    position.toValue.tree.position? =
      (numberTree position.x).double?.bind fun x =>
        (numberTree position.y).double?.map fun y => ⟨x, y⟩ := by
  let entries : List Entry :=
    [("x".toList, numberTree position.x), ("y".toList, numberTree position.y)]
  change Tree.positionOf entries = _
  have x : required "x" Tree.double? entries = _ := required_of_single _ rfl
  have y : required "y" Tree.double? entries = _ := required_of_single _ rfl
  rw [Tree.positionOf, x, y]
  cases (numberTree position.x).double? with
  | none => rfl
  | some x => cases (numberTree position.y).double? <;> rfl

theorem state?_toValue (state : State) :
    state.toValue.tree.state? =
      state.position.toValue.tree.position?.map fun position =>
        ⟨state.id, state.label, position⟩ := by
  let entries : List Entry :=
    [("id".toList, (Value.text state.id.text).tree),
      ("label".toList, (Value.text state.label).tree),
      ("position".toList, state.position.toValue.tree)]
  change Tree.stateOf entries = _
  have id : required "id" Tree.stateId? entries = _ := required_of_single _ rfl
  have label : givenOr "label" Tree.string? "" entries = _ := givenOr_of_single _ _ rfl
  have position : givenOr "position" Tree.position? ⟨0, 0⟩ entries = _ :=
    givenOr_of_single _ _ rfl
  rw [Tree.stateOf, id, label, position, Tree.stateId?, string?_text, string?_text]
  cases state.position.toValue.tree.position? <;> rfl

theorem transition?_toValue (transition : Transition) :
    transition.toValue.tree.transition? = some transition := by
  let entries : List Entry :=
    [("id".toList, (Value.text transition.id.text).tree),
      ("from".toList, (Value.text transition.source.text).tree),
      ("to".toList, (Value.text transition.target.text).tree),
      ("symbol".toList, (symbolValue transition.symbol).tree)]
  change Tree.transitionOf entries = _
  have id : required "id" Tree.transitionId? entries = _ := required_of_single _ rfl
  have source : required "from" Tree.stateId? entries = _ := required_of_single _ rfl
  have target : required "to" Tree.stateId? entries = _ := required_of_single _ rfl
  have symbol : required "symbol" Tree.symbol? entries = _ := required_of_single _ rfl
  rw [Tree.transitionOf, id, source, target, symbol, Tree.transitionId?, Tree.stateId?,
    Tree.stateId?, string?_text, string?_text, string?_text, symbol?_symbolValue]
  rfl

/-! ## Lists -/

theorem mapM_eq_some {α : Type} {read : α → Option α} {items : List α}
    (each : ∀ item ∈ items, read item = some item) : items.mapM read = some items := by
  induction items with
  | nil => rfl
  | cons item items ih =>
    obtain ⟨here, later⟩ := List.forall_mem_cons.mp each
    rw [List.mapM_cons, here, ih later]
    rfl

theorem mapM_eq_none {α β : Type} {read : α → Option β} {items : List α} {item : α}
    (listed : item ∈ items) (fails : read item = none) : items.mapM read = none := by
  induction items with
  | nil => cases listed
  | cons first items ih =>
    rw [List.mapM_cons]
    rcases List.mem_cons.mp listed with rfl | later
    · rw [fails]
      rfl
    · rw [ih later]
      cases read first <;> rfl

/-! ## Automata -/

/-- The members that an automaton is written with. -/
def Automaton.entries (automaton : Automaton) : List Entry :=
  [("id".toList, (Value.text automaton.id).tree),
      ("name".toList, (Value.text automaton.name).tree)] ++
    (automaton.description.map fun text => ("description".toList, (Value.text text).tree)).toList ++
    [("alphabet".toList, (Value.list (automaton.alphabet.symbols.map symbolValue)).tree),
      ("states".toList, (Value.list (automaton.states.map State.toValue)).tree),
      ("transitions".toList, (Value.list (automaton.transitions.map Transition.toValue)).tree),
      ("initialStateId".toList, (Value.text automaton.initial.text).tree),
      ("acceptingStateIds".toList,
        (Value.list (automaton.accepting.map fun id => .text id.text)).tree)]

theorem tree_toValue (automaton : Automaton) :
    automaton.toValue.tree = .object automaton.entries := by
  obtain ⟨_, _, description, _, _, _, _, _⟩ := automaton
  cases description <;> rfl

theorem list?_ids (ids : List StateId) :
    (Value.list (ids.map fun id => .text id.text)).tree.list? Tree.stateId? = some ids := by
  rw [list?_map]
  apply mapM_eq_some
  intro id _
  rw [Tree.stateId?, string?_text]
  rfl

theorem alphabet?_symbols (alphabet : Alphabet) :
    (Value.list (alphabet.symbols.map symbolValue)).tree.alphabet? = some alphabet := by
  rw [Tree.alphabet?, list?_map, mapM_eq_some fun symbol _ => symbol?_symbolValue symbol]
  rfl

/-- What an automaton is written as means the automaton, if its states mean what they are. -/
theorem automaton?_toValue (automaton : Automaton) :
    automaton.toValue.tree.automaton? =
      (automaton.states.mapM fun state : State => state.toValue.tree.state?).map fun states =>
        { automaton with states } := by
  rw [tree_toValue]
  obtain ⟨id, name, description, alphabet, states, transitions, initial, accepting⟩ := automaton
  let entries := Automaton.entries
    ⟨id, name, description, alphabet, states, transitions, initial, accepting⟩
  change Tree.automatonOf entries = _
  have isId : valuesOf "id" entries = [(Value.text id).tree] := by cases description <;> rfl
  have isName : valuesOf "name" entries = [(Value.text name).tree] := by
    cases description <;> rfl
  have isDescription : givenOr "description" Tree.stringOrNull? none entries =
      some description := by
    cases description with
    | none => exact givenOr_of_none _ _ rfl
    | some text =>
      rw [givenOr_of_single _ _ (show valuesOf "description" entries = [(Value.text text).tree]
        from rfl)]
      exact congrArg (Option.map some) (string?_text text)
  have isAlphabet : valuesOf "alphabet" entries =
      [(Value.list (alphabet.symbols.map symbolValue)).tree] := by cases description <;> rfl
  have areStates : valuesOf "states" entries = [(Value.list (states.map State.toValue)).tree] := by
    cases description <;> rfl
  have areTransitions : valuesOf "transitions" entries =
      [(Value.list (transitions.map Transition.toValue)).tree] := by cases description <;> rfl
  have isInitial : valuesOf "initialStateId" entries = [(Value.text initial.text).tree] := by
    cases description <;> rfl
  have isAccepting : valuesOf "acceptingStateIds" entries =
      [(Value.list (accepting.map fun id => .text id.text)).tree] := by cases description <;> rfl
  rw [Tree.automatonOf, required_of_single _ isId, required_of_single _ isName, isDescription,
    required_of_single _ isAlphabet, required_of_single _ areStates,
    required_of_single _ areTransitions, required_of_single _ isInitial,
    givenOr_of_single _ _ isAccepting, string?_text, string?_text, alphabet?_symbols, list?_map,
    list?_map, mapM_eq_some fun transition _ => transition?_toValue transition, Tree.stateId?,
    string?_text, list?_ids]
  cases states.mapM fun state : State => state.toValue.tree.state? <;> rfl

/-! ## The round trip -/

theorem state?_eq_some {state : State} (backX : ReadsBack state.position.x)
    (backY : ReadsBack state.position.y) : state.toValue.tree.state? = some state := by
  rw [state?_toValue, position?_toValue, readsBack_iff.mp backX, readsBack_iff.mp backY]
  rfl

theorem state?_eq_none {state : State}
    (infinite : state.position.x.isFinite = false ∨ state.position.y.isFinite = false) :
    state.toValue.tree.state? = none := by
  rw [state?_toValue, position?_toValue]
  rcases infinite with infinite | infinite
  · rw [double?_of_not_finite infinite]
    rfl
  · rw [double?_of_not_finite infinite]
    cases (numberTree state.position.x).double? <;> rfl

theorem isDocument_toJson (automaton : Automaton) :
    IsDocument automaton.toJson.toList automaton.toValue.tree := by
  rw [Automaton.toJson, String.toList_ofList]
  exact automaton.toValue.isDocument_render

/-- Every automaton is written as a JSON document. If its coordinates are read back from their
texts, the document defines the same automaton in all its parts; if one of them is not finite, it
defines none. -/
theorem ofJson_toJson (automaton : Automaton) :
    (∃ tree, IsDocument automaton.toJson.toList tree) ∧
    ((∀ state ∈ automaton.states, ReadsBack state.position.x ∧ ReadsBack state.position.y) →
      Automaton.ofJson automaton.toJson = .ok automaton) ∧
    ((∃ state ∈ automaton.states,
        state.position.x.isFinite = false ∨ state.position.y.isFinite = false) →
      ∃ error, Automaton.ofJson automaton.toJson = .error error) := by
  have document := isDocument_toJson automaton
  have decoded := Definition.ofJson_eq_ok_iff document
  refine ⟨⟨_, document⟩, fun back => ?_, fun ⟨state, listed, infinite⟩ => ?_⟩
  · rw [decoded, automaton?_toValue, mapM_eq_some fun state listed =>
      state?_eq_some (back state listed).1 (back state listed).2]
    rfl
  · cases read : Automaton.ofJson automaton.toJson with
    | error error => exact ⟨error, rfl⟩
    | ok other =>
      have defined := (decoded other).mp read
      rw [automaton?_toValue, mapM_eq_none listed (state?_eq_none infinite)] at defined
      cases defined

/-- States with places and without, listed twice and not at all. -/
def drawnAutomaton : Automaton where
  id := ""
  name := "\"quoted\" \\ \u0001 😀"
  description := some "line\nbreak"
  alphabet := ⟨['"', '\n', '"']⟩
  states := [⟨⟨"q0"⟩, "start", ⟨100, -2.5⟩⟩, ⟨⟨"q0"⟩, "", ⟨0, 1e300⟩⟩]
  transitions := [⟨⟨"t"⟩, ⟨"q0"⟩, '\t', ⟨"nowhere"⟩⟩]
  initial := ⟨"q0"⟩
  accepting := []

/-- A state without a place. -/
def displacedAutomaton : Automaton :=
  { drawnAutomaton with states := [⟨⟨"q0"⟩, "start", ⟨0, 1 / 0⟩⟩] }

theorem ofJson_toJson_drawn :
    (∀ state ∈ drawnAutomaton.states, ReadsBack state.position.x ∧ ReadsBack state.position.y) ∧
    Automaton.ofJson drawnAutomaton.toJson = .ok drawnAutomaton ∧
    ∃ error, Automaton.ofJson displacedAutomaton.toJson = .error error := by
  have back : ∀ state ∈ drawnAutomaton.states,
      ReadsBack state.position.x ∧ ReadsBack state.position.y := by decide +kernel
  have infinite : ∃ state ∈ displacedAutomaton.states,
      state.position.x.isFinite = false ∨ state.position.y.isFinite = false := by decide +kernel
  exact ⟨back, (ofJson_toJson drawnAutomaton).2.1 back,
    (ofJson_toJson displacedAutomaton).2.2 infinite⟩

end Acceptor
