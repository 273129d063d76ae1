import Acceptor.Definition.Import
import Acceptor.Proofs.Json.Members

/-! # What definitions mean

The automaton that a JSON value defines (`Tree.automaton?`), part by part: members under their
names, symbols as strings of one character, and what stands for the parts that may be left out. A
value defines an automaton exactly if it meets a condition that mentions no meaning
(`exists_automaton?_iff`), and values that differ in the order of members and in members that are
not known define the same one (`automaton?_congr`).
-/

namespace Acceptor.Json.Tree

/-- A string of one character as that character. -/
def symbol? : Tree → Option Symbol
  | .text [symbol] => some symbol
  | _ => none

def stateId? (tree : Tree) : Option StateId := tree.string?.map StateId.mk

def transitionId? (tree : Tree) : Option TransitionId := tree.string?.map TransitionId.mk

def alphabet? (tree : Tree) : Option Alphabet := (tree.list? symbol?).map Alphabet.mk

/-- The position that members describe, if they describe one. -/
def positionOf (entries : List Entry) : Option Position := do
  let x ← required "x" double? entries
  let y ← required "y" double? entries
  some ⟨x, y⟩

def position? (tree : Tree) : Option Position := tree.entries? ["x", "y"] >>= positionOf

def stateOf (entries : List Entry) : Option State := do
  let id ← required "id" stateId? entries
  let label ← givenOr "label" string? "" entries
  let position ← givenOr "position" position? ⟨0, 0⟩ entries
  some ⟨id, label, position⟩

def state? (tree : Tree) : Option State := tree.entries? ["id", "label", "position"] >>= stateOf

def transitionOf (entries : List Entry) : Option Transition := do
  let id ← required "id" transitionId? entries
  let source ← required "from" stateId? entries
  let target ← required "to" stateId? entries
  let symbol ← required "symbol" symbol? entries
  some ⟨id, source, symbol, target⟩

def transition? (tree : Tree) : Option Transition :=
  tree.entries? ["id", "from", "to", "symbol"] >>= transitionOf

def automatonOf (entries : List Entry) : Option Automaton := do
  let id ← required "id" string? entries
  let name ← required "name" string? entries
  let description ← givenOr "description" stringOrNull? none entries
  let alphabet ← required "alphabet" alphabet? entries
  let states ← required "states" (list? state?) entries
  let transitions ← required "transitions" (list? transition?) entries
  let initial ← required "initialStateId" stateId? entries
  let accepting ← givenOr "acceptingStateIds" (list? stateId?) [] entries
  some ⟨id, name, description, alphabet, states, transitions, initial, accepting⟩

/-- The automaton that a value defines, if it defines one. -/
def automaton? (tree : Tree) : Option Automaton :=
  tree.entries? ["id", "name", "description", "alphabet", "states", "transitions",
    "initialStateId", "acceptingStateIds"] >>= automatonOf

/-! ## Which values define something -/

section Conditions

variable (IsCoordinate : Tree → Prop)

def positionMembers : List Known := [⟨"x", true, IsCoordinate⟩, ⟨"y", true, IsCoordinate⟩]

def IsPosition : Tree → Prop := IsRecord (positionMembers IsCoordinate)

def stateMembers : List Known :=
  [⟨"id", true, IsText⟩, ⟨"label", false, IsText⟩, ⟨"position", false, IsPosition IsCoordinate⟩]

def IsState : Tree → Prop := IsRecord (stateMembers IsCoordinate)

def transitionMembers : List Known :=
  [⟨"id", true, IsText⟩, ⟨"from", true, IsText⟩, ⟨"to", true, IsText⟩,
    ⟨"symbol", true, IsOneCharacter⟩]

def IsTransition : Tree → Prop := IsRecord transitionMembers

/-- The members of a definition, each with the values that it may have. -/
def automatonMembers : List Known :=
  [⟨"id", true, IsText⟩, ⟨"name", true, IsText⟩, ⟨"description", false, IsTextOrNull⟩,
    ⟨"alphabet", true, IsListOf IsOneCharacter⟩, ⟨"states", true, IsListOf (IsState IsCoordinate)⟩,
    ⟨"transitions", true, IsListOf IsTransition⟩, ⟨"initialStateId", true, IsText⟩,
    ⟨"acceptingStateIds", false, IsListOf IsText⟩]

/-- A value with the members of a definition, if its coordinates are as they should be. -/
def IsAutomaton : Tree → Prop := IsRecord (automatonMembers IsCoordinate)

end Conditions

theorem exists_symbol?_iff (tree : Tree) :
    (∃ symbol, tree.symbol? = some symbol) ↔ tree.IsOneCharacter := by
  cases tree with
  | text characters =>
    rcases characters with _ | ⟨character, _ | ⟨another, characters⟩⟩ <;>
      simp [symbol?, IsOneCharacter]
  | _ => simp [symbol?, IsOneCharacter]

theorem exists_map_iff {α β : Type} {part : Option α} (convert : α → β) :
    (∃ value, part.map convert = some value) ↔ ∃ value, part = some value := by
  cases part <;> simp

theorem exists_stateId?_iff (tree : Tree) : (∃ id, tree.stateId? = some id) ↔ tree.IsText :=
  (exists_map_iff _).trans (exists_string?_iff tree)

theorem exists_transitionId?_iff (tree : Tree) :
    (∃ id, tree.transitionId? = some id) ↔ tree.IsText :=
  (exists_map_iff _).trans (exists_string?_iff tree)

theorem exists_alphabet?_iff (tree : Tree) :
    (∃ alphabet, tree.alphabet? = some alphabet) ↔ tree.IsListOf IsOneCharacter :=
  (exists_map_iff _).trans (exists_list?_iff exists_symbol?_iff tree)

/-- A part that has a meaning, and what is made of it. -/
theorem exists_bind_iff {α β : Type} {part : Option α} {next : α → Option β} {Fits : Prop}
    (later : ∀ value, (∃ result, next value = some result) ↔ Fits) :
    (∃ result, (part >>= next) = some result) ↔ (∃ value, part = some value) ∧ Fits := by
  cases part with
  | none => simp
  | some value => simpa using later value

theorem exists_some_iff {α : Type} (value : α) : (∃ result, some value = some result) ↔ True :=
  iff_true_intro ⟨value, rfl⟩

theorem exists_record_iff {α : Type} {members : List Known} {meaning : List Entry → Option α}
    (each : ∀ entries, (∃ value, meaning entries = some value) ↔
      ∀ known ∈ members, known.Met entries) (tree : Tree) :
    (∃ value, (tree.entries? (members.map Known.name) >>= meaning) = some value) ↔
      tree.IsRecord members := by
  rw [IsRecord]
  cases tree.entries? (members.map Known.name) with
  | none => simp
  | some entries => simpa using each entries

theorem exists_position?_iff (tree : Tree) :
    (∃ position, tree.position? = some position) ↔ tree.IsPosition IsDouble := by
  have each : ∀ entries, (∃ position, positionOf entries = some position) ↔
      ∀ known ∈ positionMembers IsDouble, known.Met entries := by
    intro entries
    refine (exists_bind_iff fun x => exists_bind_iff fun y => exists_some_iff _).trans ?_
    simp [exists_required_iff exists_double?_iff, positionMembers]
  exact exists_record_iff each tree

theorem exists_state?_iff (tree : Tree) :
    (∃ state, tree.state? = some state) ↔ tree.IsState IsDouble := by
  have each : ∀ entries, (∃ state, stateOf entries = some state) ↔
      ∀ known ∈ stateMembers IsDouble, known.Met entries := by
    intro entries
    refine (exists_bind_iff fun id => exists_bind_iff fun label => exists_bind_iff fun position =>
      exists_some_iff _).trans ?_
    simp [exists_required_iff exists_stateId?_iff, exists_givenOr_iff exists_string?_iff,
      exists_givenOr_iff exists_position?_iff, stateMembers]
  exact exists_record_iff each tree

theorem exists_transition?_iff (tree : Tree) :
    (∃ transition, tree.transition? = some transition) ↔ tree.IsTransition := by
  have each : ∀ entries, (∃ transition, transitionOf entries = some transition) ↔
      ∀ known ∈ transitionMembers, known.Met entries := by
    intro entries
    refine (exists_bind_iff fun id => exists_bind_iff fun source => exists_bind_iff fun target =>
      exists_bind_iff fun symbol => exists_some_iff _).trans ?_
    simp [exists_required_iff exists_transitionId?_iff, exists_required_iff exists_stateId?_iff,
      exists_required_iff exists_symbol?_iff, transitionMembers]
  exact exists_record_iff each tree

/-- A value defines an automaton if its members are as they should be. -/
theorem exists_automaton?_iff (tree : Tree) :
    (∃ automaton, tree.automaton? = some automaton) ↔ tree.IsAutomaton IsDouble := by
  have each : ∀ entries, (∃ automaton, automatonOf entries = some automaton) ↔
      ∀ known ∈ automatonMembers IsDouble, known.Met entries := by
    intro entries
    refine (exists_bind_iff fun id => exists_bind_iff fun name => exists_bind_iff fun description =>
      exists_bind_iff fun alphabet => exists_bind_iff fun states =>
      exists_bind_iff fun transitions => exists_bind_iff fun initial =>
      exists_bind_iff fun accepting => exists_some_iff _).trans ?_
    simp [exists_required_iff exists_string?_iff, exists_givenOr_iff exists_stringOrNull?_iff,
      exists_required_iff exists_alphabet?_iff,
      exists_required_iff (exists_list?_iff exists_state?_iff),
      exists_required_iff (exists_list?_iff exists_transition?_iff),
      exists_required_iff exists_stateId?_iff,
      exists_givenOr_iff (exists_list?_iff exists_stateId?_iff), automatonMembers]
  exact exists_record_iff each tree

/-! ## Which values define the same -/

def AlikePositions : Tree → Tree → Prop := AlikeRecords [⟨"x", Eq⟩, ⟨"y", Eq⟩]

def AlikeStates : Tree → Tree → Prop :=
  AlikeRecords [⟨"id", Eq⟩, ⟨"label", Eq⟩, ⟨"position", AlikePositions⟩]

def AlikeTransitions : Tree → Tree → Prop :=
  AlikeRecords [⟨"id", Eq⟩, ⟨"from", Eq⟩, ⟨"to", Eq⟩, ⟨"symbol", Eq⟩]

/-- The same up to the order of members, and up to members that are not known, in the automaton and
in all states, positions and transitions. -/
def AlikeAutomata : Tree → Tree → Prop :=
  AlikeRecords [⟨"id", Eq⟩, ⟨"name", Eq⟩, ⟨"description", Eq⟩, ⟨"alphabet", Eq⟩,
    ⟨"states", AlikeLists AlikeStates⟩, ⟨"transitions", AlikeLists AlikeTransitions⟩,
    ⟨"initialStateId", Eq⟩, ⟨"acceptingStateIds", Eq⟩]

theorem record_congr {α : Type} {members : List Compared} {meaning : List Entry → Option α}
    (each : ∀ {entries others}, SameMembers members entries others →
      meaning entries = meaning others) {tree other : Tree}
    (alike : AlikeRecords members tree other) :
    (tree.entries? (members.map Compared.name) >>= meaning) =
      (other.entries? (members.map Compared.name) >>= meaning) := by
  obtain rfl | ⟨entries, others, isRecord, otherIsRecord, same⟩ := alike
  · rfl
  · rw [isRecord, otherIsRecord]
    exact each same

theorem position?_congr (tree other : Tree) (alike : AlikePositions tree other) :
    tree.position? = other.position? := by
  refine record_congr (fun same => ?_) alike
  have x := required_eq_of_eq same "x" double? (by simp)
  have y := required_eq_of_eq same "y" double? (by simp)
  rw [positionOf, positionOf, x, y]

theorem state?_congr (tree other : Tree) (alike : AlikeStates tree other) :
    tree.state? = other.state? := by
  refine record_congr (fun same => ?_) alike
  have id := required_eq_of_eq same "id" stateId? (by simp)
  have label := givenOr_eq_of_eq same "label" string? "" (by simp)
  have position := givenOr_congr same ⟨"position", AlikePositions⟩ position? ⟨0, 0⟩ (by simp)
    position?_congr
  rw [stateOf, stateOf, id, label, position]

theorem transition?_congr (tree other : Tree) (alike : AlikeTransitions tree other) :
    tree.transition? = other.transition? := by
  refine record_congr (fun same => ?_) alike
  have id := required_eq_of_eq same "id" transitionId? (by simp)
  have source := required_eq_of_eq same "from" stateId? (by simp)
  have target := required_eq_of_eq same "to" stateId? (by simp)
  have symbol := required_eq_of_eq same "symbol" symbol? (by simp)
  rw [transitionOf, transitionOf, id, source, target, symbol]

/-- Neither the order of members nor what is not known matters. -/
theorem automaton?_congr {tree other : Tree} (alike : AlikeAutomata tree other) :
    tree.automaton? = other.automaton? := by
  refine record_congr (fun same => ?_) alike
  have id := required_eq_of_eq same "id" string? (by simp)
  have name := required_eq_of_eq same "name" string? (by simp)
  have description := givenOr_eq_of_eq same "description" stringOrNull? none (by simp)
  have alphabet := required_eq_of_eq same "alphabet" alphabet? (by simp)
  have states := required_congr same ⟨"states", AlikeLists AlikeStates⟩ (list? state?) (by simp)
    fun _ _ => list?_congr state?_congr
  have transitions := required_congr same ⟨"transitions", AlikeLists AlikeTransitions⟩
    (list? transition?) (by simp)
    fun _ _ => list?_congr transition?_congr
  have initial := required_eq_of_eq same "initialStateId" stateId? (by simp)
  have accepting := givenOr_eq_of_eq same "acceptingStateIds" (list? stateId?) [] (by simp)
  rw [automatonOf, automatonOf, id, name, description, alphabet, states, transitions, initial,
    accepting]

end Acceptor.Json.Tree
