import Acceptor.Proofs.Definition.Meaning
import Acceptor.Proofs.Json.Records

/-! # Definitions are read as what they mean

Every record of a definition is read right: positions, states, transitions and automata, each with
its fields kept apart in its draft.
-/

namespace Acceptor.Definition

open Json

/-! ## Identifiers and symbols -/

theorem reads_readStateId : Reads readStateId Tree.stateId? := reads_readString.map StateId.mk

theorem reads_readTransitionId : Reads readTransitionId Tree.transitionId? :=
  reads_readString.map TransitionId.mk

/-- What is read and then judged. -/
theorem reads_judge {α β : Type} {reader : Reader α} {meaning : Tree → Option α}
    (reads : Reads reader meaning) (verdict : α → Except Cause β) :
    Reads (fun text => do judge verdict (← reader text))
      fun tree => (meaning tree).bind fun value => (verdict value).toOption := by
  intro blanks text tree rest spelled boundary
  rw [toOption_bind, reads blanks spelled boundary]
  dsimp only
  cases meaning tree with
  | none => rfl
  | some value =>
    simp only [Option.map_some, Option.bind_some, judge]
    cases verdict value <;> rfl

theorem symbolOf_string? (tree : Tree) :
    (tree.string?.bind fun text => (symbolOf text).toOption) = tree.symbol? := by
  cases tree with
  | text characters =>
    rw [Tree.string?, Tree.text?, Option.map_some, Option.bind_some, symbolOf,
      String.toList_ofList]
    rcases characters with _ | ⟨character, _ | ⟨another, characters⟩⟩ <;> rfl
  | _ => rfl

theorem reads_readSymbol : Reads readSymbol Tree.symbol? := by
  rw [← funext symbolOf_string?]
  exact reads_judge reads_readString symbolOf

theorem symbolsOf_list? (tree : Tree) :
    ((tree.list? Tree.string?).bind fun texts => (symbolsOf texts).toOption) =
      tree.list? Tree.symbol? := by
  cases tree with
  | list items =>
    change ((items.mapM Tree.string?).bind _) = items.mapM Tree.symbol?
    induction items with
    | nil => rfl
    | cons item items ih =>
      rw [List.mapM_cons, List.mapM_cons, ← ih, ← symbolOf_string?]
      cases item.string? with
      | none => rfl
      | some text =>
        cases items.mapM Tree.string? with
        | none =>
          change none = (symbolOf text).toOption.bind fun _ => none
          cases (symbolOf text).toOption <;> rfl
        | some texts =>
          change (symbolsOf (text :: texts)).toOption =
            (symbolOf text).toOption.bind fun symbol =>
              ((symbolsOf texts).toOption.bind fun symbols => some (symbol :: symbols))
          rw [symbolsOf]
          cases symbolOf text <;> cases symbolsOf texts <;> rfl
  | _ => rfl

theorem reads_readAlphabet : Reads readAlphabet Tree.alphabet? := by
  have symbols := reads_judge (reads_readList reads_readString) symbolsOf
  rw [funext symbolsOf_list?] at symbols
  have inSteps : readAlphabet = fun text =>
      (readList readString text >>= judge symbolsOf) >>= fun read => .ok (⟨read.1⟩, read.2) := by
    funext text
    rw [readAlphabet]
    cases readList readString text <;> rfl
  rw [inSteps]
  exact symbols.map Alphabet.mk

/-! ## Records -/

theorem bind_need {α β : Type} {name : String} {part : Option α} {next : α → Except String β}
    {value : β} : (need name part >>= next) = .ok value ↔
      ∃ there, part = some there ∧ next there = .ok value := by
  cases part with
  | none => simp [need, bind, Except.bind]
  | some there => simp [need, bind, Except.bind]

/-- What a record means is what its members describe. -/
theorem meaning?_eq {δ α : Type} {record : Record δ α} {slots : List (Slot δ)}
    (laid : record.LaidOut slots) {describe : List Entry → Option α}
    (same : ∀ entries value, describe entries = some value ↔
      ∃ draft, (∀ slot ∈ slots, given slot.name slot.meaning entries = some (slot.part draft)) ∧
        record.finish draft = .ok value) :
    record.meaning? slots = fun tree => tree.entries? (slots.map Slot.name) >>= describe := by
  funext tree
  rw [Record.meaning?]
  cases tree.entries? (slots.map Slot.name) with
  | none => rfl
  | some entries =>
    apply Option.ext
    intro value
    change ((entries.foldlM (enter slots) record.blank).bind fun draft =>
      (record.finish draft).toOption) = some value ↔ describe entries = some value
    rw [same, Option.bind_eq_some_iff]
    refine exists_congr fun draft => and_congr (foldlM_enter_blank_eq_some_iff laid) ?_
    cases record.finish draft <;> simp

/-! ### Positions -/

def positionSlots : List (Slot PositionDraft) := [
  ⟨"x", PositionDraft.x, fun draft x => { draft with x := some x }, readFloat, Tree.double?,
    fun _ _ => rfl, reads_readFloat⟩,
  ⟨"y", PositionDraft.y, fun draft y => { draft with y := some y }, readFloat, Tree.double?,
    fun _ _ => rfl, reads_readFloat⟩]

theorem positionRecord_laidOut : positionRecord.LaidOut positionSlots where
  fields := rfl
  apart := by
    simp only [positionSlots, List.pairwise_cons, List.forall_mem_cons, List.not_mem_nil,
      false_imp_iff, implies_true, List.Pairwise.nil, and_true]
    exact ⟨by decide, fun _ _ => rfl, fun _ _ => rfl⟩
  blank := by simp [positionSlots, positionRecord]
  ext := by
    rintro ⟨x, y⟩ ⟨x', y'⟩ same
    simpa [positionSlots] using same

theorem positionOf_eq_some_iff (entries : List Entry) (position : Position) :
    Tree.positionOf entries = some position ↔
      ∃ draft, (∀ slot ∈ positionSlots,
          given slot.name slot.meaning entries = some (slot.part draft)) ∧
        positionRecord.finish draft = .ok position := by
  constructor
  · intro described
    simp only [Tree.positionOf, Option.bind_eq_bind, Option.bind_eq_some_iff,
      required_eq_some_iff] at described
    obtain ⟨x, isX, y, isY, equal⟩ := described
    cases equal
    exact ⟨⟨some x, some y⟩, by simp [positionSlots, isX, isY], rfl⟩
  · rintro ⟨⟨x, y⟩, parts, finished⟩
    obtain ⟨x, rfl, finished⟩ := bind_need.mp finished
    obtain ⟨y, rfl, finished⟩ := bind_need.mp finished
    cases finished
    simp only [positionSlots, List.forall_mem_cons] at parts
    simp [Tree.positionOf, required, parts]

theorem reads_position : Reads positionRecord.read Tree.position? := by
  have reads := reads_record positionRecord_laidOut
  rwa [meaning?_eq positionRecord_laidOut positionOf_eq_some_iff] at reads

/-! ### States -/

def stateSlots : List (Slot StateDraft) := [
  ⟨"id", StateDraft.id, fun draft id => { draft with id := some id }, readStateId, Tree.stateId?,
    fun _ _ => rfl, reads_readStateId⟩,
  ⟨"label", StateDraft.label, fun draft label => { draft with label := some label }, readString,
    Tree.string?, fun _ _ => rfl, reads_readString⟩,
  ⟨"position", StateDraft.position,
    fun draft position => { draft with position := some position }, positionRecord.read,
    Tree.position?, fun _ _ => rfl, reads_position⟩]

theorem stateRecord_laidOut : stateRecord.LaidOut stateSlots where
  fields := rfl
  apart := by
    simp only [stateSlots, List.pairwise_cons, List.forall_mem_cons, List.not_mem_nil,
      false_imp_iff, implies_true, List.Pairwise.nil, and_true]
    and_intros
    all_goals exact ⟨by decide, fun _ _ => rfl, fun _ _ => rfl⟩
  blank := by simp [stateSlots, stateRecord]
  ext := by
    rintro ⟨id, label, position⟩ ⟨id', label', position'⟩ same
    simpa [stateSlots] using same

theorem stateOf_eq_some_iff (entries : List Entry) (state : State) :
    Tree.stateOf entries = some state ↔
      ∃ draft, (∀ slot ∈ stateSlots,
          given slot.name slot.meaning entries = some (slot.part draft)) ∧
        stateRecord.finish draft = .ok state := by
  constructor
  · intro described
    simp only [Tree.stateOf, Option.bind_eq_bind, Option.bind_eq_some_iff, required_eq_some_iff,
      givenOr_eq_some_iff] at described
    obtain ⟨id, isId, _, ⟨label, isLabel, rfl⟩, _, ⟨position, isPosition, rfl⟩, equal⟩ := described
    cases equal
    exact ⟨⟨some id, label, position⟩, by simp [stateSlots, isId, isLabel, isPosition], rfl⟩
  · rintro ⟨⟨id, label, position⟩, parts, finished⟩
    obtain ⟨id, rfl, finished⟩ := bind_need.mp finished
    cases finished
    simp only [stateSlots, List.forall_mem_cons] at parts
    simp [Tree.stateOf, required, givenOr, parts, Position.origin]

theorem reads_state : Reads stateRecord.read Tree.state? := by
  have reads := reads_record stateRecord_laidOut
  rwa [meaning?_eq stateRecord_laidOut stateOf_eq_some_iff] at reads

/-! ### Transitions -/

def transitionSlots : List (Slot TransitionDraft) := [
  ⟨"id", TransitionDraft.id, fun draft id => { draft with id := some id }, readTransitionId,
    Tree.transitionId?, fun _ _ => rfl, reads_readTransitionId⟩,
  ⟨"from", TransitionDraft.source, fun draft source => { draft with source := some source },
    readStateId, Tree.stateId?, fun _ _ => rfl, reads_readStateId⟩,
  ⟨"to", TransitionDraft.target, fun draft target => { draft with target := some target },
    readStateId, Tree.stateId?, fun _ _ => rfl, reads_readStateId⟩,
  ⟨"symbol", TransitionDraft.symbol, fun draft symbol => { draft with symbol := some symbol },
    readSymbol, Tree.symbol?, fun _ _ => rfl, reads_readSymbol⟩]

theorem transitionRecord_laidOut : transitionRecord.LaidOut transitionSlots where
  fields := rfl
  apart := by
    simp only [transitionSlots, List.pairwise_cons, List.forall_mem_cons, List.not_mem_nil,
      false_imp_iff, implies_true, List.Pairwise.nil, and_true]
    and_intros
    all_goals exact ⟨by decide, fun _ _ => rfl, fun _ _ => rfl⟩
  blank := by simp [transitionSlots, transitionRecord]
  ext := by
    rintro ⟨id, source, target, symbol⟩ ⟨id', source', target', symbol'⟩ same
    simpa [transitionSlots] using same

theorem transitionOf_eq_some_iff (entries : List Entry) (transition : Transition) :
    Tree.transitionOf entries = some transition ↔
      ∃ draft, (∀ slot ∈ transitionSlots,
          given slot.name slot.meaning entries = some (slot.part draft)) ∧
        transitionRecord.finish draft = .ok transition := by
  constructor
  · intro described
    simp only [Tree.transitionOf, Option.bind_eq_bind, Option.bind_eq_some_iff,
      required_eq_some_iff] at described
    obtain ⟨id, isId, source, isSource, target, isTarget, symbol, isSymbol, equal⟩ := described
    cases equal
    exact ⟨⟨some id, some source, some target, some symbol⟩,
      by simp [transitionSlots, isId, isSource, isTarget, isSymbol], rfl⟩
  · rintro ⟨⟨id, source, target, symbol⟩, parts, finished⟩
    obtain ⟨id, rfl, finished⟩ := bind_need.mp finished
    obtain ⟨source, rfl, finished⟩ := bind_need.mp finished
    obtain ⟨target, rfl, finished⟩ := bind_need.mp finished
    obtain ⟨symbol, rfl, finished⟩ := bind_need.mp finished
    cases finished
    simp only [transitionSlots, List.forall_mem_cons] at parts
    simp [Tree.transitionOf, required, parts]

theorem reads_transition : Reads transitionRecord.read Tree.transition? := by
  have reads := reads_record transitionRecord_laidOut
  rwa [meaning?_eq transitionRecord_laidOut transitionOf_eq_some_iff] at reads

/-! ### Automata -/

def automatonSlots : List (Slot AutomatonDraft) := [
  ⟨"id", AutomatonDraft.id, fun draft id => { draft with id := some id }, readString,
    Tree.string?, fun _ _ => rfl, reads_readString⟩,
  ⟨"name", AutomatonDraft.name, fun draft name => { draft with name := some name }, readString,
    Tree.string?, fun _ _ => rfl, reads_readString⟩,
  ⟨"description", AutomatonDraft.description,
    fun draft description => { draft with description := some description }, readStringOrNull,
    Tree.stringOrNull?, fun _ _ => rfl, reads_readStringOrNull⟩,
  ⟨"alphabet", AutomatonDraft.alphabet,
    fun draft alphabet => { draft with alphabet := some alphabet }, readAlphabet,
    Tree.alphabet?, fun _ _ => rfl, reads_readAlphabet⟩,
  ⟨"states", AutomatonDraft.states, fun draft states => { draft with states := some states },
    readList stateRecord.read, Tree.list? Tree.state?, fun _ _ => rfl, reads_readList reads_state⟩,
  ⟨"transitions", AutomatonDraft.transitions,
    fun draft transitions => { draft with transitions := some transitions },
    readList transitionRecord.read, Tree.list? Tree.transition?, fun _ _ => rfl,
    reads_readList reads_transition⟩,
  ⟨"initialStateId", AutomatonDraft.initial,
    fun draft initial => { draft with initial := some initial }, readStateId, Tree.stateId?,
    fun _ _ => rfl, reads_readStateId⟩,
  ⟨"acceptingStateIds", AutomatonDraft.accepting,
    fun draft accepting => { draft with accepting := some accepting }, readList readStateId,
    Tree.list? Tree.stateId?, fun _ _ => rfl, reads_readList reads_readStateId⟩]

theorem automatonRecord_laidOut : automatonRecord.LaidOut automatonSlots where
  fields := rfl
  apart := by
    simp only [automatonSlots, List.pairwise_cons, List.forall_mem_cons, List.not_mem_nil,
      false_imp_iff, implies_true, List.Pairwise.nil, and_true]
    and_intros
    all_goals exact ⟨by decide, fun _ _ => rfl, fun _ _ => rfl⟩
  blank := by simp [automatonSlots, automatonRecord]
  ext := by
    intro draft draft' same
    cases draft
    cases draft'
    simpa [automatonSlots] using same

theorem automatonOf_eq_some_iff (entries : List Entry) (automaton : Automaton) :
    Tree.automatonOf entries = some automaton ↔
      ∃ draft, (∀ slot ∈ automatonSlots,
          given slot.name slot.meaning entries = some (slot.part draft)) ∧
        automatonRecord.finish draft = .ok automaton := by
  constructor
  · intro described
    simp only [Tree.automatonOf, Option.bind_eq_bind, Option.bind_eq_some_iff,
      required_eq_some_iff, givenOr_eq_some_iff] at described
    obtain ⟨id, isId, name, isName, _, ⟨description, isDescription, rfl⟩, alphabet, isAlphabet,
      states, areStates, transitions, areTransitions, initial, isInitial, _,
      ⟨accepting, isAccepting, rfl⟩, equal⟩ := described
    cases equal
    refine ⟨⟨some id, some name, description, some alphabet, some states, some transitions,
      some initial, accepting⟩, ?_, ?_⟩
    · simp [automatonSlots, isId, isName, isDescription, isAlphabet, areStates, areTransitions,
        isInitial, isAccepting]
    · cases description <;> rfl
  · rintro ⟨⟨id, name, description, alphabet, states, transitions, initial, accepting⟩, parts,
      finished⟩
    obtain ⟨id, rfl, finished⟩ := bind_need.mp finished
    obtain ⟨name, rfl, finished⟩ := bind_need.mp finished
    obtain ⟨alphabet, rfl, finished⟩ := bind_need.mp finished
    obtain ⟨states, rfl, finished⟩ := bind_need.mp finished
    obtain ⟨transitions, rfl, finished⟩ := bind_need.mp finished
    obtain ⟨initial, rfl, finished⟩ := bind_need.mp finished
    cases finished
    simp only [automatonSlots, List.forall_mem_cons] at parts
    cases description <;> simp [Tree.automatonOf, required, givenOr, parts]

theorem reads_automaton : Reads automatonRecord.read Tree.automaton? := by
  have reads := reads_record automatonRecord_laidOut
  rwa [meaning?_eq automatonRecord_laidOut automatonOf_eq_some_iff] at reads

/-! ## The whole text -/

theorem readWhole_of_isDocument {text : List Char} {tree : Tree} (document : IsDocument text tree) :
    (readWhole text).toOption = tree.automaton? := by
  obtain ⟨before, after, inside, rfl, spelled⟩ := document
  have boundary : AtBoundary (after.val ++ []) := AtBoundary.blanks_append after atBoundary_nil
  have read := reads_automaton before spelled boundary
  have nothing : skipBlanks (after.val ++ []) = [] := skipBlanks_blanks after []
  rw [List.append_nil] at read nothing
  rw [List.append_assoc, readWhole, toOption_bind, read]
  cases tree.automaton? with
  | none => rfl
  | some automaton =>
    simp only [Option.map_some, Option.bind_some, nothing]
    rfl

theorem ofJson_eq_ok_iff {text : String} {tree : Tree} (document : IsDocument text.toList tree)
    (automaton : Automaton) :
    Automaton.ofJson text = .ok automaton ↔ tree.automaton? = some automaton := by
  rw [← readWhole_of_isDocument document, Automaton.ofJson]
  cases readWhole text.toList <;> simp

end Acceptor.Definition
