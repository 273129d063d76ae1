import Acceptor.Proofs.Building.Tokens
import Acceptor.Proofs.Validation.Closed
import Mathlib.Data.List.Induction

/-! # What a builder makes

The automaton that comes of any sequence of details, read off the sequence itself: lists are joined
in the order in which their parts were given, everything else is what was given last, and edges are
named in turn. Unless the builder is strict, identifiers that are mentioned without being declared
get states of their own behind the declared ones, each one, in the order of first mention; so
nothing that is mentioned is missing, and validation can complain of little (`build_assembles`).
-/

namespace Acceptor

namespace Builder

namespace Detail

/-! ## What one detail tells -/

def id? : Detail → Option String
  | .id given => some given
  | _ => none

def description? : Detail → Option String
  | .description given => some given
  | _ => none

def alphabet? : Detail → Option Alphabet
  | .alphabet given => some given
  | _ => none

def tokens? : Detail → Option TokenSource
  | .tokens given => some given
  | _ => none

/-- The states that it declares, one or several. Where nothing else is said a state shows its
identifier and lies in the origin. -/
def declares : Detail → List State
  | .states given => given.map fun id => ⟨id, id.text, ⟨0, 0⟩⟩
  | .labelledState given label position => [⟨given, label, position⟩]
  | _ => []

def draws : Detail → List Edge
  | .edges given => given
  | _ => []

def accepts : Detail → List StateId
  | .accepting given => given
  | _ => []

def isStrict : Detail → Bool
  | .strict => true
  | _ => false

end Detail

/-! ## What a sequence of details tells -/

def declared (details : List Detail) : List State := details.flatMap Detail.declares

def drawn (details : List Detail) : List Edge := details.flatMap Detail.draws

def acceptingAll (details : List Detail) : List StateId := details.flatMap Detail.accepts

def lastId? (details : List Detail) : Option String := (details.filterMap Detail.id?).getLast?

def lastDescription? (details : List Detail) : Option String :=
  (details.filterMap Detail.description?).getLast?

def lastAlphabet? (details : List Detail) : Option Alphabet :=
  (details.filterMap Detail.alphabet?).getLast?

/-- The source of names that is in use in the end; where none is given it counts behind a `t`. -/
def lastTokens (details : List Detail) : TokenSource :=
  (details.filterMap Detail.tokens?).getLast?.getD (.counting "t" 0)

/-- All that the automaton refers to, in this order: where it starts, both ends of each edge, where
it accepts. -/
def mentions (details : List Detail) (initial : StateId) : List StateId :=
  initial :: (drawn details).flatMap (fun edge => [edge.source, edge.target]) ++
    acceptingAll details

/-- What is mentioned without being declared, each identifier once, in order of first mention. -/
def undeclared (details : List Detail) (initial : StateId) : List StateId :=
  ((mentions details initial).filter fun id =>
    id ∉ (declared details).map State.id).firstOccurrences

theorem ofId_eq : State.ofId = fun id => ⟨id, id.text, ⟨0, 0⟩⟩ := rfl

/-- The automaton of a sequence of details that starts in `initial`. -/
def assembled (name : String) (details : List Detail) (initial : StateId) : Automaton :=
  ((named name).addAll details).build initial

/-- What has been collected after a sequence of details. -/
theorem addAll_named (name : String) (details : List Detail) :
    (named name).addAll details =
      { id := lastId? details
        name
        description := lastDescription? details
        alphabet := lastAlphabet? details
        states := declared details
        edges := drawn details
        accepting := acceptingAll details
        tokens := lastTokens details
        strict := details.any Detail.isStrict } := by
  induction details using List.reverseRecOn with
  | nil => rfl
  | append_singleton earlier detail ih =>
    rw [addAll_append, ih]
    cases detail <;>
      simp [addAll, add, lastId?, lastDescription?, lastAlphabet?, lastTokens, declared, drawn,
        acceptingAll, Detail.id?, Detail.description?, Detail.alphabet?, Detail.tokens?,
        Detail.declares, Detail.draws, Detail.accepts, Detail.isStrict, ofId_eq]

theorem any_isStrict_iff {details : List Detail} :
    details.any Detail.isStrict = true ↔ .strict ∈ details := by
  rw [List.any_eq_true]
  constructor
  · rintro ⟨detail, member, strict⟩
    cases detail with
    | strict => exact member
    | _ => cases strict
  · intro member
    exact ⟨.strict, member, rfl⟩

/-! ## States that are added -/

theorem declare_of_mem {states : List State} {id : StateId} (known : id ∈ states.map State.id) :
    declare states id = states := by
  obtain ⟨state, listed, rfl⟩ := List.mem_map.mp known
  exact if_pos (List.any_eq_true.mpr ⟨state, listed, beq_self_eq_true state.id⟩)

theorem declare_of_not_mem {states : List State} {id : StateId}
    (new : id ∉ states.map State.id) : declare states id = states ++ [.ofId id] := by
  refine if_neg fun known => new ?_
  obtain ⟨state, listed, same⟩ := List.any_eq_true.mp known
  exact List.mem_map.mpr ⟨state, listed, eq_of_beq same⟩

theorem map_id_ofId (ids : List StateId) : (ids.map State.ofId).map State.id = ids := by
  rw [List.map_map]
  exact List.map_id ids

/-- One identifier after another, what is added are those that are new at their first mention. -/
theorem foldl_declare (states : List State) (ids : List StateId) :
    ids.foldl declare states =
      states ++ ((ids.filter fun id => id ∉ states.map State.id).firstOccurrences.map .ofId) := by
  induction ids using List.reverseRecOn with
  | nil => exact (List.append_nil states).symm
  | append_singleton earlier id ih =>
    rw [List.foldl_append, ih, List.foldl_cons, List.foldl_nil, List.filter_append]
    have present {other : StateId} : other ∈ (states ++ ((earlier.filter fun id =>
        id ∉ states.map State.id).firstOccurrences.map State.ofId)).map State.id ↔
        other ∈ states.map State.id ∨ other ∈ earlier ∧ other ∉ states.map State.id := by
      rw [List.map_append, map_id_ofId, List.mem_append, List.mem_firstOccurrences,
        List.mem_filter, decide_eq_true_iff]
    by_cases known : id ∈ states.map State.id
    · rw [declare_of_mem (present.mpr (.inl known)), List.filter_cons_of_neg (by simpa using known),
        List.filter_nil, List.append_nil]
    rw [List.filter_cons_of_pos (by simpa using known), List.filter_nil,
      List.firstOccurrences_concat]
    by_cases before : id ∈ earlier
    · rw [declare_of_mem (present.mpr (.inr ⟨before, known⟩)), if_pos, List.append_nil]
      exact List.mem_filter.mpr ⟨before, decide_eq_true known⟩
    · have new := mt present.mp (not_or.mpr ⟨known, fun both => before both.1⟩)
      rw [declare_of_not_mem new, if_neg fun kept => before (List.mem_filter.mp kept).1,
        List.map_append, List.append_assoc]
      rfl

/-- Nothing is added for identifiers that are declared. -/
theorem foldl_declare_of_mem {states : List State} {ids : List StateId}
    (known : ∀ id ∈ ids, id ∈ states.map State.id) : ids.foldl declare states = states := by
  have none : (ids.filter fun id => id ∉ states.map State.id) = [] := by
    refine List.filter_eq_nil_iff.mpr fun id member => ?_
    simpa using known id member
  rw [foldl_declare, none]
  exact List.append_nil states

variable (name : String) (details : List Detail) (initial : StateId)

theorem states_assembled_of_strict (strict : .strict ∈ details) :
    (assembled name details initial).states = declared details := by
  rw [assembled, addAll_named]
  exact if_pos (any_isStrict_iff.mpr strict)

theorem states_assembled_of_lenient (lenient : .strict ∉ details) :
    (assembled name details initial).states =
      declared details ++ (undeclared details initial).map fun id => ⟨id, id.text, ⟨0, 0⟩⟩ := by
  rw [assembled, addAll_named]
  refine (if_neg (mt any_isStrict_iff.mp lenient)).trans ?_
  exact foldl_declare (declared details) (mentions details initial)

theorem stateIds_assembled (lenient : .strict ∉ details) :
    (assembled name details initial).stateIds =
      (declared details).map State.id ++ undeclared details initial := by
  rw [Automaton.stateIds, states_assembled_of_lenient name details initial lenient, ← ofId_eq,
    List.map_append, map_id_ofId]

theorem transitions_assembled :
    (assembled name details initial).transitions = (drawn details).mapIdx fun place edge =>
      ⟨⟨(lastTokens details).tokenAt place⟩, edge.source, edge.symbol, edge.target⟩ := by
  rw [assembled, addAll_named]
  exact nameEdges_eq_mapIdx ..

theorem alphabet_assembled :
    (assembled name details initial).alphabet = (lastAlphabet? details).getD
      ⟨((drawn details).map Edge.symbol).firstOccurrences⟩ := by
  rw [assembled, addAll_named, List.firstOccurrences_eq_eraseDups]
  rfl

variable {name details initial}

/-- Just these states and edges under a name and nothing else. -/
def ofParts (name : String) (alphabet : Alphabet) (ids : List StateId) (edges : List Edge)
    (accepting : List StateId) (initial : StateId) : Automaton where
  id := name
  name
  description := none
  alphabet
  states := ids.map .ofId
  transitions := nameEdges .standard edges
  initial
  accepting

/-- Parts of one kind each that mention declared states only stay as they are. -/
theorem assembled_eq_ofParts {alphabet : Alphabet} {ids : List StateId} {edges : List Edge}
    {accepting : List StateId} (starts : initial ∈ ids)
    (ends : ∀ edge ∈ edges, edge.source ∈ ids ∧ edge.target ∈ ids)
    (accepts : ∀ id ∈ accepting, id ∈ ids) :
    assembled name [.alphabet alphabet, .states ids, .edges edges, .accepting accepting] initial =
      ofParts name alphabet ids edges accepting initial := by
  have unchanged : (initial :: edges.flatMap (fun edge => [edge.source, edge.target]) ++
      accepting).foldl declare (ids.map .ofId) = ids.map .ofId := by
    refine foldl_declare_of_mem fun id mentioned => ?_
    rw [map_id_ofId]
    rcases List.mem_append.mp mentioned with first | accepted
    · rcases List.mem_cons.mp first with rfl | between
      · exact starts
      · obtain ⟨edge, given, ending⟩ := List.mem_flatMap.mp between
        rw [List.mem_pair] at ending
        rcases ending with rfl | rfl
        · exact (ends edge given).1
        · exact (ends edge given).2
    · exact accepts id accepted
  exact congrArg (fun states => Automaton.mk name name none alphabet states
    (nameEdges .standard edges) initial accepting) unchanged

/-- Every transition has an edge behind it. -/
theorem exists_edge_of_mem_transitions {transition : Transition}
    (listed : transition ∈ (assembled name details initial).transitions) :
    ∃ edge ∈ drawn details, transition.source = edge.source ∧ transition.symbol = edge.symbol ∧
      transition.target = edge.target := by
  rw [assembled, addAll_named] at listed
  exact exists_edge_of_mem_nameEdges listed

/-- Whatever is mentioned is declared in the end. -/
theorem mem_stateIds_of_mem_mentions (lenient : .strict ∉ details) {id : StateId}
    (mentioned : id ∈ mentions details initial) :
    id ∈ (assembled name details initial).stateIds := by
  rw [stateIds_assembled name details initial lenient, List.mem_append]
  by_cases known : id ∈ (declared details).map State.id
  · exact .inl known
  · refine .inr (List.mem_firstOccurrences.mpr (List.mem_filter.mpr ⟨mentioned, ?_⟩))
    exact decide_eq_true known

theorem closed_assembled (lenient : .strict ∉ details) :
    (assembled name details initial).Closed := by
  have ends {edge : Edge} (listed : edge ∈ drawn details) :
      edge.source ∈ mentions details initial ∧ edge.target ∈ mentions details initial := by
    constructor
    all_goals
      apply List.mem_append_left
      apply List.mem_cons_of_mem
      refine List.mem_flatMap.mpr ⟨edge, listed, ?_⟩
      simp
  constructor
  · have starts : (assembled name details initial).initial = initial := by
      rw [assembled, addAll_named]
      rfl
    rw [starts]
    exact mem_stateIds_of_mem_mentions lenient (List.mem_append_left _ List.mem_cons_self)
  · intro id accepts
    rw [assembled, addAll_named] at accepts
    exact mem_stateIds_of_mem_mentions lenient (List.mem_append_right _ accepts)
  · intro transition listed
    obtain ⟨edge, given, source, -, -⟩ := exists_edge_of_mem_transitions listed
    rw [source]
    exact mem_stateIds_of_mem_mentions lenient (ends given).1
  · intro transition listed
    obtain ⟨edge, given, -, -, target⟩ := exists_edge_of_mem_transitions listed
    rw [target]
    exact mem_stateIds_of_mem_mentions lenient (ends given).2

/-- An alphabet that is made of the edges has their symbols. -/
theorem symbol_mem_of_no_alphabet (absent : lastAlphabet? details = none) {transition : Transition}
    (listed : transition ∈ (assembled name details initial).transitions) :
    transition.symbol ∈ (assembled name details initial).alphabet.symbols := by
  obtain ⟨edge, given, -, symbol, -⟩ := exists_edge_of_mem_transitions listed
  rw [alphabet_assembled, absent, symbol]
  exact List.mem_firstOccurrences.mpr (List.mem_map_of_mem given)

/-- States that are added repeat none. -/
theorem repetitions_stateIds (lenient : .strict ∉ details) :
    (assembled name details initial).stateIds.repetitions =
      ((declared details).map State.id).repetitions := by
  rw [stateIds_assembled name details initial lenient]
  refine List.repetitions_append_of_new (List.nodup_firstOccurrences _) ?_
  intro id added
  exact of_decide_eq_true (List.mem_filter.mp (List.mem_firstOccurrences.mp added)).2

end Builder

open Builder

/-- The automaton of any sequence of details. Its transitions are all edges in order, each named by
the token of its turn from the source in use in the end; accepting states are joined in order; the
alphabet is the last one given, or else has each symbol of the edges in order of first use. A strict
builder makes the declared states and no others. Any other one adds a state for each identifier that
is mentioned only, in order of first mention, and then no reference is reported as unknown, repeated
states are reported exactly where they are declared again, and without an alphabet of its own no
symbol is reported. -/
theorem build_assembles (name : String) (details : List Builder.Detail) (initial : StateId) :
    (assembled name details initial).id = (lastId? details).getD name ∧
    (assembled name details initial).name = name ∧
    (assembled name details initial).description = lastDescription? details ∧
    (assembled name details initial).initial = initial ∧
    (assembled name details initial).accepting = acceptingAll details ∧
    (assembled name details initial).transitions = (drawn details).mapIdx (fun place edge =>
      ⟨⟨(lastTokens details).tokenAt place⟩, edge.source, edge.symbol, edge.target⟩) ∧
    (assembled name details initial).alphabet = (lastAlphabet? details).getD
      ⟨((drawn details).map Edge.symbol).firstOccurrences⟩ ∧
    (.strict ∈ details → (assembled name details initial).states = declared details) ∧
    (.strict ∉ details →
      (assembled name details initial).states =
        declared details ++ (undeclared details initial).map (fun id => ⟨id, id.text, ⟨0, 0⟩⟩) ∧
      (∀ error ∈ (assembled name details initial).validate.value.errors,
        (∃ state, error = .duplicateState state) ∨
        (∃ id symbol, error = .symbolNotInAlphabet id symbol) ∨
        ∃ state symbol kept conflicting,
          error = .nondeterministic state symbol kept conflicting) ∧
      (assembled name details initial).validate.value.errors.filterMap
          ValidationError.duplicate? = ((declared details).map State.id).repetitions ∧
      (lastAlphabet? details = none → ∀ id symbol,
        .symbolNotInAlphabet id symbol ∉
          (assembled name details initial).validate.value.errors)) := by
  refine ⟨?_, ?_, ?_, ?_, ?_, transitions_assembled name details initial,
    alphabet_assembled name details initial, states_assembled_of_strict name details initial, ?_⟩
  iterate 5
    rw [assembled, addAll_named]
    rfl
  intro lenient
  have closed : (assembled name details initial).Closed := closed_assembled lenient
  rw [Automaton.errors_validate, Automaton.filterMap_duplicate?_defects]
  refine ⟨states_assembled_of_lenient name details initial lenient, ?_,
    repetitions_stateIds lenient, ?_⟩
  · intro error reported
    rcases closed.defect_cases reported with repeated | ⟨transition, -, -, foreign⟩ | conflict
    · exact .inl repeated
    · exact .inr (.inl ⟨_, _, foreign⟩)
    · exact .inr (.inr conflict)
  · intro absent id symbol reported
    rcases closed.defect_cases reported with ⟨state, repeated⟩ | ⟨transition, listed, foreign, -⟩ |
      ⟨state, other, kept, conflicting, conflict⟩
    · cases repeated
    · exact foreign (symbol_mem_of_no_alphabet absent listed)
    · cases conflict

/-- Parts of an automaton in no particular order, with a state that is declared again, states that
are only mentioned, and a source of names that is replaced after edges were given. -/
def pieces : List Builder.Detail :=
  [.accepting [⟨"c"⟩, ⟨"a"⟩], .tokens (.withStem "e"), .states [⟨"a"⟩, ⟨"b"⟩],
    .edges [⟨⟨"b"⟩, 'y', ⟨"d"⟩⟩, ⟨⟨"d"⟩, 'x', ⟨"a"⟩⟩], .labelledState ⟨"a"⟩ "again" ⟨120, 80⟩,
    .tokens (.withStem "f"), .edges [⟨⟨"a"⟩, 'y', ⟨"a"⟩⟩]]

theorem build_assembles_pieces :
    (assembled "pieced" pieces ⟨"s"⟩).transitions =
      [⟨⟨"f0"⟩, ⟨"b"⟩, 'y', ⟨"d"⟩⟩, ⟨⟨"f1"⟩, ⟨"d"⟩, 'x', ⟨"a"⟩⟩, ⟨⟨"f2"⟩, ⟨"a"⟩, 'y', ⟨"a"⟩⟩] ∧
    (.strict ∉ pieces ∧ (assembled "pieced" pieces ⟨"s"⟩).states =
      [⟨⟨"a"⟩, "a", ⟨0, 0⟩⟩, ⟨⟨"b"⟩, "b", ⟨0, 0⟩⟩, ⟨⟨"a"⟩, "again", ⟨120, 80⟩⟩,
        ⟨⟨"s"⟩, "s", ⟨0, 0⟩⟩, ⟨⟨"d"⟩, "d", ⟨0, 0⟩⟩, ⟨⟨"c"⟩, "c", ⟨0, 0⟩⟩]) ∧
    (assembled "pieced" pieces ⟨"s"⟩).validate.value.errors.filterMap
      ValidationError.duplicate? = [⟨"a"⟩] ∧
    (lastAlphabet? pieces = none ∧
      .symbolNotInAlphabet ⟨"f0"⟩ 'y' ∉
        (assembled "pieced" pieces ⟨"s"⟩).validate.value.errors) ∧
    .strict ∈ pieces ++ [.strict] ∧ (assembled "pieced" (pieces ++ [.strict]) ⟨"s"⟩).states =
      [⟨⟨"a"⟩, "a", ⟨0, 0⟩⟩, ⟨⟨"b"⟩, "b", ⟨0, 0⟩⟩, ⟨⟨"a"⟩, "again", ⟨120, 80⟩⟩] := by
  have lenient : .strict ∉ pieces := by simp [pieces]
  have strict : .strict ∈ pieces ++ [.strict] := List.mem_append_right _ List.mem_cons_self
  have added : undeclared pieces ⟨"s"⟩ = [⟨"s"⟩, ⟨"d"⟩, ⟨"c"⟩] := by decide
  obtain ⟨-, -, -, -, -, named, -, -, built⟩ := build_assembles "pieced" pieces ⟨"s"⟩
  obtain ⟨-, -, -, -, -, -, -, bare, -⟩ := build_assembles "pieced" (pieces ++ [.strict]) ⟨"s"⟩
  obtain ⟨states, -, repeated, noForeign⟩ := built lenient
  rw [added] at states
  refine ⟨named.trans ?_, ⟨lenient, states⟩, ?_, ⟨rfl, noForeign rfl ⟨"f0"⟩ 'y'⟩, strict,
    bare strict⟩
  · decide
  · rw [repeated]
    decide

end Acceptor
