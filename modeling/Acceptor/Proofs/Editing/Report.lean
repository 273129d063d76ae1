import Acceptor.Proofs.Editing.Effect
import Acceptor.Proofs.Validation.Coherent

/-! # What one edit does to the report

A valid automaton is edited once and validated again. Every error is then one that the edit itself
has brought in, and the warnings change in the pairs of a state and a symbol that the edit concerns
(`report_after_edit`). Adding a new state, removing anything and choosing an initial state keep an
automaton coherent, so that afterwards only the initial state can be amiss; a transition that is
added and a state that is made accepting bring their own defects in.
-/

namespace List

/-- Of items that do not repeat, one is all there are exactly if every other is the same. -/
theorem forall_eq_iff_eq_singleton {α : Type} {items : List α} {item : α} (distinct : items.Nodup)
    (member : item ∈ items) : (∀ other ∈ items, other = item) ↔ items = [item] := by
  constructor
  · intro same
    have copies := eq_replicate_iff.mpr ⟨rfl, same⟩
    rw [copies, nodup_replicate] at distinct
    have present := length_pos_of_mem member
    rw [copies, show items.length = 1 by omega, replicate_one]
  · rintro rfl other here
    exact mem_singleton.mp here

end List

namespace Acceptor

namespace Automaton

/-- The warnings of an automaton for which `missing` says what states and symbols have no
transition, state by state. -/
def warningsWhere (automaton : Automaton) (missing : StateId → Symbol → Prop)
    [∀ state symbol, Decidable (missing state symbol)] : List ValidationWarning :=
  (if automaton.alphabet.symbols = [] then [.emptyAlphabet] else []) ++
  automaton.stateIds.firstOccurrences.flatMap fun state =>
    (automaton.alphabet.symbols.firstOccurrences.filter fun symbol => missing state symbol).map
      (.missingTransition state)

variable {automaton : Automaton} {id : StateId}

namespace Coherent

theorem withState (coherent : automaton.Coherent) {state : State}
    (new : state.id ∉ automaton.stateIds) :
    Coherent { automaton with states := automaton.states ++ [state] } := by
  refine ⟨?_, ?_, ?_, ?_, coherent.symbol, coherent.deterministic⟩
  all_goals rw [stateIds_withState]
  · exact fun id accepts => List.mem_append_left _ (coherent.accepting id accepts)
  · exact coherent.unique.append (List.nodup_singleton _) (by simpa using new)
  · exact fun transition listed => List.mem_append_left _ (coherent.source transition listed)
  · exact fun transition listed => List.mem_append_left _ (coherent.target transition listed)

/-- What refers to the removed state goes with it, so the rest refers to states that remain. -/
theorem without (coherent : automaton.Coherent) (id : StateId) :
    (automaton.without id).Coherent where
  accepting other accepts := by
    obtain ⟨before, different⟩ := mem_accepting_without.mp accepts
    exact mem_stateIds_without.mpr ⟨coherent.accepting other before, different⟩
  unique := by
    rw [stateIds_without]
    exact coherent.unique.filter _
  source transition listed := by
    obtain ⟨before, different, -⟩ := mem_transitions_without.mp listed
    exact mem_stateIds_without.mpr ⟨coherent.source transition before, different⟩
  target transition listed := by
    obtain ⟨before, -, different⟩ := mem_transitions_without.mp listed
    exact mem_stateIds_without.mpr ⟨coherent.target transition before, different⟩
  symbol transition listed := coherent.symbol transition (mem_transitions_without.mp listed).1
  deterministic := coherent.deterministic.filter _

theorem withTransitions (coherent : automaton.Coherent) {fewer : List Transition}
    (sublist : fewer.Sublist automaton.transitions) :
    Coherent { automaton with transitions := fewer } :=
  ⟨coherent.accepting, coherent.unique,
    fun transition listed => coherent.source transition (sublist.subset listed),
    fun transition listed => coherent.target transition (sublist.subset listed),
    fun transition listed => coherent.symbol transition (sublist.subset listed),
    coherent.deterministic.sublist sublist⟩

theorem withInitial (coherent : automaton.Coherent) (id : StateId) :
    (automaton.setInitial id).Coherent :=
  ⟨coherent.accepting, coherent.unique, coherent.source, coherent.target, coherent.symbol,
    coherent.deterministic⟩

end Coherent

/-- A transition at the end brings its own defects in and no others. -/
theorem defects_withTransition (automaton : Automaton) (added : Transition) :
    defects { automaton with transitions := automaton.transitions ++ [added] } =
      automaton.defects ++ automaton.transitionDefects automaton.transitions added := by
  rw [defects, List.flatMapWithEarlier_concat, ← List.append_assoc]
  rfl

/-- A state under a new identifier brings no defect in. -/
theorem defects_withState (formed : automaton.WellFormed) {state : State}
    (new : state.id ∉ automaton.stateIds) :
    defects { automaton with states := automaton.states ++ [state] } = [] := by
  have initial : automaton.initial ∈
      stateIds { automaton with states := automaton.states ++ [state] } := by
    rw [stateIds_withState]
    exact List.mem_append_left _ formed.initial
  rw [(formed.coherent.withState new).defects_eq, if_neg (by simp), if_pos initial]
  rfl

/-- An accepting state brings one defect in if it is not declared. -/
theorem defects_setAccepting (formed : automaton.WellFormed) (id : StateId) (accepting : Bool) :
    (automaton.setAccepting id accepting).defects =
      if accepting = true ∧ id ∉ automaton.stateIds then [.unknownAcceptingState id] else [] := by
  have coherent := formed.coherent
  have others : ((automaton.accepting.filter fun other => other ≠ id).filter fun other =>
      other ∉ automaton.stateIds) = [] := by
    rw [List.filter_comm, coherent.unknownAccepting_eq_nil, List.filter_nil]
  have parts : (automaton.setAccepting id accepting).defects =
      (if automaton.states = [] then [.noStates] else []) ++
      (if automaton.initial ∈ automaton.stateIds then []
        else [.unknownInitialState automaton.initial]) ++
      ((automaton.setAccepting id accepting).accepting.filter fun other =>
        other ∉ automaton.stateIds).map .unknownAcceptingState ++
      automaton.stateIds.repetitions.map .duplicateState ++
      automaton.transitions.flatMapWithEarlier automaton.transitionDefects := rfl
  rw [parts, if_neg formed.states_ne_nil, if_pos formed.initial, coherent.transitions_clean,
    List.repetitions_eq_nil_iff.mpr coherent.unique, setAccepting_eq, List.filter_append, others]
  cases accepting with
  | false => simp
  | true => by_cases declared : id ∈ automaton.stateIds <;> simp [declared]

/-- Without the initial state its identifier is left, and nothing else if there was no other one. -/
theorem defects_without (formed : automaton.WellFormed) (id : StateId) :
    (automaton.without id).defects =
      if id = automaton.initial then
        (if automaton.stateIds = [id] then [.noStates] else []) ++ [.unknownInitialState id]
      else [] := by
  have initial : (automaton.without id).initial = automaton.initial := rfl
  have emptied : (automaton.without id).states = [] ↔ ∀ other ∈ automaton.stateIds, other = id := by
    simp [without, stateIds]
  rw [(formed.coherent.without id).defects_eq, initial]
  by_cases isInitial : id = automaton.initial
  · have declared : id ∈ automaton.stateIds := isInitial ▸ formed.initial
    have alone := List.forall_eq_iff_eq_singleton formed.unique declared
    have undeclared : automaton.initial ∉ (automaton.without id).stateIds := fun still =>
      (mem_stateIds_without.mp still).2 isInitial.symm
    rw [if_neg undeclared, if_pos isInitial, isInitial.symm]
    simp only [emptied, alone]
  · have remains : (automaton.without id).states ≠ [] := fun empty =>
      isInitial (emptied.mp empty automaton.initial formed.initial).symm
    have declared := mem_stateIds_without.mpr ⟨formed.initial, Ne.symm isInitial⟩
    rw [if_neg remains, if_pos declared, if_neg isInitial]
    rfl

/-- The pairs that are warned about are those that no transition serves. -/
theorem warnings_of_iff (automaton : Automaton) {missing : StateId → Symbol → Prop}
    [∀ state symbol, Decidable (missing state symbol)]
    (agrees : ∀ state ∈ automaton.stateIds, ∀ symbol ∈ automaton.alphabet.symbols,
      firstTarget? automaton.transitions state symbol = none ↔ missing state symbol) :
    automaton.validate.value.warnings = automaton.warningsWhere missing := by
  rw [warnings_validate, omissions, warningsWhere, unserved, List.map_flatMap]
  congr 1
  refine List.flatMap_congr fun state declared => ?_
  rw [List.map_map]
  refine congrArg (List.map _) (List.filter_congr fun symbol listed => ?_)
  rw [decide_eq_decide, ← firstTarget?_eq_none_iff]
  exact agrees state (List.mem_firstOccurrences.mp declared) symbol
    (List.mem_firstOccurrences.mp listed)

/-- A declared state and a listed symbol are warned about if nothing serves them. -/
theorem missing_mem_warnings_iff {state : StateId} {symbol : Symbol}
    (declared : state ∈ automaton.stateIds) (listed : symbol ∈ automaton.alphabet.symbols) :
    .missingTransition state symbol ∈ automaton.validate.value.warnings ↔
      firstTarget? automaton.transitions state symbol = none := by
  rw [missingTransition_mem_warnings_iff]
  exact ⟨fun warned => warned.2.2, fun missing => ⟨declared, listed, missing⟩⟩

/-- Acceptance and the initial state play no part in warnings. -/
theorem warnings_setAccepting (automaton : Automaton) (id : StateId) (accepting : Bool) :
    (automaton.setAccepting id accepting).validate.value.warnings =
      automaton.validate.value.warnings := by
  rw [warnings_validate, warnings_validate]
  rfl

theorem warnings_setInitial (automaton : Automaton) (id : StateId) :
    (automaton.setInitial id).validate.value.warnings = automaton.validate.value.warnings := by
  rw [warnings_validate, warnings_validate]
  rfl

/-- A new state is warned about with every symbol, behind all others. -/
theorem warnings_withState (coherent : automaton.Coherent) {state : State}
    (new : state.id ∉ automaton.stateIds) :
    (validate { automaton with states := automaton.states ++ [state] }).value.warnings =
      automaton.validate.value.warnings ++
        automaton.alphabet.symbols.firstOccurrences.map (.missingTransition state.id) := by
  have behind : (automaton.stateIds ++ [state.id]).firstOccurrences =
      automaton.stateIds.firstOccurrences ++ [state.id] := by
    rw [List.firstOccurrences, List.flatMapWithEarlier_concat, if_neg new]
    rfl
  have idle (symbol : Symbol) : ∀ transition ∈ automaton.transitions,
      ¬ (transition.source = state.id ∧ transition.symbol = symbol) := by
    rintro transition listed ⟨source, -⟩
    exact new (source ▸ coherent.source transition listed)
  rw [warnings_validate, warnings_validate, omissions, omissions, unserved, unserved,
    stateIds_withState, behind,
    List.flatMap_append, List.map_append, List.append_assoc, List.flatMap_singleton,
    List.filter_eq_self.mpr fun symbol _ => decide_eq_true (idle symbol), List.map_map]
  rfl

/-- Leaving one pair out of what is missing takes the warning about it away. -/
theorem filter_warningsWhere (automaton : Automaton) (missing : StateId → Symbol → Prop)
    [∀ state symbol, Decidable (missing state symbol)] (state : StateId) (symbol : Symbol) :
    ((automaton.warningsWhere missing).filter fun warning =>
        warning ≠ .missingTransition state symbol) =
      automaton.warningsWhere fun other letter =>
        missing other letter ∧ ¬ (state = other ∧ symbol = letter) := by
  rw [warningsWhere, List.filter_append, List.filter_flatMap, warningsWhere]
  congr 1
  · split <;> simp
  · refine List.flatMap_congr fun other _ => ?_
    rw [List.filter_map, List.filter_filter]
    refine congrArg (List.map _) (List.filter_congr fun letter _ => ?_)
    rw [Bool.and_comm, Function.comp_apply, ← Bool.decide_and, decide_eq_decide]
    simp only [ne_eq, ValidationWarning.missingTransition.injEq, eq_comm (a := other),
      eq_comm (a := letter)]

/-- A transition at the end takes away the warning about what it serves. -/
theorem warnings_withTransition (automaton : Automaton) (added : Transition) :
    (validate { automaton with transitions := automaton.transitions ++ [added] }).value.warnings =
      automaton.validate.value.warnings.filter fun warning =>
        warning ≠ .missingTransition added.source added.symbol := by
  rw [automaton.warnings_of_iff fun _ _ _ _ => Iff.rfl, filter_warningsWhere]
  refine warnings_of_iff _ fun state _ symbol _ => ?_
  simp only [firstTarget?_eq_none_iff, List.forall_mem_append, List.forall_mem_singleton]

/-- Without a transition the pair that it alone served has none. -/
theorem warnings_withoutTransition (coherent : automaton.Coherent) {removed : Transition}
    {earlier later : List Transition}
    (split : automaton.transitions = earlier ++ removed :: later) :
    (validate { automaton with transitions := earlier ++ later }).value.warnings =
      automaton.warningsWhere fun state symbol =>
        .missingTransition state symbol ∈ automaton.validate.value.warnings ∨
          removed.situation = ⟨state, symbol⟩ := by
  refine warnings_of_iff _ fun state declared symbol listed => ?_
  have warned : .missingTransition state symbol ∈ automaton.validate.value.warnings ↔ _ :=
    missing_mem_warnings_iff declared listed
  have apart := coherent.deterministic
  rw [split, List.pairwise_append, List.pairwise_cons] at apart
  obtain ⟨-, ⟨behind, -⟩, before⟩ := apart
  simp only [warned, firstTarget?_eq_none_iff, split, List.forall_mem_append, List.forall_mem_cons,
    Transition.situation, Situation.mk.injEq]
  constructor
  · rintro ⟨idleEarlier, idleLater⟩
    by_cases served : removed.source = state ∧ removed.symbol = symbol
    · exact .inr served
    · exact .inl ⟨idleEarlier, served, idleLater⟩
  · rintro (⟨idleEarlier, -, idleLater⟩ | ⟨rfl, rfl⟩)
    · exact ⟨idleEarlier, idleLater⟩
    · refine ⟨fun other listed => before other listed removed List.mem_cons_self, ?_⟩
      exact fun other listed same => behind other listed ⟨same.1.symm, same.2.symm⟩

/-- Without a state the other ones lack what led to it. -/
theorem warnings_without (coherent : automaton.Coherent) (id : StateId) :
    (automaton.without id).validate.value.warnings =
      (automaton.without id).warningsWhere fun state symbol =>
        .missingTransition state symbol ∈ automaton.validate.value.warnings ∨
          ∃ transition ∈ automaton.transitions, transition.source = state ∧
            transition.symbol = symbol ∧ transition.target = id := by
  refine warnings_of_iff _ fun state remains symbol listed => ?_
  obtain ⟨declared, different⟩ := mem_stateIds_without.mp remains
  rw [missing_mem_warnings_iff declared listed, firstTarget?_eq_none_iff, firstTarget?_eq_none_iff]
  constructor
  · intro idle
    by_cases served : ∃ transition ∈ automaton.transitions,
        transition.source = state ∧ transition.symbol = symbol
    · obtain ⟨transition, before, rfl, rfl⟩ := served
      refine .inr ⟨transition, before, rfl, rfl, ?_⟩
      by_contra elsewhere
      exact idle transition (mem_transitions_without.mpr ⟨before, different, elsewhere⟩) ⟨rfl, rfl⟩
    · exact .inl fun transition before same => served ⟨transition, before, same⟩
  · rintro (idle | ⟨lost, before, rfl, rfl, rfl⟩) transition still ⟨source, symbol⟩
    · exact idle transition (mem_transitions_without.mp still).1 ⟨source, symbol⟩
    · obtain ⟨kept, -, elsewhere⟩ := mem_transitions_without.mp still
      exact elsewhere
        (Transition.eq_of_alike coherent.deterministic kept before source symbol ▸ rfl)

/-- Nothing refers to an identifier that is not declared, so there is nothing to take out. -/
theorem Coherent.without_eq_self (coherent : automaton.Coherent)
    (unknown : id ∉ automaton.stateIds) : automaton.without id = automaton := by
  have states : (automaton.states.filter fun state => state.id ≠ id) = automaton.states := by
    refine List.filter_eq_self.mpr fun state listed => decide_eq_true ?_
    rintro rfl
    exact unknown (List.mem_map_of_mem listed)
  have transitions : (automaton.transitions.filter fun transition =>
      transition.source ≠ id ∧ transition.target ≠ id) = automaton.transitions := by
    refine List.filter_eq_self.mpr fun transition listed => decide_eq_true ⟨?_, ?_⟩
    · rintro rfl
      exact unknown (coherent.source transition listed)
    · rintro rfl
      exact unknown (coherent.target transition listed)
  have accepting : (automaton.accepting.filter fun other => other ≠ id) =
      automaton.accepting := by
    refine List.filter_eq_self.mpr fun other accepts => decide_eq_true ?_
    rintro rfl
    exact unknown (coherent.accepting other accepts)
  rw [Automaton.without, states, transitions, accepting]

theorem Coherent.removeState_eq (coherent : automaton.Coherent) (id : StateId) :
    (automaton.removeState id).2 = automaton.without id := by
  by_cases declared : id ∈ automaton.stateIds
  · obtain ⟨removed, -, -, does⟩ := removeState_of_mem coherent.unique declared
    rw [does]
  · rw [removeState_of_not_mem declared, coherent.without_eq_self declared]

/-- Removing a transition leaves a well-formed automaton, in which the pair that the transition
served has none any more. -/
theorem value_validate_removeTransition (formed : automaton.WellFormed) (id : TransitionId) :
    (automaton.removeTransition id).2.validate.value =
      ⟨[], automaton.warningsWhere fun state symbol =>
        .missingTransition state symbol ∈ automaton.validate.value.warnings ∨
          (automaton.transitions.find? fun transition => transition.id = id).map
            Transition.situation = some ⟨state, symbol⟩⟩ := by
  obtain ⟨removed, earlier, later, named, split, apart, does⟩ | ⟨unknown, does⟩ :=
    automaton.removeTransition_cases id
  · have first : (automaton.transitions.find? fun transition => transition.id = id) =
        some removed := by
      refine List.find?_eq_some_iff_append.mpr ⟨decide_eq_true named, earlier, later, split, ?_⟩
      simpa using apart
    have sublist : (earlier ++ later).Sublist automaton.transitions := by
      rw [split]
      exact (List.Sublist.refl earlier).append (List.sublist_cons_self removed later)
    rw [does]
    refine value_validate_eq ?_ ?_
    · rw [(formed.coherent.withTransitions sublist).defects_eq, if_neg formed.states_ne_nil,
        if_pos]
      · rfl
      · exact formed.initial
    · rw [warnings_withoutTransition formed.coherent split]
      simp only [first, Option.map_some, Option.some.injEq]
  · have none : (automaton.transitions.find? fun transition => transition.id = id) = none :=
      List.find?_eq_none.mpr fun transition listed => by simpa using unknown transition listed
    rw [does]
    refine value_validate_eq (defects_eq_nil_iff.mpr formed) ?_
    refine warnings_of_iff _ fun state declared symbol listed => ?_
    rw [missing_mem_warnings_iff declared listed]
    simp [none]

end Automaton

/-- The report of a valid automaton after one edit. Adding a state, removing a transition and making
a state reject break nothing; a state that is made accepting or initial has to be declared; a new
transition is reported for what is unknown or already served in it; and removing a state leaves the
initial identifier dangling if it was that of the initial state. A pair of a state and a symbol is
warned about from then on if the state is new or its only transition has gone, and no longer if the
state has gone or a transition has come for it. -/
theorem report_after_edit (automaton : Automaton)
    (valid : automaton.validate.value.errors = []) :
    (∀ label position,
      (automaton.addState label position).2.validate.value =
        ⟨[], automaton.validate.value.warnings ++
          automaton.alphabet.symbols.firstOccurrences.map
            (.missingTransition (automaton.addState label position).1)⟩) ∧
    (∀ id,
      (automaton.removeState id).2.validate.value =
        ⟨if id = automaton.initial then
            (if automaton.stateIds = [id] then [.noStates] else []) ++ [.unknownInitialState id]
          else [],
          (automaton.without id).warningsWhere fun state symbol =>
            .missingTransition state symbol ∈ automaton.validate.value.warnings ∨
              ∃ transition ∈ automaton.transitions, transition.source = state ∧
                transition.symbol = symbol ∧ transition.target = id⟩) ∧
    (∀ source symbol target tokens,
      (automaton.addTransition source symbol target tokens).2.1.validate.value =
        ⟨automaton.transitionDefects automaton.transitions
            ⟨(automaton.addTransition source symbol target tokens).1, source, symbol, target⟩,
          automaton.validate.value.warnings.filter fun warning =>
            warning ≠ .missingTransition source symbol⟩) ∧
    (∀ id,
      (automaton.removeTransition id).2.validate.value =
        ⟨[], automaton.warningsWhere fun state symbol =>
          .missingTransition state symbol ∈ automaton.validate.value.warnings ∨
            (automaton.transitions.find? fun transition => transition.id = id).map
              Transition.situation = some ⟨state, symbol⟩⟩) ∧
    (∀ id accepting,
      (automaton.setAccepting id accepting).validate.value =
        ⟨if accepting = true ∧ id ∉ automaton.stateIds then [.unknownAcceptingState id] else [],
          automaton.validate.value.warnings⟩) ∧
    ∀ id,
      (automaton.setInitial id).validate.value =
        ⟨if id ∈ automaton.stateIds then [] else [.unknownInitialState id],
          automaton.validate.value.warnings⟩ := by
  rw [Automaton.errors_validate] at valid
  have formed := Automaton.defects_eq_nil_iff.mp valid
  have coherent := formed.coherent
  refine ⟨?_, ?_, ?_, Automaton.value_validate_removeTransition formed, ?_, ?_⟩
  · intro label position
    have new := StateId.fresh_not_mem automaton.stateIds
    exact Automaton.value_validate_eq (Automaton.defects_withState formed new)
      (Automaton.warnings_withState coherent new)
  · intro id
    rw [coherent.removeState_eq]
    exact Automaton.value_validate_eq (Automaton.defects_without formed id)
      (Automaton.warnings_without coherent id)
  · intro source symbol target tokens
    refine Automaton.value_validate_eq ?_ (automaton.warnings_withTransition _)
    refine (automaton.defects_withTransition _).trans ?_
    rw [valid]
    rfl
  · intro id accepting
    exact Automaton.value_validate_eq (Automaton.defects_setAccepting formed id accepting)
      (automaton.warnings_setAccepting id accepting)
  · intro id
    refine Automaton.value_validate_eq ?_ (automaton.warnings_setInitial id)
    have states : (automaton.setInitial id).states ≠ [] := formed.states_ne_nil
    rw [(coherent.withInitial id).defects_eq, if_neg states]
    rfl

/-- The bridge is the initial state: removing it leaves the initial identifier dangling and its
neighbours without the transitions that led to it. Removing one of the transitions and adding a
state leaves pairs without one. -/
theorem report_after_edit_bridged :
    bridged.validate.value.errors = [] ∧
    (bridged.removeState ⟨"q2"⟩).2.validate.value =
      ⟨[.unknownInitialState ⟨"q2"⟩],
        [.missingTransition ⟨"q1"⟩ 'a', .missingTransition ⟨"q1"⟩ 'b',
          .missingTransition ⟨"q0"⟩ 'a']⟩ ∧
    (bridged.removeTransition ⟨"t1"⟩).2.validate.value =
      ⟨[], [.missingTransition ⟨"q1"⟩ 'b', .missingTransition ⟨"q2"⟩ 'a',
        .missingTransition ⟨"q0"⟩ 'a']⟩ ∧
    (bridged.addState none .origin).2.validate.value =
      ⟨[], [.missingTransition ⟨"q1"⟩ 'b', .missingTransition ⟨"q0"⟩ 'a',
        .missingTransition ⟨"q3"⟩ 'a', .missingTransition ⟨"q3"⟩ 'b']⟩ := by
  have valid : bridged.validate.value.errors = [] := by
    rw [Automaton.errors_validate]
    decide
  obtain ⟨stateAdded, stateRemoved, -, transitionRemoved, -⟩ := report_after_edit bridged valid
  refine ⟨valid, ?_, ?_, ?_⟩
  · rw [stateRemoved]
    simp only [Automaton.warnings_validate]
    decide
  · rw [transitionRemoved]
    simp only [Automaton.warnings_validate]
    decide
  · rw [stateAdded]
    simp only [Automaton.warnings_validate]
    decide

end Acceptor
