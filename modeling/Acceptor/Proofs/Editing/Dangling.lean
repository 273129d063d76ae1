import Acceptor.Proofs.Editing.Effect
import Acceptor.Proofs.Validation.Closed
import Acceptor.Proofs.Validation.WellFormed

/-! # What a new state is referred to by

A new state is under an identifier that is not declared, but an automaton may refer to identifiers
that are not. Removing a state takes acceptance and transitions with it, so as long as these are
given to declared states only, nothing else refers to a new state either. The initial identifier is
the exception: it stays when its state is removed, and a state that is added later may come under
it and be initial without having been made so (`new_state_is_referred_to_by_initial_only`). Until
then, or until another initial state is chosen, validation reports it.
-/

namespace Acceptor

namespace Automaton

/-- Acceptance and transitions are of declared states; the initial identifier may be any. -/
structure Grounded (automaton : Automaton) : Prop where
  accepting : ∀ id ∈ automaton.accepting, id ∈ automaton.stateIds
  source : ∀ transition ∈ automaton.transitions, transition.source ∈ automaton.stateIds
  target : ∀ transition ∈ automaton.transitions, transition.target ∈ automaton.stateIds

variable {automaton : Automaton}

theorem WellFormed.grounded (formed : automaton.WellFormed) : automaton.Grounded :=
  ⟨formed.accepting, formed.source, formed.target⟩

/-- Only the initial identifier can be reported as an unknown initial state. -/
theorem unknownInitialState_mem_errors_iff {id : StateId} :
    .unknownInitialState id ∈ automaton.validate.value.errors ↔
      id = automaton.initial ∧ automaton.initial ∉ automaton.stateIds := by
  have elsewhere : .unknownInitialState id ∉
      automaton.transitions.flatMapWithEarlier automaton.transitionDefects := by
    rw [List.mem_flatMapWithEarlier]
    rintro ⟨earlier, transition, later, -, here⟩
    have kind := transitionDefect_cases here
    simp at kind
  rw [errors_validate]
  by_cases declared : automaton.initial ∈ automaton.stateIds <;>
    by_cases empty : automaton.states = [] <;>
    simp [defects, elsewhere, declared, empty]

/-- Where one identifier is not declared any more, the others still are. -/
theorem mem_stateIds_removeState {id other : StateId} (declared : other ∈ automaton.stateIds)
    (different : other ≠ id) : other ∈ (automaton.removeState id).2.stateIds := by
  by_cases known : id ∈ automaton.stateIds
  · obtain ⟨removed, -, -, does⟩ := removeState_of_declared known
    obtain ⟨state, listed, rfl⟩ := List.mem_map.mp declared
    rw [does]
    refine List.mem_map_of_mem ((List.mem_eraseP_of_neg ?_).mpr listed)
    simpa using different
  · rwa [removeState_of_not_mem known]

namespace Grounded

theorem addState (grounded : automaton.Grounded) (label : Option String) (position : Position) :
    (automaton.addState label position).2.Grounded := by
  have still {id : StateId} (declared : id ∈ automaton.stateIds) :
      id ∈ (automaton.addState label position).2.stateIds := by
    rw [stateIds_addState]
    exact List.mem_append_left _ declared
  exact ⟨fun id accepts => still (grounded.accepting id accepts),
    fun transition listed => still (grounded.source transition listed),
    fun transition listed => still (grounded.target transition listed)⟩

/-- What is referred to when a state has been removed is another one and was referred to before. -/
theorem removeState (grounded : automaton.Grounded) (id : StateId) :
    (automaton.removeState id).2.Grounded := by
  by_cases known : id ∈ automaton.stateIds
  · obtain ⟨removed, -, -, does⟩ := removeState_of_declared known
    have accepting : (automaton.removeState id).2.accepting =
        automaton.accepting.filter fun accepting => accepting != id := by rw [does]
    have transitions : (automaton.removeState id).2.transitions =
        automaton.transitions.filter fun transition => !transition.touches id := by rw [does]
    refine ⟨fun other accepts => ?_, fun transition listed => ?_, fun transition listed => ?_⟩
    · rw [accepting, List.mem_filter, bne_iff_ne] at accepts
      exact mem_stateIds_removeState (grounded.accepting other accepts.1) accepts.2
    · rw [transitions, List.mem_filter] at listed
      refine mem_stateIds_removeState (grounded.source transition listed.1) ?_
      rintro rfl
      simp [Transition.touches] at listed
    · rw [transitions, List.mem_filter] at listed
      refine mem_stateIds_removeState (grounded.target transition listed.1) ?_
      rintro rfl
      simp [Transition.touches] at listed
  · rwa [removeState_of_not_mem known]

theorem withTransition (grounded : automaton.Grounded) {added : Transition}
    (source : added.source ∈ automaton.stateIds) (target : added.target ∈ automaton.stateIds) :
    Grounded { automaton with transitions := automaton.transitions ++ [added] } where
  accepting := grounded.accepting
  source := List.forall_mem_append.mpr ⟨grounded.source, List.forall_mem_singleton.mpr source⟩
  target := List.forall_mem_append.mpr ⟨grounded.target, List.forall_mem_singleton.mpr target⟩

theorem withoutTransitions (grounded : automaton.Grounded) {kept : List Transition}
    (sublist : kept.Sublist automaton.transitions) :
    Grounded { automaton with transitions := kept } where
  accepting := grounded.accepting
  source transition listed := grounded.source transition (sublist.subset listed)
  target transition listed := grounded.target transition (sublist.subset listed)

theorem setAccepting (grounded : automaton.Grounded) {id : StateId} {accepting : Bool}
    (declared : accepting = true → id ∈ automaton.stateIds) :
    (automaton.setAccepting id accepting).Grounded := by
  rw [setAccepting_eq]
  refine ⟨fun other accepts => ?_, grounded.source, grounded.target⟩
  obtain before | now := List.mem_append.mp accepts
  · exact grounded.accepting other (List.mem_filter.mp before).1
  · cases accepting with
    | false => cases now
    | true =>
      obtain rfl := List.mem_singleton.mp now
      exact declared rfl

end Grounded

end Automaton

namespace Edit

variable {workspace : Workspace} {edit : Edit}

/-- The edit gives acceptance and transitions to declared states only. Which state is removed or
made initial does not matter. -/
def Grounds (automaton : Automaton) : Edit → Prop
  | addTransition source _ target =>
    source ∈ automaton.stateIds ∧ target ∈ automaton.stateIds
  | setAccepting id accepting => accepting = true → id ∈ automaton.stateIds
  | _ => True

theorem Grounds.apply (grounds : edit.Grounds workspace.automaton)
    (grounded : workspace.automaton.Grounded) :
    (edit.apply workspace).2.automaton.Grounded := by
  cases edit with
  | addState label position => exact grounded.addState label position
  | removeState id => exact grounded.removeState id
  | addTransition source symbol target => exact grounded.withTransition grounds.1 grounds.2
  | removeTransition id =>
    obtain ⟨kept, sublist, does⟩ := workspace.automaton.exists_removeTransition_eq id
    simp only [Edit.apply, does]
    exact grounded.withoutTransitions sublist
  | setAccepting id accepting => exact grounded.setAccepting grounds
  | setInitial id => exact ⟨grounded.accepting, grounded.source, grounded.target⟩

/-- Only choosing another initial state changes the initial identifier. -/
theorem initial_apply (unchosen : ∀ id, edit ≠ .setInitial id) :
    (edit.apply workspace).2.automaton.initial = workspace.automaton.initial := by
  cases edit with
  | addState label position => rfl
  | removeState id =>
    obtain ⟨_, _, _, -, -, -, does⟩ := workspace.automaton.exists_removeState_eq id
    simp only [apply, does]
  | addTransition source symbol target => rfl
  | removeTransition id =>
    obtain ⟨kept, -, does⟩ := workspace.automaton.exists_removeTransition_eq id
    simp only [apply, does]
  | setAccepting id accepting => rfl
  | setInitial id => exact absurd rfl (unchosen id)

/-- Only adding a state declares an identifier, and the answer tells which. -/
theorem mem_stateIds_apply {id : StateId}
    (declared : id ∈ (edit.apply workspace).2.automaton.stateIds) :
    id ∈ workspace.automaton.stateIds ∨ (edit.apply workspace).1 = .stateAdded id := by
  cases edit with
  | addState label position =>
    rw [apply, Automaton.stateIds_addState, List.mem_append, List.mem_singleton] at declared
    obtain before | rfl := declared
    · exact .inl before
    · exact .inr rfl
  | removeState other =>
    obtain ⟨kept, _, _, sublist, -, -, does⟩ := workspace.automaton.exists_removeState_eq other
    simp only [apply, does] at declared
    exact .inl ((sublist.map State.id).subset declared)
  | addTransition source symbol target => exact .inl declared
  | removeTransition other =>
    obtain ⟨kept, -, does⟩ := workspace.automaton.exists_removeTransition_eq other
    simp only [apply, does] at declared
    exact .inl declared
  | setAccepting other accepting => exact .inl declared
  | setInitial other => exact .inl declared

end Edit

namespace Workspace

variable {workspace : Workspace}

/-- All edits of a history give acceptance and transitions to declared states only. -/
def Grounds (workspace : Workspace) : List Edit → Prop
  | [] => True
  | edit :: rest =>
    edit.Grounds workspace.automaton ∧ (edit.apply workspace).2.Grounds rest

theorem Grounds.after {history : List Edit} (grounds : workspace.Grounds history)
    (grounded : workspace.automaton.Grounded) :
    (workspace.after history).automaton.Grounded := by
  induction history generalizing workspace with
  | nil => exact grounded
  | cons edit rest ih => exact ih grounds.2 (grounds.1.apply grounded)

/-- An initial identifier that is not declared stays so until a state is added under it or another
one is chosen. -/
theorem dangling_after {later : List Edit}
    (dangling : workspace.automaton.initial ∉ workspace.automaton.stateIds)
    (unchosen : ∀ id, .setInitial id ∉ later)
    (unanswered : ∀ answer ∈ workspace.answers later,
      answer ≠ .stateAdded workspace.automaton.initial) :
    (workspace.after later).automaton.initial = workspace.automaton.initial ∧
      workspace.automaton.initial ∉ (workspace.after later).automaton.stateIds := by
  induction later generalizing workspace with
  | nil => exact ⟨rfl, dangling⟩
  | cons edit rest ih =>
    obtain ⟨here, onward⟩ := List.forall_mem_cons.mp unanswered
    have initial : (edit.apply workspace).2.automaton.initial = workspace.automaton.initial := by
      refine Edit.initial_apply fun id chosen => unchosen id ?_
      rw [chosen]
      exact List.mem_cons_self
    have still : workspace.automaton.initial ∉ (edit.apply workspace).2.automaton.stateIds := by
      intro declared
      exact (Edit.mem_stateIds_apply declared).elim dangling here
    rw [← initial] at still onward ⊢
    exact ih still (fun id chosen => unchosen id (List.mem_cons_of_mem edit chosen)) onward

end Workspace

/-- From a valid automaton on, let acceptance and transitions be given to declared states only. Then
a new state does not accept and no transition touches it. It is initial only if the initial
identifier is not declared and is the one that was next in turn; and such an identifier is reported
as long as no other one is chosen and no state is added under it. -/
theorem new_state_is_referred_to_by_initial_only {workspace : Workspace}
    (valid : workspace.automaton.validate.value.errors = []) {history : List Edit}
    (grounds : workspace.Grounds history) :
    (∀ label position id added,
      (workspace.after history).automaton.addState label position = (id, added) →
      id ∉ added.accepting ∧
      (∀ transition ∈ added.transitions, transition.source ≠ id ∧ transition.target ≠ id) ∧
      (id = added.initial ↔ ∃ number, added.initial = .numbered number ∧
        StateId.LeastFree (workspace.after history).automaton.stateIds number)) ∧
    ((workspace.after history).automaton.initial ∉ (workspace.after history).automaton.stateIds →
      ∀ later, (∀ id, .setInitial id ∉ later) →
        (∀ answer ∈ (workspace.after history).answers later,
          answer ≠ .stateAdded (workspace.after history).automaton.initial) →
        .unknownInitialState (workspace.after history).automaton.initial ∈
          (workspace.after (history ++ later)).automaton.validate.value.errors) := by
  rw [Automaton.errors_validate] at valid
  have grounded := grounds.after (Automaton.defects_eq_nil_iff.mp valid).grounded
  constructor
  · rintro label position id added ⟨rfl, rfl⟩
    have new := StateId.fresh_not_mem (workspace.after history).automaton.stateIds
    refine ⟨fun accepts => new (grounded.accepting _ accepts), ?_, StateId.fresh_eq_iff⟩
    intro transition listed
    exact ⟨fun same => new (same ▸ grounded.source transition listed),
      fun same => new (same ▸ grounded.target transition listed)⟩
  · intro dangling later unchosen unanswered
    obtain ⟨initial, still⟩ := Workspace.dangling_after dangling unchosen unanswered
    rw [Automaton.unknownInitialState_mem_errors_iff, Workspace.after_append, initial]
    exact ⟨rfl, still⟩

/-- Two states, the second of which is the initial one. -/
def handingOver : Automaton where
  id := "handing over"
  name := "handing over"
  description := none
  alphabet := ⟨['a']⟩
  states := [.ofId ⟨"q0"⟩, .ofId ⟨"q1"⟩]
  transitions := [⟨⟨"t0"⟩, ⟨"q0"⟩, 'a', ⟨"q0"⟩⟩, ⟨⟨"t1"⟩, ⟨"q1"⟩, 'a', ⟨"q0"⟩⟩]
  initial := ⟨"q1"⟩
  accepting := []

/-- The initial state has been removed. -/
def deserted : Workspace := (Workspace.mk handingOver .standard).after [.removeState ⟨"q1"⟩]

/-- Once `q1` has been made accepting and removed, the next state is called `q1` again: it does not
accept and no transition touches it, but it is initial, since it comes next in turn. As long as only
the other state is changed, `q1` is reported. -/
theorem new_state_is_referred_to_by_initial_only_deserted :
    handingOver.validate.value.errors = [] ∧
    (∃ added, ((Workspace.mk handingOver .standard).after
        [.setAccepting ⟨"q1"⟩ true, .removeState ⟨"q1"⟩]).automaton.addState none .origin =
        (⟨"q1"⟩, added) ∧
      ⟨"q1"⟩ ∉ added.accepting ∧
      (∀ transition ∈ added.transitions,
        transition.source ≠ ⟨"q1"⟩ ∧ transition.target ≠ ⟨"q1"⟩) ∧
      added.initial = ⟨"q1"⟩) ∧
    ValidationError.unknownInitialState ⟨"q1"⟩ ∈
      ((Workspace.mk handingOver .standard).after [.removeState ⟨"q1"⟩,
        .setAccepting ⟨"q0"⟩ true, .removeTransition ⟨"t0"⟩]).automaton.validate.value.errors := by
  have valid : handingOver.validate.value.errors = [] := by
    rw [Automaton.errors_validate]
    decide
  have dangling : deserted.automaton.initial ∉ deserted.automaton.stateIds := by decide
  have grounds : (Workspace.mk handingOver .standard).Grounds
      [.setAccepting ⟨"q1"⟩ true, .removeState ⟨"q1"⟩] := by
    refine ⟨fun _ => ?_, trivial, trivial⟩
    decide
  obtain ⟨untouched, -⟩ := @new_state_is_referred_to_by_initial_only ⟨handingOver, .standard⟩ valid
    [.setAccepting ⟨"q1"⟩ true, .removeState ⟨"q1"⟩] grounds
  have reported := (@new_state_is_referred_to_by_initial_only ⟨handingOver, .standard⟩ valid
    [.removeState ⟨"q1"⟩] ⟨trivial, trivial⟩).2 dangling
    [.setAccepting ⟨"q0"⟩ true, .removeTransition ⟨"t0"⟩]
  refine ⟨valid, ⟨_, rfl, ?_⟩, reported (by simp) (by simp [Workspace.answers, Edit.apply])⟩
  obtain ⟨rejects, apart, initial⟩ := untouched none .origin ⟨"q1"⟩ _ rfl
  refine ⟨rejects, apart, (initial.mpr ⟨1, rfl, ⟨by decide, by decide, ?_⟩⟩).symm⟩
  exact fun other counted before => absurd counted (Nat.not_le.mpr before)

/-- The next state is added under `q1` again. So it is the initial one, although it was not made
so, and nothing is reported any more. -/
theorem new_state_becomes_initial :
    handingOver.validate.value.errors = [] ∧
    deserted.automaton.validate.value.errors = [.unknownInitialState ⟨"q1"⟩] ∧
    (deserted.automaton.addState none .origin).1 = deserted.automaton.initial ∧
    (deserted.automaton.addState none .origin).2.validate.value.errors = [] := by
  simp only [Automaton.errors_validate]
  decide

end Acceptor
