import Acceptor.Automaton.History
import Acceptor.Proofs.Editing.FreshState

/-! # What edits do

`Edit.Effect` says of each kind of edit what it answers and what it leaves behind, for any arguments
and any names that the source of tokens may hand out: a new state is under an identifier that was
not declared, a state is taken out with everything that refers to it but the choice of the initial
state, and an identifier that names nothing changes nothing. As long as no identifier is declared
twice and none accepts twice, every edit has this effect and keeps both so; hence they hold all
along any history of edits (`edits_keep_distinct`).
-/

namespace List

/-- Where keys do not repeat, taking out the first item of a key takes out all of them. -/
theorem eraseP_key_eq_filter {α κ : Type} [DecidableEq κ] {key : α → κ} {items : List α}
    (distinct : (items.map key).Nodup) (removed : κ) :
    (items.eraseP fun item => key item == removed) =
      items.filter fun item => key item ≠ removed := by
  induction items with
  | nil => rfl
  | cons item rest ih =>
    rw [map_cons, nodup_cons] at distinct
    by_cases here : key item = removed
    · have others : (rest.filter fun other => key other ≠ removed) = rest := by
        refine filter_eq_self.mpr fun other member => decide_eq_true ?_
        rw [← here]
        exact fun same => distinct.1 (same ▸ mem_map_of_mem member)
      rw [eraseP_cons_of_pos (by simpa using here), filter_cons_of_neg (by simpa using here),
        others]
    · rw [eraseP_cons_of_neg (by simpa using here), filter_cons_of_pos (by simpa using here),
        ih distinct.2]

/-- Both ways to say which items stay when one is taken out everywhere. -/
theorem filter_bne_eq_filter_ne {α : Type} [DecidableEq α] (items : List α) (removed : α) :
    (items.filter fun item => item != removed) = items.filter fun item => item ≠ removed := by
  refine filter_congr fun item _ => ?_
  rw [Bool.eq_iff_iff, decide_eq_true_iff, bne_iff_ne]

end List

namespace Acceptor

namespace Automaton

/-- No identifier is declared twice, and none accepts twice. -/
structure Distinct (automaton : Automaton) : Prop where
  states : automaton.stateIds.Nodup
  accepting : automaton.accepting.Nodup

/-- Two automata that differ in states, transitions, initial and accepting states at most. -/
structure SameHeading (before after : Automaton) : Prop where
  id : after.id = before.id
  name : after.name = before.name
  description : after.description = before.description
  alphabet : after.alphabet = before.alphabet

/-- The automaton without the states of an identifier, the transitions that start or end in them and
their acceptance; everything else is kept in its order. -/
def without (automaton : Automaton) (id : StateId) : Automaton :=
  { automaton with
    states := automaton.states.filter fun state => state.id ≠ id
    transitions := automaton.transitions.filter fun transition =>
      transition.source ≠ id ∧ transition.target ≠ id
    accepting := automaton.accepting.filter fun accepting => accepting ≠ id }

end Automaton

namespace Edit

/-- What an edit of an automaton answers and what is there afterwards. -/
inductive Effect (before : Automaton) : Edit → Answer → Automaton → Prop
  /-- One state more, at the end, under an identifier that was not declared. -/
  | stateAdded {label : Option String} {position : Position} {id : StateId} {after : Automaton}
      (new : id ∉ before.stateIds)
      (grown : after = { before with
        states := before.states ++ [⟨id, label.getD id.text, position⟩] }) :
      Effect before (.addState label position) (.stateAdded id) after
  /-- The declared state, which nothing but the initial identifier may still refer to. -/
  | stateRemoved {removed : State} {after : Automaton} (declared : removed ∈ before.states)
      (undeclared : removed.id ∉ after.stateIds) (rejecting : removed.id ∉ after.accepting)
      (untouched : ∀ transition ∈ after.transitions,
        transition.source ≠ removed.id ∧ transition.target ≠ removed.id)
      (shrunk : after = before.without removed.id) :
      Effect before (.removeState removed.id) (.stateRemoved (some removed)) after
  | noSuchState {id : StateId} (unknown : id ∉ before.stateIds) :
      Effect before (.removeState id) (.stateRemoved none) before
  /-- One transition more, at the end, whatever name it is given. -/
  | transitionAdded {id : TransitionId} {source target : StateId} {symbol : Symbol}
      {after : Automaton}
      (grown : after = { before with
        transitions := before.transitions ++ [⟨id, source, symbol, target⟩] }) :
      Effect before (.addTransition source symbol target) (.transitionAdded id) after
  /-- The first transition of that name. -/
  | transitionRemoved {removed : Transition} {earlier later : List Transition} {after : Automaton}
      (split : before.transitions = earlier ++ removed :: later)
      (first : ∀ other ∈ earlier, other.id ≠ removed.id)
      (shrunk : after = { before with transitions := earlier ++ later }) :
      Effect before (.removeTransition removed.id) (.transitionRemoved (some removed)) after
  | noSuchTransition {id : TransitionId}
      (unknown : ∀ transition ∈ before.transitions, transition.id ≠ id) :
      Effect before (.removeTransition id) (.transitionRemoved none) before
  /-- The identifier is taken out of the accepting ones and then, to accept, put at the end. -/
  | acceptanceSet {id : StateId} {accepting : Bool} {after : Automaton}
      (changed : after = { before with
        accepting := (before.accepting.filter fun other => other ≠ id) ++
          if accepting then [id] else [] }) :
      Effect before (.setAccepting id accepting) .done after
  | initialSet {id : StateId} {after : Automaton}
      (changed : after = { before with initial := id }) :
      Effect before (.setInitial id) .done after

end Edit

namespace Automaton

variable {automaton : Automaton} {id : StateId}

theorem stateIds_without (automaton : Automaton) (id : StateId) :
    (automaton.without id).stateIds = automaton.stateIds.filter fun other => other ≠ id := by
  simp only [stateIds, without, List.filter_map]
  rfl

theorem mem_stateIds_without {other : StateId} :
    other ∈ (automaton.without id).stateIds ↔ other ∈ automaton.stateIds ∧ other ≠ id := by
  rw [stateIds_without, List.mem_filter, decide_eq_true_iff]

theorem mem_accepting_without {other : StateId} :
    other ∈ (automaton.without id).accepting ↔ other ∈ automaton.accepting ∧ other ≠ id := by
  rw [without, List.mem_filter, decide_eq_true_iff]

theorem mem_transitions_without {transition : Transition} :
    transition ∈ (automaton.without id).transitions ↔
      transition ∈ automaton.transitions ∧ transition.source ≠ id ∧ transition.target ≠ id := by
  rw [without, List.mem_filter, decide_eq_true_iff]

/-- A declared state is removed from where it stands first, and everything that touches it goes. -/
theorem removeState_of_declared (declared : id ∈ automaton.stateIds) :
    ∃ removed ∈ automaton.states, removed.id = id ∧
      automaton.removeState id = (some removed, { automaton with
        states := automaton.states.eraseP fun state => state.id == id
        transitions := automaton.transitions.filter fun transition => !transition.touches id
        accepting := automaton.accepting.filter fun accepting => accepting != id }) := by
  have present := containsState_eq_true_iff.mpr declared
  obtain ⟨removed, found⟩ := Option.isSome_iff_exists.mp present
  refine ⟨removed, List.mem_of_find?_eq_some found, by simpa using List.find?_some found, ?_⟩
  simp only [removeState, found]

theorem removeState_of_mem (distinct : automaton.stateIds.Nodup)
    (declared : id ∈ automaton.stateIds) :
    ∃ removed ∈ automaton.states, removed.id = id ∧
      automaton.removeState id = (some removed, automaton.without id) := by
  obtain ⟨removed, listed, named, does⟩ := removeState_of_declared declared
  have states := List.eraseP_key_eq_filter distinct id
  have touched (transition : Transition) :
      (!transition.touches id) = decide (transition.source ≠ id ∧ transition.target ≠ id) := by
    rw [Bool.eq_iff_iff, decide_eq_true_iff]
    simp [Transition.touches]
  refine ⟨removed, listed, named, ?_⟩
  simp only [does, states, touched, List.filter_bne_eq_filter_ne]
  rfl

theorem removeState_of_not_mem (unknown : id ∉ automaton.stateIds) :
    automaton.removeState id = (none, automaton) := by
  have missing : automaton.state? id = none := by
    rw [← containsState_eq_true_iff, containsState] at unknown
    simpa using unknown
  simp only [removeState, missing]

/-- Removing a state does nothing but leave some states, transitions and acceptances out. -/
theorem exists_removeState_eq (automaton : Automaton) (id : StateId) :
    ∃ states transitions accepting, states.Sublist automaton.states ∧
      transitions.Sublist automaton.transitions ∧ accepting.Sublist automaton.accepting ∧
      (automaton.removeState id).2 = { automaton with states, transitions, accepting } := by
  by_cases declared : id ∈ automaton.stateIds
  · obtain ⟨removed, -, -, does⟩ := removeState_of_declared declared
    refine ⟨_, _, _, ?_, ?_, ?_, congrArg Prod.snd does⟩
    · exact List.eraseP_sublist
    · exact List.filter_sublist
    · exact List.filter_sublist
  · have same := congrArg Prod.snd (removeState_of_not_mem declared)
    exact ⟨automaton.states, automaton.transitions, automaton.accepting, .refl _, .refl _,
      .refl _, same⟩

/-- A transition is removed from where it stands first; if there is none, nothing changes. -/
theorem removeTransition_cases (automaton : Automaton) (id : TransitionId) :
    (∃ removed earlier later, removed.id = id ∧
      automaton.transitions = earlier ++ removed :: later ∧
      (∀ other ∈ earlier, other.id ≠ id) ∧
      automaton.removeTransition id =
        (some removed, { automaton with transitions := earlier ++ later })) ∨
    (∀ transition ∈ automaton.transitions, transition.id ≠ id) ∧
      automaton.removeTransition id = (none, automaton) := by
  cases found : automaton.transitions.find? fun transition => transition.id == id with
  | some removed =>
    obtain ⟨named, earlier, later, split, apart⟩ := List.find?_eq_some_iff_append.mp found
    have erased : (automaton.transitions.eraseP fun transition => transition.id == id) =
        earlier ++ later := by
      have passed (other : Transition) (member : other ∈ earlier) : ¬ (other.id == id) = true := by
        simpa using apart other member
      rw [split, List.eraseP_append_right _ passed, List.eraseP_cons, named, cond_true]
    refine .inl ⟨removed, earlier, later, by simpa using named, split, by simpa using apart, ?_⟩
    simp only [removeTransition, found, erased]
  | none =>
    refine .inr ⟨by simpa using found, ?_⟩
    simp only [removeTransition, found]

/-- Removing a transition does nothing but leave some transitions out. -/
theorem exists_removeTransition_eq (automaton : Automaton) (id : TransitionId) :
    ∃ kept, kept.Sublist automaton.transitions ∧
      (automaton.removeTransition id).2 = { automaton with transitions := kept } := by
  obtain ⟨removed, earlier, later, -, split, -, does⟩ | ⟨-, does⟩ :=
    automaton.removeTransition_cases id
  · refine ⟨earlier ++ later, ?_, by rw [does]⟩
    rw [split]
    exact (List.Sublist.refl earlier).append (List.sublist_cons_self removed later)
  · exact ⟨automaton.transitions, .refl _, by rw [does]⟩

theorem setAccepting_eq (automaton : Automaton) (id : StateId) (accepting : Bool) :
    automaton.setAccepting id accepting = { automaton with
      accepting := (automaton.accepting.filter fun other => other ≠ id) ++
        if accepting then [id] else [] } := by
  cases accepting <;> simp only [setAccepting, List.filter_bne_eq_filter_ne, ↓reduceIte,
    Bool.false_eq_true, List.append_nil]

end Automaton

namespace Edit

/-- Every edit does what is said of it, provided that removing a state finds one state only. -/
theorem effect_apply {workspace : Workspace} (distinct : workspace.automaton.Distinct)
    (edit : Edit) :
    edit.Effect workspace.automaton (edit.apply workspace).1
      (edit.apply workspace).2.automaton := by
  cases edit with
  | addState label position => exact .stateAdded (StateId.fresh_not_mem _) rfl
  | removeState id =>
    by_cases declared : id ∈ workspace.automaton.stateIds
    · obtain ⟨removed, listed, rfl, does⟩ :=
        Automaton.removeState_of_mem distinct.states declared
      simp only [apply, does]
      refine .stateRemoved listed ?_ ?_ ?_ rfl
      · exact fun still => (Automaton.mem_stateIds_without.mp still).2 rfl
      · exact fun still => (Automaton.mem_accepting_without.mp still).2 rfl
      · exact fun transition still => (Automaton.mem_transitions_without.mp still).2
    · simp only [apply, Automaton.removeState_of_not_mem declared]
      exact .noSuchState declared
  | addTransition source symbol target => exact .transitionAdded rfl
  | removeTransition id =>
    obtain ⟨removed, earlier, later, rfl, split, first, does⟩ | ⟨unknown, does⟩ :=
      workspace.automaton.removeTransition_cases id
    · simp only [apply, does]
      exact .transitionRemoved split first rfl
    · simp only [apply, does]
      exact .noSuchTransition unknown
  | setAccepting id accepting =>
    exact .acceptanceSet (workspace.automaton.setAccepting_eq id accepting)
  | setInitial id => exact .initialSet rfl

variable {before after : Automaton} {edit : Edit} {answer : Answer}

theorem Effect.distinct (effect : edit.Effect before answer after) (distinct : before.Distinct) :
    after.Distinct := by
  obtain ⟨states, accepting⟩ := distinct
  cases effect with
  | @stateAdded label position id _ new grown =>
    subst grown
    refine ⟨?_, accepting⟩
    rw [Automaton.stateIds_withState]
    exact states.append (List.nodup_singleton _) (by simpa using new)
  | stateRemoved declared _ _ _ shrunk =>
    subst shrunk
    refine ⟨?_, accepting.filter _⟩
    rw [Automaton.stateIds_without]
    exact states.filter _
  | noSuchState _ => exact ⟨states, accepting⟩
  | transitionAdded grown =>
    subst grown
    exact ⟨states, accepting⟩
  | transitionRemoved _ _ shrunk =>
    subst shrunk
    exact ⟨states, accepting⟩
  | noSuchTransition _ => exact ⟨states, accepting⟩
  | @acceptanceSet id flag _ changed =>
    subst changed
    refine ⟨states, ?_⟩
    cases flag with
    | false => simpa using accepting.filter _
    | true =>
      refine (accepting.filter _).append (List.nodup_singleton id) ?_
      simp
  | initialSet changed =>
    subst changed
    exact ⟨states, accepting⟩

theorem Effect.sameHeading (effect : edit.Effect before answer after) :
    before.SameHeading after := by
  cases effect with
  | stateAdded _ grown => subst grown; exact ⟨rfl, rfl, rfl, rfl⟩
  | stateRemoved _ _ _ _ shrunk => subst shrunk; exact ⟨rfl, rfl, rfl, rfl⟩
  | noSuchState _ => exact ⟨rfl, rfl, rfl, rfl⟩
  | transitionAdded grown => subst grown; exact ⟨rfl, rfl, rfl, rfl⟩
  | transitionRemoved _ _ shrunk => subst shrunk; exact ⟨rfl, rfl, rfl, rfl⟩
  | noSuchTransition _ => exact ⟨rfl, rfl, rfl, rfl⟩
  | acceptanceSet changed => subst changed; exact ⟨rfl, rfl, rfl, rfl⟩
  | initialSet changed => subst changed; exact ⟨rfl, rfl, rfl, rfl⟩

end Edit

namespace Workspace

/-- An edit at the end of a history is made on what the history leaves. -/
theorem after_concat (workspace : Workspace) (history : List Edit) (edit : Edit) :
    workspace.after (history ++ [edit]) = (edit.apply (workspace.after history)).2 := by
  rw [after_append]
  rfl

theorem distinct_after {workspace : Workspace} (distinct : workspace.automaton.Distinct)
    (history : List Edit) : (workspace.after history).automaton.Distinct := by
  induction history generalizing workspace with
  | nil => exact distinct
  | cons edit rest ih => exact ih ((Edit.effect_apply distinct edit).distinct distinct)

theorem sameHeading_after {workspace : Workspace} (distinct : workspace.automaton.Distinct)
    (history : List Edit) :
    workspace.automaton.SameHeading (workspace.after history).automaton := by
  induction history generalizing workspace with
  | nil => exact ⟨rfl, rfl, rfl, rfl⟩
  | cons edit rest ih =>
    have effect := Edit.effect_apply distinct edit
    obtain ⟨id, name, description, alphabet⟩ := effect.sameHeading
    have onward := ih (effect.distinct distinct)
    exact ⟨onward.id.trans id, onward.name.trans name, onward.description.trans description,
      onward.alphabet.trans alphabet⟩

end Workspace

/-- However an automaton is edited that declares no identifier twice and accepts none twice, both
stay so after every edit, the heading stays as it was, and each edit has its effect on what the
edits before it have left. -/
theorem edits_keep_distinct (workspace : Workspace) (distinct : workspace.automaton.Distinct)
    (history : List Edit) :
    (workspace.after history).automaton.Distinct ∧
    workspace.automaton.SameHeading (workspace.after history).automaton ∧
    ∀ edit : Edit,
      edit.Effect (workspace.after history).automaton (edit.apply (workspace.after history)).1
        (workspace.after (history ++ [edit])).automaton := by
  have distinctNow := Workspace.distinct_after distinct history
  refine ⟨distinctNow, Workspace.sameHeading_after distinct history, ?_⟩
  intro edit
  rw [Workspace.after_concat]
  exact Edit.effect_apply distinctNow edit

/-- A state between two others, whose transitions come from and lead to both of them. -/
def bridged : Automaton where
  id := "bridged"
  name := "bridged"
  description := some "a bridge"
  alphabet := ⟨['a', 'b']⟩
  states := [.ofId ⟨"q1"⟩, .ofId ⟨"q2"⟩, .ofId ⟨"q0"⟩]
  transitions := [⟨⟨"t0"⟩, ⟨"q1"⟩, 'a', ⟨"q2"⟩⟩, ⟨⟨"t1"⟩, ⟨"q2"⟩, 'a', ⟨"q0"⟩⟩,
    ⟨⟨"t2"⟩, ⟨"q0"⟩, 'b', ⟨"q1"⟩⟩, ⟨⟨"t3"⟩, ⟨"q2"⟩, 'b', ⟨"q2"⟩⟩]
  initial := ⟨"q2"⟩
  accepting := [⟨"q2"⟩, ⟨"q1"⟩]

/-- The bridge is removed, another state takes its place, and what is not there is asked for. -/
theorem edits_keep_distinct_bridged :
    bridged.Distinct ∧
    ((Workspace.mk bridged .standard).after
      [.removeState ⟨"q2"⟩, .addState none .origin, .setAccepting ⟨"q9"⟩ true,
        .setAccepting ⟨"q9"⟩ true, .removeTransition ⟨"t9"⟩]).automaton.Distinct ∧
    (Edit.removeState ⟨"q2"⟩).Effect bridged (.stateRemoved (some (.ofId ⟨"q2"⟩)))
      (bridged.without ⟨"q2"⟩) := by
  have distinct : bridged.Distinct := ⟨by decide, by decide⟩
  have removed := (edits_keep_distinct ⟨bridged, .standard⟩ distinct []).2.2 (.removeState ⟨"q2"⟩)
  exact ⟨distinct, (edits_keep_distinct _ distinct _).1, removed⟩

end Acceptor
