import Acceptor.Automaton.Lookup
import Acceptor.Proofs.Occurrence
import Acceptor.Validation.Report

/-! # What validation reports

The report of an automaton of any kind, read off its lists. `Automaton.defects` and
`Automaton.omissions` say for each place of each list what is found there, without the sets and
tables that validation fills on its way; the report holds exactly these, in this order and as often
(`validate_reports`). The table of transitions is the one that runs look into, so that a state and
symbol stay with the first transition that serves them in both.
-/

namespace Acceptor

namespace Automaton

/-- What is wrong with a transition that stands behind the earlier ones. -/
def transitionDefects (automaton : Automaton) (earlier : List Transition)
    (transition : Transition) : List ValidationError :=
  (if transition.source ∈ automaton.stateIds then []
    else [.unknownSourceState transition.id transition.source]) ++
  (if transition.target ∈ automaton.stateIds then []
    else [.unknownTargetState transition.id transition.target]) ++
  (if transition.symbol ∈ automaton.alphabet.symbols then []
    else [.symbolNotInAlphabet transition.id transition.symbol]) ++
  match firstTarget? earlier transition.source transition.symbol with
  | some kept =>
    [.nondeterministic transition.source transition.symbol kept transition.target]
  | none => []

/-- What makes the automaton malformed, list by list and place by place. -/
def defects (automaton : Automaton) : List ValidationError :=
  (if automaton.states = [] then [.noStates] else []) ++
  (if automaton.initial ∈ automaton.stateIds then []
    else [.unknownInitialState automaton.initial]) ++
  (automaton.accepting.filter fun id => id ∉ automaton.stateIds).map .unknownAcceptingState ++
  automaton.stateIds.repetitions.map .duplicateState ++
  automaton.transitions.flatMapWithEarlier automaton.transitionDefects

/-- The declared states and listed symbols without any transition, state by state. -/
def unserved (automaton : Automaton) : List Situation :=
  automaton.stateIds.firstOccurrences.flatMap fun state =>
    (automaton.alphabet.symbols.firstOccurrences.filter fun symbol =>
      ∀ transition ∈ automaton.transitions,
        ¬ (transition.source = state ∧ transition.symbol = symbol)).map (.mk state)

/-- What the automaton leaves open: symbols at all, and transitions for its states on them. -/
def omissions (automaton : Automaton) : List ValidationWarning :=
  (if automaton.alphabet.symbols = [] then [.emptyAlphabet] else []) ++
  automaton.unserved.map fun situation => .missingTransition situation.state situation.symbol

end Automaton

namespace Validation

/-- An identifier is a repetition if it was seen before the list began or stands earlier in it. -/
theorem duplicates_eq (seen : Known) (ids : List StateId) :
    duplicates seen ids =
      (ids.flatMapWithEarlier fun earlier id =>
        if id ∈ seen ∨ id ∈ earlier then [id] else []).map
          fun id => .error (.duplicateState id) := by
  induction ids generalizing seen with
  | nil => rfl
  | cons id rest ih =>
    -- What was seen before the rest is what was seen before the list, and the first identifier.
    have widened : (fun (earlier : List StateId) other =>
        if other ∈ seen.insert id ∨ other ∈ earlier then [other] else []) =
        fun earlier other => if other ∈ seen ∨ other ∈ id :: earlier then [other] else [] := by
      funext earlier other
      simp only [Std.HashSet.mem_insert, beq_iff_eq, List.mem_cons, eq_comm (a := id), or_assoc,
        or_left_comm (a := other ∈ seen)]
    rw [duplicates, ih, widened, List.flatMapWithEarlier_cons, List.map_append]
    congr 1
    by_cases known : id ∈ seen <;> simp [findIf, known]

/-- Passing over transitions fills the table that runs look into. -/
theorem auditTransitions_served (automaton : Automaton) (known : Known) (served : Served)
    (transitions : List Transition) :
    (auditTransitions automaton known served transitions).2 =
      (transitions.foldl Lookup.insert ⟨served⟩).targets := by
  induction transitions generalizing served with
  | nil => rfl
  | cons transition rest ih => exact ih _

/-- With the declared identifiers and the table of the transitions before it, the findings on a
transition are its defects. -/
theorem transitionFindings_eq (automaton : Automaton) (earlier : List Transition)
    (transition : Transition) :
    transitionFindings automaton (.ofList automaton.stateIds)
        (Lookup.ofTransitions earlier).targets transition =
      (automaton.transitionDefects earlier transition).map .error := by
  have kept : (Lookup.ofTransitions earlier).targets[transition.situation]? =
      firstTarget? earlier transition.source transition.symbol :=
    Lookup.next?_ofTransitions ..
  simp only [transitionFindings, Automaton.transitionDefects, kept, List.map_append]
  congr 1
  · simp [findIf, Alphabet.contains, Std.HashSet.contains_ofList,
      apply_ite (List.map Finding.error)]
  · cases firstTarget? earlier transition.source transition.symbol <;> rfl

/-- Each transition is looked at with the table of those before it. -/
theorem auditTransitions_findings (automaton : Automaton) :
    (auditTransitions automaton (.ofList automaton.stateIds) ∅ automaton.transitions).1 =
      (automaton.transitions.flatMapWithEarlier automaton.transitionDefects).map .error := by
  have general (served : Served) (transitions : List Transition) :
      (auditTransitions automaton (.ofList automaton.stateIds) served transitions).1 =
        transitions.flatMapWithEarlier fun earlier =>
          transitionFindings automaton (.ofList automaton.stateIds)
            (earlier.foldl Lookup.insert ⟨served⟩).targets := by
    induction transitions generalizing served with
    | nil => rfl
    | cons transition rest ih =>
      rw [List.flatMapWithEarlier_cons, auditTransitions, ih]
      rfl
  rw [general, List.map_flatMapWithEarlier]
  congr 1
  funext earlier transition
  exact transitionFindings_eq automaton earlier transition

/-- The table has nothing for a state and symbol exactly if no transition serves them. -/
theorem not_contains_targets_iff {transitions : List Transition} {state : StateId}
    {symbol : Symbol} :
    (!(Lookup.ofTransitions transitions).targets.contains ⟨state, symbol⟩) = true ↔
      ∀ transition ∈ transitions, ¬ (transition.source = state ∧ transition.symbol = symbol) := by
  have found : (Lookup.ofTransitions transitions).targets[Situation.mk state symbol]? =
      firstTarget? transitions state symbol :=
    Lookup.next?_ofTransitions ..
  rw [Std.HashMap.contains_eq_isSome_getElem?, found, ← firstTarget?_eq_none_iff]
  cases firstTarget? transitions state symbol <;> simp

/-- With the table of all transitions, the gaps are the situations that nothing serves. -/
theorem gaps_eq (automaton : Automaton) :
    gaps (Lookup.ofTransitions automaton.transitions).targets automaton.stateIds.eraseDups
        automaton.alphabet.unique =
      (automaton.unserved.map fun situation =>
        .missingTransition situation.state situation.symbol).map .warning := by
  rw [gaps, Automaton.unserved, List.map_flatMap, List.map_flatMap, Alphabet.unique,
    List.firstOccurrences_eq_eraseDups, List.firstOccurrences_eq_eraseDups]
  congr 1
  funext state
  induction automaton.alphabet.symbols.eraseDups with
  | nil => rfl
  | cons symbol rest ih =>
    rw [List.flatMap_cons, ih, List.filter_cons]
    by_cases missing : ∀ transition ∈ automaton.transitions,
        ¬ (transition.source = state ∧ transition.symbol = symbol)
    · rw [findIf, if_pos (not_contains_targets_iff.mpr missing), if_pos (decide_eq_true missing)]
      rfl
    · rw [findIf, if_neg (missing ∘ not_contains_targets_iff.mp),
        if_neg (missing ∘ of_decide_eq_true)]
      rfl

/-- What is read off a single finding that may or may not be there. -/
theorem filterMap_findIf {β : Type} (read : Finding → Option β) (condition : Bool)
    (finding : Finding) :
    (findIf condition finding).filterMap read =
      if condition then (read finding).toList else [] := by
  cases condition
  · rfl
  · cases found : read finding <;> simp [findIf, found]

/-- All findings, as errors and warnings in turn. -/
theorem findings_eq (automaton : Automaton) :
    findings automaton =
      findIf automaton.states.isEmpty (.error .noStates) ++
      findIf (automaton.initial ∉ automaton.stateIds)
        (.error (.unknownInitialState automaton.initial)) ++
      ((automaton.accepting.filter fun id => id ∉ automaton.stateIds).map
        .unknownAcceptingState).map .error ++
      findIf automaton.alphabet.isEmpty (.warning .emptyAlphabet) ++
      (automaton.stateIds.repetitions.map .duplicateState).map .error ++
      (automaton.transitions.flatMapWithEarlier automaton.transitionDefects).map .error ++
      (automaton.unserved.map fun situation =>
        .missingTransition situation.state situation.symbol).map .warning := by
  have repeated : duplicates ∅ automaton.stateIds =
      (automaton.stateIds.repetitions.map .duplicateState).map .error := by
    simp [duplicates_eq, List.repetitions]
  have table : (auditTransitions automaton (.ofList automaton.stateIds) ∅ automaton.transitions).2 =
      (Lookup.ofTransitions automaton.transitions).targets :=
    auditTransitions_served ..
  simp only [findings, auditTransitions_findings, repeated, table, gaps_eq,
    Std.HashSet.contains_ofList, List.map_map]
  simp [Function.comp_def]

end Validation

namespace Automaton

open Validation

theorem errors_validate (automaton : Automaton) :
    automaton.validate.value.errors = automaton.defects := by
  change (findings automaton).filterMap Finding.error? = _
  simp [findings_eq, defects, filterMap_findIf, Finding.error?, Function.comp_def,
    List.filterMap_map]

theorem warnings_validate (automaton : Automaton) :
    automaton.validate.value.warnings = automaton.omissions := by
  change (findings automaton).filterMap Finding.warning? = _
  simp [findings_eq, omissions, filterMap_findIf, Finding.warning?, Function.comp_def,
    List.filterMap_map, Alphabet.isEmpty]

/-- A report is given by the defects and the warnings. -/
theorem value_validate_eq {automaton : Automaton} {errors : List ValidationError}
    {warnings : List ValidationWarning} (defects : automaton.defects = errors)
    (warned : automaton.validate.value.warnings = warnings) :
    automaton.validate.value = ⟨errors, warnings⟩ := by
  rw [← defects, ← warned, ← errors_validate]

/-- Where something is declared, there are states. -/
theorem states_ne_nil_of_mem {automaton : Automaton} {id : StateId}
    (declared : id ∈ automaton.stateIds) : automaton.states ≠ [] := by
  intro empty
  simp [stateIds, empty] at declared

theorem mem_unserved_iff {automaton : Automaton} {state : StateId} {symbol : Symbol} :
    Situation.mk state symbol ∈ automaton.unserved ↔
      state ∈ automaton.stateIds ∧ symbol ∈ automaton.alphabet.symbols ∧
        firstTarget? automaton.transitions state symbol = none := by
  simp [unserved, List.mem_firstOccurrences, firstTarget?_eq_none_iff]

theorem missingTransition_mem_warnings_iff {automaton : Automaton} {state : StateId}
    {symbol : Symbol} :
    .missingTransition state symbol ∈ automaton.validate.value.warnings ↔
      state ∈ automaton.stateIds ∧ symbol ∈ automaton.alphabet.symbols ∧
        firstTarget? automaton.transitions state symbol = none := by
  rw [warnings_validate, omissions, List.mem_append, ← mem_unserved_iff]
  constructor
  · rintro (empty | missing)
    · split at empty <;> simp at empty
    · obtain ⟨situation, member, equal⟩ := List.mem_map.mp missing
      obtain ⟨rfl, rfl⟩ := ValidationWarning.missingTransition.inj equal
      exact member
  · intro member
    exact .inr (List.mem_map.mpr ⟨_, member, rfl⟩)

theorem isValid_validate_iff (automaton : Automaton) :
    automaton.validate.value.isValid = true ↔ automaton.defects = [] := by
  rw [ValidationReport.isValid, errors_validate, List.isEmpty_iff]

end Automaton

/-- The report of any automaton: all defects and all omissions, each in its place and as often as it
is there. The automaton is valid exactly if it has no defect. -/
theorem validate_reports (automaton : Automaton) :
    automaton.validate.value = ⟨automaton.defects, automaton.omissions⟩ ∧
    (automaton.validate.value.isValid = true ↔ automaton.defects = []) := by
  refine ⟨?_, automaton.isValid_validate_iff⟩
  rw [← automaton.errors_validate, ← automaton.warnings_validate]

end Acceptor
