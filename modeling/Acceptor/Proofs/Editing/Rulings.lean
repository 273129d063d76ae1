import Acceptor.Proofs.Editing.Effect
import Acceptor.Proofs.Run.Judgement
import Mathlib.Data.List.Induction

/-! # Ruling on acceptance

Decisions whether a state is to accept, made one after another. Of several decisions on one state
the last counts (`isAccepting_ruled`); a state that is decided on is listed once at most, at the
place of that decision, and the others stay listed as they were (`ruled_eq`). Acceptance is asked at
the end of a run only, so no decision changes where runs go, and a verdict changes exactly where a
run comes to its end in a state whose acceptance has changed (`rulings_decide_acceptance`).
-/

namespace Acceptor

/-- A decision whether a state is to accept. -/
structure Ruling where
  state : StateId
  accepts : Bool
deriving DecidableEq, Repr

namespace Ruling

/-- The states that are decided on. -/
def concerned (rulings : List Ruling) : List StateId := rulings.map Ruling.state

/-- What the last decision on a state says. -/
def last? (rulings : List Ruling) (state : StateId) : Option Bool :=
  (rulings.filter fun ruling => ruling.state = state).getLast?.map Ruling.accepts

/-- The states that are to accept by the last decision on them, in the order of these decisions. -/
def admitted : List Ruling → List StateId
  | [] => []
  | ruling :: later =>
    (if ruling.accepts ∧ ruling.state ∉ concerned later then [ruling.state] else []) ++
      admitted later

theorem admitted_subset (rulings : List Ruling) : admitted rulings ⊆ concerned rulings := by
  induction rulings with
  | nil => exact List.Subset.refl _
  | cons ruling later ih =>
    refine List.append_subset.mpr ⟨?_, List.Subset.trans ih (List.subset_cons_self ..)⟩
    split
    · exact List.cons_subset.mpr ⟨List.mem_cons_self, List.nil_subset _⟩
    · exact List.nil_subset _

theorem nodup_admitted (rulings : List Ruling) : (admitted rulings).Nodup := by
  induction rulings with
  | nil => exact .nil
  | cons ruling later ih =>
    rw [admitted]
    split
    · next final =>
      exact List.nodup_cons.mpr ⟨fun again => final.2 (admitted_subset later again), ih⟩
    · exact ih

end Ruling

open Ruling

namespace Verdict

/-- The verdict on the same run where other states accept. -/
def revised (verdict : Verdict) (accepting : List StateId) : Verdict :=
  { verdict with
    outcome := match verdict.outcome with
      | .failed failure => .failed failure
      | _ => if verdict.state ∈ accepting then .accepted else .rejected verdict.state }

variable {verdict : Verdict}

theorem outcome_revised_eq_failed_iff {accepting : List StateId} {failure : RunFailure} :
    (verdict.revised accepting).outcome = .failed failure ↔ verdict.outcome = .failed failure := by
  cases found : verdict.outcome with
  | failed other => simp [revised, found]
  | _ => by_cases accepts : verdict.state ∈ accepting <;> simp [revised, found, accepts]

/-- If nothing has failed, the state decides. -/
theorem outcome_revised (accepting : List StateId) (completed : verdict.failure? = none) :
    (verdict.revised accepting).outcome =
      if verdict.state ∈ accepting then .accepted else .rejected verdict.state := by
  cases found : verdict.outcome with
  | failed other => simp [failure?, found] at completed
  | _ => simp [revised, found]

/-- Acceptance of other states than the last one makes no difference, nor does that one if the run
has failed there. -/
theorem revised_eq_revised_iff {first second : List StateId} :
    verdict.revised first = verdict.revised second ↔
      (verdict.failure? = none → (verdict.state ∈ first ↔ verdict.state ∈ second)) := by
  cases found : verdict.outcome with
  | failed other => simp [revised, failure?, found]
  | _ =>
    by_cases inFirst : verdict.state ∈ first <;> by_cases inSecond : verdict.state ∈ second <;>
      simp [revised, failure?, found, inFirst, inSecond]

end Verdict

namespace Automaton

/-- The automaton after one decision after another. -/
def ruled (automaton : Automaton) (rulings : List Ruling) : Automaton :=
  rulings.foldl (fun current ruling => current.setAccepting ruling.state ruling.accepts) automaton

theorem ruled_concat (automaton : Automaton) (earlier : List Ruling) (last : Ruling) :
    automaton.ruled (earlier ++ [last]) =
      (automaton.ruled earlier).setAccepting last.state last.accepts :=
  List.foldl_append ..

/-- Who is not decided on stays in front, in the old order and as often as before. -/
theorem ruled_eq (automaton : Automaton) (rulings : List Ruling) :
    automaton.ruled rulings = { automaton with
      accepting := (automaton.accepting.filter fun state => state ∉ concerned rulings) ++
        admitted rulings } := by
  induction rulings generalizing automaton with
  | nil => simp [ruled, concerned, admitted]
  | cons ruling later ih =>
    have others : (automaton.accepting.filter fun state => state ∉ concerned (ruling :: later)) =
        (automaton.accepting.filter fun state => state ≠ ruling.state).filter fun state =>
          state ∉ concerned later := by
      rw [List.filter_filter]
      refine List.filter_congr fun state _ => ?_
      rw [Bool.eq_iff_iff, Bool.and_eq_true, decide_eq_true_iff, decide_eq_true_iff,
        decide_eq_true_iff, concerned, List.map_cons, List.mem_cons, not_or, and_comm]
      rfl
    have itself : ((if ruling.accepts then [ruling.state] else []).filter fun state =>
        state ∉ concerned later) =
          if ruling.accepts ∧ ruling.state ∉ concerned later then [ruling.state] else [] := by
      by_cases accepts : ruling.accepts <;> by_cases again : ruling.state ∈ concerned later <;>
        simp [accepts, again]
    change (automaton.setAccepting ruling.state ruling.accepts).ruled later = _
    rw [ih, setAccepting_eq, List.filter_append, itself, admitted, others, List.append_assoc]

/-- The last decision on a state counts, and where there is none, nothing has changed. -/
theorem isAccepting_ruled (automaton : Automaton) (rulings : List Ruling) (state : StateId) :
    (automaton.ruled rulings).isAccepting state =
      (last? rulings state).getD (automaton.isAccepting state) := by
  induction rulings using List.reverseRecOn with
  | nil => rfl
  | append_singleton earlier last ih =>
    rw [ruled_concat, isAccepting_setAccepting, last?, List.filter_append, List.getLast?_append]
    by_cases same : state = last.state
    · simp [same]
    · simpa [same, Ne.symm same, last?] using ih

/-- A run goes where it goes, whoever accepts. -/
theorem value_judge_withAccepting (automaton : Automaton) (accepting : List StateId)
    (word : Word) :
    (judge { automaton with accepting } word).value =
      (automaton.judge word).value.revised accepting := by
  by_cases spelled : automaton.alphabet.Spells word
  · have sameWord : Alphabet.Spells (alphabet { automaton with accepting }) word := spelled
    rw [value_judge_of_spells spelled, value_judge_of_spells sameWord, Verdict.revised]
    congr 1
    change outcomeAt { automaton with accepting } (automaton.stop word) = _
    cases automaton.stop word with
    | mk state left =>
      cases left with
      | cons symbol rest => rfl
      | nil =>
        by_cases accepts : state ∈ automaton.accepting <;> simp [outcomeAt, accepts]
  · have sameWord : ¬ Alphabet.Spells (alphabet { automaton with accepting }) word := spelled
    rw [value_judge_of_not_spells spelled, value_judge_of_not_spells sameWord]
    rfl

theorem value_judge_ruled (automaton : Automaton) (rulings : List Ruling) (word : Word) :
    ((automaton.ruled rulings).judge word).value =
      (automaton.judge word).value.revised (automaton.ruled rulings).accepting := by
  rw [ruled_eq]
  exact automaton.value_judge_withAccepting _ word

/-- A verdict changes only with the acceptance of the state where its run has come to the end. -/
theorem value_judge_ruled_eq_iff {automaton : Automaton} {rulings : List Ruling} {word : Word} :
    ((automaton.ruled rulings).judge word).value = (automaton.judge word).value ↔
      ((automaton.judge word).value.failure? = none →
        (automaton.ruled rulings).isAccepting (automaton.judge word).value.state =
          automaton.isAccepting (automaton.judge word).value.state) := by
  have unrevised : (automaton.judge word).value.revised automaton.accepting =
      (automaton.judge word).value :=
    (automaton.value_judge_withAccepting automaton.accepting word).symm
  have unchanged := @Verdict.revised_eq_revised_iff (automaton.judge word).value
    (automaton.ruled rulings).accepting automaton.accepting
  rwa [unrevised, ← value_judge_ruled, ← isAccepting_eq_true_iff, ← isAccepting_eq_true_iff,
    ← Bool.eq_iff_iff] at unchanged

/-- Who is decided on is listed at the place of the last decision or not at all. -/
theorem count_accepting_ruled_le_one (automaton : Automaton) {rulings : List Ruling}
    {state : StateId} (decided : state ∈ concerned rulings) :
    (automaton.ruled rulings).accepting.count state ≤ 1 := by
  have dropped : (automaton.accepting.filter fun other =>
      other ∉ concerned rulings).count state = 0 :=
    List.count_eq_zero.mpr fun kept => of_decide_eq_true (List.mem_filter.mp kept).2 decided
  rw [ruled_eq, List.count_append, dropped, Nat.zero_add]
  exact List.nodup_iff_count_le_one.mp (nodup_admitted rulings) state

theorem filter_accepting_ruled (automaton : Automaton) (rulings : List Ruling) :
    ((automaton.ruled rulings).accepting.filter fun state => state ∉ concerned rulings) =
      automaton.accepting.filter fun state => state ∉ concerned rulings := by
  have placed : ((admitted rulings).filter fun state => state ∉ concerned rulings) = [] := by
    refine List.filter_eq_nil_iff.mpr fun state admits => ?_
    simpa using admitted_subset rulings admits
  rw [ruled_eq, List.filter_append, List.filter_filter, placed, List.append_nil]
  simp only [Bool.and_self]

end Automaton

/-- However an automaton is ruled on, nothing but acceptance changes. A state accepts as the last
decision on it says, or as before if there is none; it is listed once at most if it is decided on,
and otherwise as often as before and in the old order among its like. Every word takes the same path
to the same state and leaves the same part unread, with the same failure if there is one. If there
is none, acceptance of that state decides, so a verdict changes exactly where a run comes to its end
in a state that accepts now and did not before, or the other way round. -/
theorem rulings_decide_acceptance (automaton : Automaton) (rulings : List Ruling) :
    automaton.ruled rulings =
      { automaton with accepting := (automaton.ruled rulings).accepting } ∧
    (∀ state, (automaton.ruled rulings).isAccepting state =
      (last? rulings state).getD (automaton.isAccepting state)) ∧
    (∀ state ∈ concerned rulings, (automaton.ruled rulings).accepting.count state ≤ 1) ∧
    ((automaton.ruled rulings).accepting.filter fun state => state ∉ concerned rulings) =
      (automaton.accepting.filter fun state => state ∉ concerned rulings) ∧
    ∀ word,
      ((automaton.ruled rulings).judge word).value.path = (automaton.judge word).value.path ∧
      ((automaton.ruled rulings).judge word).value.state = (automaton.judge word).value.state ∧
      ((automaton.ruled rulings).judge word).value.remaining =
        (automaton.judge word).value.remaining ∧
      (∀ failure, ((automaton.ruled rulings).judge word).value.outcome = .failed failure ↔
        (automaton.judge word).value.outcome = .failed failure) ∧
      ((automaton.judge word).value.failure? = none →
        ((automaton.ruled rulings).judge word).value.outcome =
          if (automaton.ruled rulings).isAccepting (automaton.judge word).value.state
          then .accepted else .rejected (automaton.judge word).value.state) ∧
      (((automaton.ruled rulings).judge word).value ≠ (automaton.judge word).value ↔
        (automaton.judge word).value.failure? = none ∧
        (automaton.ruled rulings).isAccepting (automaton.judge word).value.state ≠
          automaton.isAccepting (automaton.judge word).value.state) := by
  refine ⟨?_, automaton.isAccepting_ruled rulings,
    fun _ decided => automaton.count_accepting_ruled_le_one decided,
    automaton.filter_accepting_ruled rulings, fun word => ?_⟩
  · rw [automaton.ruled_eq]
  · have changes := @Automaton.value_judge_ruled_eq_iff automaton rulings word
    rw [ne_eq, changes, Classical.not_imp, automaton.value_judge_ruled]
    refine ⟨rfl, rfl, rfl, fun _ => Verdict.outcome_revised_eq_failed_iff, fun completed => ?_,
      Iff.rfl⟩
    rw [Verdict.outcome_revised _ completed]
    exact if_congr Automaton.isAccepting_eq_true_iff.symm rfl rfl

/-- An accepting state is listed twice. -/
def doubled : Automaton := { forked with accepting := [⟨"t"⟩, ⟨"s"⟩, ⟨"t"⟩] }

/-- Two states are decided on twice, and one that is not declared once. -/
def decisions : List Ruling :=
  [⟨⟨"t"⟩, false⟩, ⟨⟨"s"⟩, true⟩, ⟨⟨"t"⟩, true⟩, ⟨⟨"x"⟩, true⟩, ⟨⟨"s"⟩, false⟩]

/-- The word ends in the state that was listed twice, the empty one in the state that accepts no
longer. -/
theorem rulings_decide_acceptance_doubled :
    ⟨"t"⟩ ∈ concerned decisions ∧ (doubled.ruled decisions).accepting.count ⟨"t"⟩ ≤ 1 ∧
    (doubled.judge ['a']).value.failure? = none ∧
    ((doubled.ruled decisions).judge ['a']).value.outcome = .accepted ∧
    (doubled.judge []).value.failure? = none ∧
    ((doubled.ruled decisions).judge []).value.outcome = .rejected ⟨"s"⟩ := by
  obtain ⟨-, -, once, -, runs⟩ := rulings_decide_acceptance doubled decisions
  have decided : ⟨"t"⟩ ∈ concerned decisions := by decide
  have toT : (doubled.judge ['a']).value.failure? = none ∧
      (doubled.judge ['a']).value.state = ⟨"t"⟩ := by
    rw [Automaton.value_judge_of_spells (by decide)]
    decide
  have atS : (doubled.judge []).value.failure? = none ∧
      (doubled.judge []).value.state = ⟨"s"⟩ := by
    rw [Automaton.value_judge_of_spells (by decide)]
    decide
  refine ⟨decided, once _ decided, toT.1, ?_, atS.1, ?_⟩
  · rw [(runs ['a']).2.2.2.2.1 toT.1, toT.2]
    decide
  · rw [(runs []).2.2.2.2.1 atS.1, atS.2]
    decide

example : (doubled.ruled decisions).accepting = [⟨"t"⟩, ⟨"x"⟩] := by decide

end Acceptor
