import Acceptor.Proofs.Building.Assembly

/-! # Details in another order

What a builder is told of one part of an automaton does not touch what it has been told of the
others, so details on different parts may change places (`add_comm`). By induction a detail may be
told before or after any others of which none contends with it (`addAll_move`), and where a part is
not a list, all details on it but the last may be left out (`addAll_replaced`). Whatever stands
before and behind them, the automaton is the same (`details_commute`).
-/

namespace Acceptor

namespace Builder

/-- What a detail can be about. -/
inductive Subject
  | id
  | description
  | alphabet
  | states
  | edges
  | accepting
  | tokens
  | strictness
deriving DecidableEq, Repr

/-- What details are added to; anything else they replace. -/
def Subject.grows : Subject → Bool
  | states | edges | accepting => true
  | _ => false

namespace Detail

def subject : Detail → Subject
  | id _ => .id
  | description _ => .description
  | alphabet _ => .alphabet
  | states _ => .states
  | labelledState .. => .states
  | edges _ => .edges
  | accepting _ => .accepting
  | tokens _ => .tokens
  | strict => .strictness

/-- Both add to the same list or set the same part. Being strict is not set to one thing or the
other. -/
def Contends (first second : Detail) : Prop :=
  first.subject = second.subject ∧ first.subject ≠ .strictness

/-- Leaves it open whether the builder is strict. -/
def isLoose (detail : Detail) : Bool := detail.subject != .strictness

theorem eq_strict_of_subject {detail : Detail} (strict : detail.subject = .strictness) :
    detail = .strict := by
  cases detail <;> cases strict
  rfl

end Detail

/-! ## Two details -/

/-- Details on different parts change different fields. -/
theorem add_comm {first second : Detail} (apart : ¬ first.Contends second) (builder : Builder) :
    (builder.add first).add second = (builder.add second).add first := by
  by_cases same : first.subject = second.subject
  · have strict : first.subject = .strictness := by
      by_contra other
      exact apart ⟨same, other⟩
    rw [Detail.eq_strict_of_subject strict, Detail.eq_strict_of_subject (same.symm.trans strict)]
  · cases first <;> cases second <;> first | rfl | exact absurd rfl same

/-- What is replaced at once need not have been told. -/
theorem add_add_of_replaced {first last : Detail} (same : first.subject = last.subject)
    (replaced : last.subject.grows = false) (builder : Builder) :
    (builder.add first).add last = builder.add last := by
  cases first <;> cases last <;> cases same <;> cases replaced <;> rfl

/-- Two lists of the same kind may be told as one. -/
theorem add_add_states (builder : Builder) (ids others : List StateId) :
    (builder.add (.states ids)).add (.states others) = builder.add (.states (ids ++ others)) := by
  simp only [add, List.map_append, List.append_assoc]

theorem add_add_edges (builder : Builder) (edges others : List Edge) :
    (builder.add (.edges edges)).add (.edges others) = builder.add (.edges (edges ++ others)) := by
  simp only [add, List.append_assoc]

theorem add_add_accepting (builder : Builder) (ids others : List StateId) :
    (builder.add (.accepting ids)).add (.accepting others) =
      builder.add (.accepting (ids ++ others)) := by
  simp only [add, List.append_assoc]

/-! ## Sequences of details -/

/-- A detail may be told before or after others that do not contend with it. -/
theorem addAll_move {detail : Detail} {others : List Detail}
    (apart : ∀ other ∈ others, ¬ detail.Contends other) (builder : Builder) :
    builder.addAll (detail :: others) = builder.addAll (others ++ [detail]) := by
  induction others generalizing builder with
  | nil => rfl
  | cons other rest ih =>
    obtain ⟨here, later⟩ := List.forall_mem_cons.mp apart
    calc builder.addAll (detail :: other :: rest)
      _ = ((builder.add other).add detail).addAll rest :=
          congrArg (fun told => told.addAll rest) (add_comm here builder)
      _ = builder.addAll (other :: rest ++ [detail]) := ih later (builder.add other)

/-- On its way to the detail that replaces it a detail passes others, unless one of them has
replaced it before. -/
theorem addAll_replaced {first last : Detail} (same : first.subject = last.subject)
    (replaced : last.subject.grows = false) (between : List Detail) (builder : Builder) :
    builder.addAll (first :: between ++ [last]) = builder.addAll (between ++ [last]) := by
  induction between generalizing builder with
  | nil => exact add_add_of_replaced same replaced builder
  | cons other rest ih =>
    by_cases contends : first.Contends other
    · have again : other.subject.grows = false := by rwa [← contends.1, same]
      exact congrArg (fun told => told.addAll (rest ++ [last]))
        (add_add_of_replaced contends.1 again builder)
    · calc builder.addAll (first :: other :: rest ++ [last])
        _ = ((builder.add other).add first).addAll (rest ++ [last]) :=
            congrArg (fun told => told.addAll (rest ++ [last])) (add_comm contends builder)
        _ = builder.addAll (other :: rest ++ [last]) := ih (builder.add other)

/-- For a builder that is strict in the end all other demands to be so are idle. -/
theorem addAll_filter_isLoose (details : List Detail) (builder : Builder) :
    (builder.addAll (details.filter Detail.isLoose)).add .strict =
      (builder.addAll details).add .strict := by
  induction details using List.reverseRecOn with
  | nil => rfl
  | append_singleton earlier last ih =>
    rw [List.filter_append, addAll_append, addAll_append]
    by_cases loose : last.isLoose = true
    · have apart : ¬ last.Contends .strict := fun contends => contends.2 contends.1
      rw [List.filter_cons_of_pos loose, List.filter_nil]
      change ((builder.addAll (earlier.filter Detail.isLoose)).add last).add .strict =
        ((builder.addAll earlier).add last).add .strict
      rw [add_comm apart, ih, add_comm apart]
    · have strict : last.subject = .strictness := by simpa [Detail.isLoose] using loose
      rw [List.filter_cons_of_neg loose, List.filter_nil]
      change (builder.addAll (earlier.filter Detail.isLoose)).add .strict =
        ((builder.addAll earlier).add last).add .strict
      rw [ih, add_add_of_replaced strict rfl]

/-- A builder that has been told to be strict need not be told again. -/
theorem addAll_add_strict {details : List Detail} (given : .strict ∈ details)
    (builder : Builder) : (builder.addAll details).add .strict = builder.addAll details := by
  obtain ⟨before, after, rfl⟩ := List.append_of_mem given
  have apart : ∀ other ∈ after, ¬ Detail.strict.Contends other := fun _ _ both => both.2 rfl
  rw [addAll_append]
  calc ((builder.addAll before).addAll (.strict :: after)).add .strict
    _ = (builder.addAll before).addAll (.strict :: after ++ [.strict]) := by
        rw [addAll_append _ (.strict :: after)]
        rfl
    _ = (builder.addAll before).addAll (after ++ [.strict]) := addAll_replaced rfl rfl after _
    _ = (builder.addAll before).addAll (.strict :: after) := (addAll_move apart _).symm

/-- Where a builder is told to be strict does not matter, nor how often. -/
theorem addAll_eq_of_filter_isLoose {details others : List Detail}
    (loose : details.filter Detail.isLoose = others.filter Detail.isLoose)
    (strict : .strict ∈ details ↔ .strict ∈ others) (builder : Builder) :
    builder.addAll details = builder.addAll others := by
  by_cases given : .strict ∈ details
  · rw [← addAll_add_strict given, ← addAll_add_strict (strict.mp given),
      ← addAll_filter_isLoose details, ← addAll_filter_isLoose others, loose]
  · have unmoved {told : List Detail} (absent : .strict ∉ told) :
        told.filter Detail.isLoose = told := by
      refine List.filter_eq_self.mpr fun detail member => bne_iff_ne.mpr fun isStrict => ?_
      exact absent (Detail.eq_strict_of_subject isStrict ▸ member)
    rw [← unmoved given, ← unmoved (mt strict.mpr given), loose]

/-- Details that no builder tells apart may stand for each other among any others. -/
theorem assembled_congr {name : String} {initial : StateId} (details others : List Detail)
    (same : ∀ builder : Builder, builder.addAll details = builder.addAll others)
    (before after : List Detail) :
    assembled name (before ++ (details ++ after)) initial =
      assembled name (before ++ (others ++ after)) initial := by
  simp only [assembled, addAll_append, same]

end Builder

open Builder

/-- The automaton of a sequence of details does not depend on the order of two neighbours unless they
add to the same list or set the same part. Neighbours that add to the same list with several entries
each may be told as one. Of several details that set the same part the last one counts, wherever the
others stand. Sequences that differ only in where and how often the builder is told to be strict give
the same automaton, and so transitions are called the same whether the source of their names is given
before or after them. -/
theorem details_commute (name : String) (initial : StateId) (before after : List Detail) :
    (∀ first second : Detail, ¬ first.Contends second →
      assembled name (before ++ first :: second :: after) initial =
        assembled name (before ++ second :: first :: after) initial) ∧
    (∀ ids others, assembled name (before ++ .states ids :: .states others :: after) initial =
      assembled name (before ++ .states (ids ++ others) :: after) initial) ∧
    (∀ edges others, assembled name (before ++ .edges edges :: .edges others :: after) initial =
      assembled name (before ++ .edges (edges ++ others) :: after) initial) ∧
    (∀ ids others, assembled name (before ++ .accepting ids :: .accepting others :: after) initial =
      assembled name (before ++ .accepting (ids ++ others) :: after) initial) ∧
    (∀ first last : Detail, first.subject = last.subject → last.subject.grows = false →
      ∀ between, assembled name (before ++ first :: between ++ last :: after) initial =
        assembled name (before ++ between ++ last :: after) initial) ∧
    (∀ details others : List Detail,
      details.filter Detail.isLoose = others.filter Detail.isLoose →
      (.strict ∈ details ↔ .strict ∈ others) →
        assembled name details initial = assembled name others initial) ∧
    ∀ tokens between, (∀ other ∈ between, other.subject ≠ .tokens) →
      (assembled name (before ++ .tokens tokens :: between ++ after) initial).transitions =
        (assembled name (before ++ between ++ .tokens tokens :: after) initial).transitions := by
  refine ⟨?_, ?_, ?_, ?_, ?_, ?_, ?_⟩
  · intro first second apart
    exact assembled_congr [first, second] [second, first] (add_comm apart) before after
  · intro ids others
    exact assembled_congr [.states ids, .states others] [.states (ids ++ others)]
      (fun builder => builder.add_add_states ids others) before after
  · intro edges others
    exact assembled_congr [.edges edges, .edges others] [.edges (edges ++ others)]
      (fun builder => builder.add_add_edges edges others) before after
  · intro ids others
    exact assembled_congr [.accepting ids, .accepting others] [.accepting (ids ++ others)]
      (fun builder => builder.add_add_accepting ids others) before after
  · intro first last same replaced between
    have idle := @assembled_congr name initial (first :: between ++ [last]) (between ++ [last])
      (addAll_replaced same replaced between) before after
    simpa only [List.append_assoc, List.cons_append, List.nil_append] using idle
  · intro details others loose strict
    rw [assembled, assembled, addAll_eq_of_filter_isLoose loose strict]
  · intro tokens between others
    have apart : ∀ other ∈ between, ¬ (Detail.tokens tokens).Contends other :=
      fun other member contends => others other member contends.1.symm
    have moved := @assembled_congr name initial (.tokens tokens :: between)
      (between ++ [.tokens tokens]) (addAll_move apart) before after
    simp only [List.append_assoc, List.cons_append, List.nil_append] at moved ⊢
    rw [moved]

/-- The source of names that is replaced may be left out, and the one that is used may be given after
the edges that it names. -/
theorem details_commute_pieces :
    (¬ Detail.strict.Contends (.id "p") ∧
      assembled "pieced" (.strict :: .id "p" :: pieces) ⟨"s"⟩ =
        assembled "pieced" (.id "p" :: .strict :: pieces) ⟨"s"⟩) ∧
    ((Detail.tokens (.withStem "e")).subject = (Detail.tokens (.withStem "f")).subject ∧
      (Detail.tokens (.withStem "f")).subject.grows = false ∧
      assembled "pieced" pieces ⟨"s"⟩ = assembled "pieced" (pieces.eraseIdx 1) ⟨"s"⟩) ∧
    ((.strict :: pieces).filter Detail.isLoose =
        (pieces ++ [Detail.strict, .strict]).filter Detail.isLoose ∧
      (Detail.strict ∈ Detail.strict :: pieces ↔ Detail.strict ∈ pieces ++ [Detail.strict, .strict]) ∧
      assembled "pieced" (.strict :: pieces) ⟨"s"⟩ =
        assembled "pieced" (pieces ++ [Detail.strict, .strict]) ⟨"s"⟩) ∧
    (∀ other ∈ pieces.drop 6, other.subject ≠ .tokens) ∧
      (assembled "pieced" pieces ⟨"s"⟩).transitions =
        (assembled "pieced" (pieces.eraseIdx 5 ++ [.tokens (.withStem "f")]) ⟨"s"⟩).transitions := by
  have apart : ¬ Detail.strict.Contends (.id "p") := fun both => both.2 rfl
  have loose : (Detail.strict :: pieces).filter Detail.isLoose =
      (pieces ++ [Detail.strict, .strict]).filter Detail.isLoose := rfl
  have strict : Detail.strict ∈ Detail.strict :: pieces ↔
      Detail.strict ∈ pieces ++ [Detail.strict, .strict] := by
    simp
  have unnamed : ∀ other ∈ pieces.drop 6, other.subject ≠ .tokens := by
    simp [pieces, Detail.subject]
  refine ⟨⟨apart, ?_⟩, ⟨rfl, rfl, ?_⟩, ⟨loose, strict, ?_⟩, unnamed, ?_⟩
  · exact (details_commute "pieced" ⟨"s"⟩ [] pieces).1 _ _ apart
  · exact (details_commute "pieced" ⟨"s"⟩ (pieces.take 1) (pieces.drop 6)).2.2.2.2.1
      (.tokens (.withStem "e")) (.tokens (.withStem "f")) rfl rfl ((pieces.drop 2).take 3)
  · exact (details_commute "pieced" ⟨"s"⟩ [] []).2.2.2.2.2.1 _ _ loose strict
  · exact (details_commute "pieced" ⟨"s"⟩ (pieces.take 5) []).2.2.2.2.2.2
      (.withStem "f") (pieces.drop 6) unnamed

/-- States are listed in the order in which they were declared. -/
example : (assembled "d" [.states [⟨"a"⟩], .states [⟨"b"⟩]] ⟨"a"⟩).stateIds ≠
    (assembled "d" [.states [⟨"b"⟩], .states [⟨"a"⟩]] ⟨"a"⟩).stateIds := by decide

end Acceptor
