import Acceptor.Proofs.Occurrence
import Mathlib.Data.List.Perm.Lattice

/-! # Lists in another order

What is said of a list item by item need not depend on the order of the list, even where an item
sees the items before it. First occurrences and repetitions are the same ones in any order
(`firstOccurrences_perm`, `repetitions_perm`). Where an item sees only those before it that have its
own key, items of different keys may change places (`flatMapWithEarlier_perm`).
-/

namespace List

variable {α β κ : Type}

section Keys

variable [DecidableEq κ] {key : α → κ} {shared : κ} {item : α} {items others : List α}

/-- The items of one key, in their order. -/
def ofKey (key : α → κ) (shared : κ) (items : List α) : List α :=
  items.filter fun item => key item == shared

theorem ofKey_cons_of_eq (same : key item = shared) (items : List α) :
    (item :: items).ofKey key shared = item :: items.ofKey key shared :=
  filter_cons_of_pos (beq_iff_eq.mpr same)

theorem ofKey_cons_of_ne (different : key item ≠ shared) (items : List α) :
    (item :: items).ofKey key shared = items.ofKey key shared :=
  filter_cons_of_neg (mt beq_iff_eq.mp different)

theorem mem_ofKey : item ∈ items.ofKey key shared ↔ item ∈ items ∧ key item = shared := by
  rw [ofKey, mem_filter, beq_iff_eq]

theorem ofKey_ofKey (key : α → κ) (shared : κ) (items : List α) :
    (items.ofKey key shared).ofKey key shared = items.ofKey key shared := by
  simp only [ofKey, filter_filter, Bool.and_self]

/-- Lists in which the items of each key follow each other alike have the same items. -/
theorem perm_of_ofKey_eq [DecidableEq α]
    (alike : ∀ shared, others.ofKey key shared = items.ofKey key shared) : others.Perm items := by
  rw [perm_iff_count]
  intro item
  have kept (listed : List α) : (listed.ofKey key (key item)).count item = listed.count item :=
    count_filter (beq_self_eq_true (key item))
  rw [← kept others, alike, kept items]

/-- An item may be put in front of items of other keys, for each key sees as much as before. -/
theorem ofKey_append_cons {before : List α} (behind : List α)
    (apart : ∀ other ∈ before, key other ≠ key item) (shared : κ) :
    (before ++ item :: behind).ofKey key shared =
      (item :: (before ++ behind)).ofKey key shared := by
  by_cases same : key item = shared
  · have noneBefore : before.ofKey key shared = [] := by
      refine eq_nil_iff_forall_not_mem.mpr fun other member => ?_
      obtain ⟨listed, kept⟩ := mem_ofKey.mp member
      exact apart other listed (kept.trans same.symm)
    rw [ofKey_cons_of_eq same, ofKey, filter_append, ofKey, filter_append]
    change before.ofKey key shared ++ (item :: behind).ofKey key shared =
      item :: (before.ofKey key shared ++ behind.ofKey key shared)
    rw [noneBefore, ofKey_cons_of_eq same, nil_append, nil_append]
  · rw [ofKey_cons_of_ne same, ofKey, filter_append, ofKey, filter_append]
    exact congrArg _ (ofKey_cons_of_ne same behind)

/-- What is reported of an item depends on those before it that have its key, and on no others. -/
def ReportsByKey (key : α → κ) (report : List α → α → List β) : Prop :=
  ∀ earlier item, report (earlier.ofKey key (key item)) item = report earlier item

namespace ReportsByKey

variable {report : List α → α → List β}

theorem eq_of_ofKey_eq (byKey : ReportsByKey key report) {first second : List α}
    (alike : first.ofKey key (key item) = second.ofKey key (key item)) :
    report first item = report second item := by
  rw [← byKey first, alike, byKey second]

/-- One more item in front of all others may be seen or not. -/
theorem behind (byKey : ReportsByKey key report) (item : α) :
    ReportsByKey key fun earlier => report (item :: earlier) := by
  intro earlier other
  refine byKey.eq_of_ofKey_eq ?_
  by_cases same : key item = key other
  · rw [ofKey_cons_of_eq same, ofKey_cons_of_eq same, ofKey_ofKey]
  · rw [ofKey_cons_of_ne same, ofKey_cons_of_ne same, ofKey_ofKey]

/-- Two neighbours of different keys do not see each other, and no other item sees both. -/
theorem flatMapWithEarlier_swap (byKey : ReportsByKey key report) {first second : α}
    (different : key first ≠ key second) (rest : List α) :
    ((first :: second :: rest).flatMapWithEarlier report).Perm
      ((second :: first :: rest).flatMapWithEarlier report) := by
  have unseen : report [first] second = report [] second :=
    byKey.eq_of_ofKey_eq (ofKey_cons_of_ne different [])
  have unseeing : report [second] first = report [] first :=
    byKey.eq_of_ofKey_eq (ofKey_cons_of_ne different.symm [])
  have onward : (fun earlier => report (first :: second :: earlier)) =
      fun earlier => report (second :: first :: earlier) := by
    funext earlier item
    have apart : ∀ other ∈ [first], key other ≠ key second := by simpa using different
    exact byKey.eq_of_ofKey_eq (ofKey_append_cons earlier apart (key item))
  simp only [flatMapWithEarlier_cons, unseen, unseeing, onward]
  exact perm_append_comm_assoc ..

/-- An item may be put in front of items of other keys. -/
theorem flatMapWithEarlier_move (byKey : ReportsByKey key report) {before behind : List α}
    (apart : ∀ other ∈ before, key other ≠ key item) :
    ((before ++ item :: behind).flatMapWithEarlier report).Perm
      ((item :: (before ++ behind)).flatMapWithEarlier report) := by
  induction before generalizing report with
  | nil => exact .refl _
  | cons first before ih =>
    obtain ⟨different, apart⟩ := forall_mem_cons.mp apart
    have later := ih (byKey.behind first) apart
    calc (first :: (before ++ item :: behind)).flatMapWithEarlier report
      _ = report [] first ++ (before ++ item :: behind).flatMapWithEarlier
            fun earlier => report (first :: earlier) := flatMapWithEarlier_cons ..
      _ ~ report [] first ++ (item :: (before ++ behind)).flatMapWithEarlier
            fun earlier => report (first :: earlier) := later.append_left _
      _ = (first :: item :: (before ++ behind)).flatMapWithEarlier report :=
          (flatMapWithEarlier_cons ..).symm
      _ ~ (item :: first :: (before ++ behind)).flatMapWithEarlier report :=
          byKey.flatMapWithEarlier_swap different _

/-- Two lists in which the items of each key follow each other alike have the same reports. -/
theorem flatMapWithEarlier_perm (byKey : ReportsByKey key report)
    (alike : ∀ shared, others.ofKey key shared = items.ofKey key shared) :
    (others.flatMapWithEarlier report).Perm (items.flatMapWithEarlier report) := by
  induction items generalizing others report with
  | nil =>
    have empty : others = [] := by
      refine eq_nil_iff_forall_not_mem.mpr fun item member => ?_
      have kept := mem_ofKey.mpr ⟨member, (rfl : key item = key item)⟩
      rw [alike] at kept
      exact not_mem_nil kept
    rw [empty]
  | cons item rest ih =>
    -- In the other list too the item is the first of its key, so it may be put in front there.
    have here := (alike (key item)).trans (ofKey_cons_of_eq rfl rest)
    obtain ⟨before, behind, rfl, apart, -, -⟩ := filter_eq_cons_iff.mp here
    have apart : ∀ other ∈ before, key other ≠ key item := by simpa using apart
    have onward : ∀ shared, (before ++ behind).ofKey key shared = rest.ofKey key shared := by
      intro shared
      have all := alike shared
      rw [ofKey_append_cons behind apart] at all
      by_cases same : key item = shared
      · rw [ofKey_cons_of_eq same, ofKey_cons_of_eq same] at all
        exact (cons_eq_cons.mp all).2
      · rwa [ofKey_cons_of_ne same, ofKey_cons_of_ne same] at all
    refine (byKey.flatMapWithEarlier_move apart).trans ?_
    rw [flatMapWithEarlier_cons, flatMapWithEarlier_cons]
    exact (ih (byKey.behind item) onward).append_left _

end ReportsByKey

end Keys

section Repetitions

variable [DecidableEq α] {items others : List α}

theorem firstOccurrences_perm (perm : others.Perm items) :
    others.firstOccurrences.Perm items.firstOccurrences := by
  rw [perm_ext_iff_of_nodup (nodup_firstOccurrences _) (nodup_firstOccurrences _)]
  intro item
  rw [mem_firstOccurrences, mem_firstOccurrences, perm.mem_iff]

/-- Of all places of an item only the first one is no repetition. -/
theorem count_repetitions (items : List α) (item : α) :
    items.repetitions.count item = items.count item - 1 := by
  induction items using reverseRecOn with
  | nil => rfl
  | append_singleton items last ih =>
    rw [repetitions, flatMapWithEarlier_concat, ← repetitions, count_append, count_append, ih]
    by_cases same : last = item
    · subst same
      by_cases known : last ∈ items
      · have present := count_pos_iff.mpr known
        rw [if_pos known, count_singleton_self]
        omega
      · rw [if_neg known, count_nil, count_singleton_self, count_eq_zero_of_not_mem known]
    · have elsewhere : [last].count item = 0 :=
        count_eq_zero_of_not_mem (mt mem_singleton.mp (Ne.symm same))
      have unreported : (if last ∈ items then [last] else []).count item = 0 := by
        split
        · exact elsewhere
        · rfl
      rw [unreported, elsewhere]
      rfl

theorem repetitions_perm (perm : others.Perm items) :
    others.repetitions.Perm items.repetitions := by
  rw [perm_iff_count]
  intro item
  rw [count_repetitions, count_repetitions, perm.count_eq]

end Repetitions

end List
