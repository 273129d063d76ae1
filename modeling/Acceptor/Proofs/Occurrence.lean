import Mathlib.Data.List.Induction
import Mathlib.Data.List.Nodup

/-! # Lists whose items repeat

Identifiers and symbols are listed with repetitions, and what is said of an item often depends on
the items before it. `flatMapWithEarlier` lets every item see the items at earlier places. An item
counts as a first occurrence if it is at no earlier place and as a repetition otherwise. Removing
duplicates keeps the first occurrences (`firstOccurrences_eq_eraseDups`), each once and in the order
of the places where they first appear (`pairwise_idxOf_eraseDups_filter`).
-/

namespace List

variable {α β : Type}

/-- Joins what is reported of each item, the items before it being known. -/
def flatMapWithEarlier (report : List α → α → List β) (items : List α) : List β :=
  items.zipIdx.flatMap fun entry => report (items.take entry.2) entry.1

@[simp] theorem flatMapWithEarlier_nil (report : List α → α → List β) :
    [].flatMapWithEarlier report = [] := rfl

/-- Everything behind the first item sees that item in front of what it sees of the rest. -/
theorem flatMapWithEarlier_cons (report : List α → α → List β) (item : α) (rest : List α) :
    (item :: rest).flatMapWithEarlier report =
      report [] item ++ rest.flatMapWithEarlier fun earlier => report (item :: earlier) := by
  simp only [flatMapWithEarlier, zipIdx_cons', flatMap_cons, flatMap_map, take_zero, Prod.map_fst,
    Prod.map_snd, id_eq, take_succ_cons]

/-- The last item sees all others. -/
theorem flatMapWithEarlier_concat (report : List α → α → List β) (items : List α) (last : α) :
    (items ++ [last]).flatMapWithEarlier report =
      items.flatMapWithEarlier report ++ report items last := by
  induction items generalizing report with
  | nil => simp [flatMapWithEarlier_cons]
  | cons item rest ih =>
    rw [cons_append, flatMapWithEarlier_cons, flatMapWithEarlier_cons, ih, append_assoc]

theorem map_flatMapWithEarlier {γ : Type} (change : β → γ) (report : List α → α → List β)
    (items : List α) :
    (items.flatMapWithEarlier report).map change =
      items.flatMapWithEarlier fun earlier item => (report earlier item).map change :=
  map_flatMap

/-- What is reported of changed items is reported of the items, both places being changed. -/
theorem flatMapWithEarlier_map {γ : Type} (change : γ → α) (report : List α → α → List β)
    (items : List γ) :
    (items.map change).flatMapWithEarlier report =
      items.flatMapWithEarlier fun earlier item => report (earlier.map change) (change item) := by
  induction items generalizing report with
  | nil => rfl
  | cons item rest ih =>
    rw [map_cons, flatMapWithEarlier_cons, flatMapWithEarlier_cons, ih]
    rfl

/-- Whatever is reported is reported of some item in its place. -/
theorem mem_flatMapWithEarlier {report : List α → α → List β} {items : List α} {reported : β} :
    reported ∈ items.flatMapWithEarlier report ↔
      ∃ earlier item later, items = earlier ++ item :: later ∧ reported ∈ report earlier item := by
  induction items generalizing report with
  | nil => simp
  | cons first rest ih =>
    rw [flatMapWithEarlier_cons, mem_append, ih]
    constructor
    · rintro (atFirst | ⟨earlier, item, later, rfl, behind⟩)
      · exact ⟨[], first, rest, rfl, atFirst⟩
      · exact ⟨first :: earlier, item, later, rfl, behind⟩
    · rintro ⟨earlier, item, later, split, here⟩
      cases earlier with
      | nil =>
        obtain ⟨rfl, rfl⟩ := cons_eq_cons.mp split
        exact .inl here
      | cons other earlier =>
        obtain ⟨rfl, inRest⟩ := cons_eq_cons.mp split
        exact .inr ⟨earlier, item, later, inRest, here⟩

/-- Nothing is reported exactly if no item has anything reported of it in its place. -/
theorem flatMapWithEarlier_eq_nil_iff {report : List α → α → List β} {items : List α} :
    items.flatMapWithEarlier report = [] ↔
      ∀ earlier item later, items = earlier ++ item :: later → report earlier item = [] := by
  simp only [eq_nil_iff_forall_not_mem, mem_flatMapWithEarlier]
  constructor
  · intro nothing earlier item later split reported here
    exact nothing reported ⟨earlier, item, later, split, here⟩
  · rintro everywhere reported ⟨earlier, item, later, split, here⟩
    exact everywhere earlier item later split reported here

/-- A relation holds throughout a list if it holds between each item and those at earlier places. -/
theorem pairwise_iff_forall_earlier {related : α → α → Prop} {items : List α} :
    items.Pairwise related ↔
      ∀ earlier item later, items = earlier ++ item :: later →
        ∀ other ∈ earlier, related other item := by
  constructor
  · rintro ordered earlier item later rfl other member
    exact (pairwise_append.mp ordered).2.2 other member item mem_cons_self
  · intro everywhere
    induction items with
    | nil => exact .nil
    | cons first rest ih =>
      refine pairwise_cons.mpr ⟨?_, ?_⟩
      · intro item member
        obtain ⟨earlier, later, rfl⟩ := append_of_mem member
        exact everywhere (first :: earlier) item later rfl first mem_cons_self
      · apply ih
        intro earlier item later split other member
        exact everywhere (first :: earlier) item later (by rw [split, cons_append]) other
          (mem_cons_of_mem first member)

variable [DecidableEq α]

/-- The items that stand at no earlier place. -/
def firstOccurrences (items : List α) : List α :=
  items.flatMapWithEarlier fun earlier item => if item ∈ earlier then [] else [item]

/-- The items that stand at an earlier place too, once for every place but the first. -/
def repetitions (items : List α) : List α :=
  items.flatMapWithEarlier fun earlier item => if item ∈ earlier then [item] else []

/-- The accumulated items are left out from the start; each step adds its own item to them. -/
private theorem firstOccurrences_beyond (seen items : List α) :
    (items.flatMapWithEarlier fun earlier item => if item ∈ seen ++ earlier then [] else [item]) =
      (items.filter fun item => item ∉ seen).eraseDups := by
  induction items generalizing seen with
  | nil => rfl
  | cons item rest ih =>
    have later := ih (seen ++ [item])
    simp only [append_assoc, cons_append, nil_append] at later
    rw [flatMapWithEarlier_cons, later, append_nil]
    by_cases known : item ∈ seen
    · have same : (rest.filter fun other => other ∉ seen ++ [item]) =
          rest.filter fun other => other ∉ seen := by
        apply filter_congr
        intro other _
        by_cases equal : other = item <;> simp [equal, known]
      rw [if_pos known, same, filter_cons_of_neg (by simpa using known), nil_append]
    · have same : (rest.filter fun other => other ∉ seen ++ [item]) =
          (rest.filter fun other => other ∉ seen).filter fun other => !other == item := by
        rw [filter_filter]
        apply filter_congr
        intro other _
        by_cases equal : other = item <;> simp [equal]
      rw [if_neg known, same, filter_cons_of_pos (by simpa using known), eraseDups_cons]
      rfl

theorem firstOccurrences_eq_eraseDups (items : List α) :
    items.firstOccurrences = items.eraseDups := by
  simpa [firstOccurrences] using firstOccurrences_beyond [] items

theorem mem_firstOccurrences {items : List α} {item : α} :
    item ∈ items.firstOccurrences ↔ item ∈ items := by
  rw [firstOccurrences_eq_eraseDups, mem_eraseDups]

theorem firstOccurrences_concat (items : List α) (last : α) :
    (items ++ [last]).firstOccurrences =
      items.firstOccurrences ++ if last ∈ items then [] else [last] :=
  flatMapWithEarlier_concat ..

theorem nodup_firstOccurrences (items : List α) : items.firstOccurrences.Nodup := by
  induction items using reverseRecOn with
  | nil => exact .nil
  | append_singleton items last ih =>
    rw [firstOccurrences_concat]
    split
    · rwa [append_nil]
    · next new =>
      refine ih.append (nodup_singleton last) ?_
      simpa [mem_firstOccurrences] using new

variable {γ : Type} [DecidableEq γ]

/-- Items that keep their differences are first where they were first. -/
theorem firstOccurrences_map {change : α → γ} (injective : Function.Injective change)
    (items : List α) :
    (items.map change).firstOccurrences = items.firstOccurrences.map change := by
  rw [firstOccurrences, flatMapWithEarlier_map, firstOccurrences, map_flatMapWithEarlier]
  congr 1
  funext earlier item
  simp only [mem_map_of_injective injective, apply_ite (map change), map_nil, map_singleton]

theorem repetitions_map {change : α → γ} (injective : Function.Injective change)
    (items : List α) : (items.map change).repetitions = items.repetitions.map change := by
  rw [repetitions, flatMapWithEarlier_map, repetitions, map_flatMapWithEarlier]
  congr 1
  funext earlier item
  simp only [mem_map_of_injective injective, apply_ite (map change), map_nil, map_singleton]

theorem repetitions_eq_nil_iff {items : List α} : items.repetitions = [] ↔ items.Nodup := by
  rw [repetitions, flatMapWithEarlier_eq_nil_iff, Nodup, pairwise_iff_forall_earlier]
  refine forall₄_congr fun earlier item later _ => ?_
  rw [ite_eq_right_iff, imp_iff_not (cons_ne_nil item [])]
  constructor
  · rintro absent other member rfl
    exact absent member
  · intro distinct member
    exact distinct item member rfl

/-- Items that are new and do not repeat bring no repetition in. -/
theorem repetitions_append_of_new {items others : List α} (distinct : others.Nodup)
    (new : ∀ other ∈ others, other ∉ items) :
    (items ++ others).repetitions = items.repetitions := by
  induction others using reverseRecOn with
  | nil => rw [append_nil]
  | append_singleton others last ih =>
    obtain ⟨distinctOthers, -, apart⟩ := nodup_append.mp distinct
    rw [forall_mem_append, forall_mem_singleton] at new
    have unseen : last ∉ items ++ others := by
      rw [mem_append]
      rintro (before | among)
      · exact new.2 before
      · exact apart last among last mem_cons_self rfl
    rw [← append_assoc, repetitions, flatMapWithEarlier_concat, if_neg unseen, append_nil,
      ← repetitions, ih distinctOthers new.1]

/-- Dropping other items does not change which of two items appears first. -/
private theorem idxOf_lt_idxOf_of_filter {keep : α → Bool} {first second : α} (items : List α)
    (keepsSecond : keep second = true)
    (before : (items.filter keep).idxOf first < (items.filter keep).idxOf second) :
    items.idxOf first < items.idxOf second := by
  induction items with
  | nil => simp at before
  | cons item rest ih =>
    by_cases atFirst : item = first
    · subst item
      have different : first ≠ second := by
        rintro rfl
        exact Nat.lt_irrefl _ before
      simp [idxOf_cons, beq_eq_false_iff_ne.mpr different]
    by_cases atSecond : item = second
    · subst item
      simp [filter_cons_of_pos keepsSecond] at before
    · simp only [idxOf_cons, beq_eq_false_iff_ne.mpr atFirst, beq_eq_false_iff_ne.mpr atSecond,
        cond_false, Nat.add_lt_add_iff_right]
      apply ih
      cases kept : keep item with
      | false => simpa [kept] using before
      | true =>
        simpa [filter_cons_of_pos kept, idxOf_cons, beq_eq_false_iff_ne.mpr atFirst,
          beq_eq_false_iff_ne.mpr atSecond] using before

/-- Without duplicates the items stand in the order in which they first appeared; in particular no
item is left twice. -/
theorem pairwise_idxOf_eraseDups (items : List α) :
    items.eraseDups.Pairwise fun earlier later => items.idxOf earlier < items.idxOf later := by
  match items with
  | [] => simp
  | item :: rest =>
    rw [eraseDups_cons, pairwise_cons]
    constructor
    · intro later member
      have different : item ≠ later := by
        rintro rfl
        simp at member
      simp [idxOf_cons, beq_eq_false_iff_ne.mpr different]
    · refine (pairwise_idxOf_eraseDups (rest.filter fun other => !other == item)).imp_of_mem ?_
      intro earlier later memberEarlier memberLater before
      have keepsEarlier := (mem_filter.mp (mem_eraseDups.mp memberEarlier)).2
      have keepsLater := (mem_filter.mp (mem_eraseDups.mp memberLater)).2
      have inRest := idxOf_lt_idxOf_of_filter rest keepsLater before
      simp only [Bool.not_eq_true', beq_eq_false_iff_ne] at keepsEarlier keepsLater
      simpa [idxOf_cons, beq_eq_false_iff_ne.mpr keepsEarlier.symm,
        beq_eq_false_iff_ne.mpr keepsLater.symm] using inRest
termination_by items.length
decreasing_by exact Nat.lt_succ_of_le (length_filter_le _ rest)

/-- The selected items of a list, each once, in the order in which they first appear there. -/
theorem pairwise_idxOf_eraseDups_filter (keep : α → Bool) (items : List α) :
    (items.filter keep).eraseDups.Pairwise fun earlier later =>
      items.idxOf earlier < items.idxOf later := by
  refine (pairwise_idxOf_eraseDups (items.filter keep)).imp_of_mem ?_
  intro earlier later _ memberLater before
  have kept := (mem_filter.mp (mem_eraseDups.mp memberLater)).2
  exact idxOf_lt_idxOf_of_filter items kept before

end List
