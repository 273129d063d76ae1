import Acceptor.Proofs.Json.Meaning
import Mathlib.Data.List.Forall2
import Mathlib.Tactic.MkIffOfInductiveProp

/-! # Which values are records

Conditions on values, said without readers: strings, symbols, numbers in range, lists of what meets
a condition, and records (`IsRecord`), in which every known name is given at most once, with a value
that fits it, and the needed ones are given. What is given under a name stays the same if members
are rearranged, and unknown ones put in or taken out (`SameMembers`).
-/

namespace Acceptor.Json

namespace Tree

def IsText (tree : Tree) : Prop := ∃ characters, tree = .text characters

def IsTextOrNull (tree : Tree) : Prop := tree = .null ∨ tree.IsText

/-- A string of one character. -/
def IsOneCharacter (tree : Tree) : Prop := ∃ character, tree = .text [character]

/-- A number whose double, as it is computed, is in range. -/
def IsDouble (tree : Tree) : Prop :=
  ∃ numeral value, tree = .number numeral ∧ numeral.double? = some value

def IsListOf (Fits : Tree → Prop) (tree : Tree) : Prop :=
  ∃ items, tree = .list items ∧ ∀ item ∈ items, Fits item

end Tree

/-- A member that a record knows. -/
structure Known where
  name : String
  /-- The record has to have it. -/
  needed : Bool
  /-- The values that it may have. -/
  Fits : Tree → Prop

/-- The member is given as often as it may be, with a value that fits. -/
@[mk_iff]
structure Known.Met (known : Known) (entries : List Entry) : Prop where
  once : (valuesOf known.name entries).length ≤ 1
  given : known.needed = true → valuesOf known.name entries ≠ []
  fits : ∀ value ∈ valuesOf known.name entries, known.Fits value

theorem Known.Met.of_single {known : Known} {entries : List Entry} {value : Tree}
    (single : valuesOf known.name entries = [value]) (fits : known.Fits value) :
    known.Met entries := by
  rw [Known.met_iff, single]
  exact ⟨Nat.le_refl 1, fun _ => List.cons_ne_nil value [], List.forall_mem_singleton.mpr fits⟩

theorem Known.Met.of_none {known : Known} {entries : List Entry} (spare : known.needed = false)
    (none : valuesOf known.name entries = []) : known.Met entries := by
  rw [Known.met_iff, none, spare]
  exact ⟨Nat.zero_le 1, nofun, nofun⟩

/-- A value that gives every known member as it should. -/
def Tree.IsRecord (members : List Known) (tree : Tree) : Prop :=
  ∃ entries, tree.entries? (members.map Known.name) = some entries ∧
    ∀ known ∈ members, known.Met entries

/-! ## Meaning and conditions -/

theorem required_eq_some_iff {β : Type} {name : String} {meaning : Tree → Option β}
    {entries : List Entry} {value : β} :
    required name meaning entries = some value ↔
      given name meaning entries = some (some value) := by
  rw [required, Option.join_eq_some_iff]

theorem givenOr_eq_some_iff {β : Type} {name : String} {meaning : Tree → Option β}
    {otherwise : β} {entries : List Entry} {value : β} :
    givenOr name meaning otherwise entries = some value ↔
      ∃ part, given name meaning entries = some part ∧ part.getD otherwise = value := by
  rw [givenOr, Option.map_eq_some_iff]

section Single

variable {β : Type} {name : String} (meaning : Tree → Option β) (otherwise : β)
  {entries : List Entry} {value : Tree}

theorem required_of_single (single : valuesOf name entries = [value]) :
    required name meaning entries = meaning value := by
  rw [required, given, single, once]
  cases meaning value <;> rfl

theorem givenOr_of_single (single : valuesOf name entries = [value]) :
    givenOr name meaning otherwise entries = meaning value := by
  rw [givenOr, given, single, once]
  cases meaning value <;> rfl

theorem givenOr_of_none (none : valuesOf name entries = []) :
    givenOr name meaning otherwise entries = some otherwise := by
  rw [givenOr, given, none, once]
  rfl

end Single

theorem exists_required_iff {β : Type} {name : String} {meaning : Tree → Option β}
    {Fits : Tree → Prop} (meant : ∀ tree, (∃ value, meaning tree = some value) ↔ Fits tree)
    {entries : List Entry} :
    (∃ value, required name meaning entries = some value) ↔
      Known.Met ⟨name, true, Fits⟩ entries := by
  rw [Known.met_iff, required, given]
  rcases valuesOf name entries with _ | ⟨value, _ | ⟨another, values⟩⟩
  · simp [once]
  · simpa [once, Option.join_eq_some_iff] using meant value
  · simp [once]

theorem exists_givenOr_iff {β : Type} {name : String} {meaning : Tree → Option β}
    {otherwise : β} {Fits : Tree → Prop}
    (meant : ∀ tree, (∃ value, meaning tree = some value) ↔ Fits tree) {entries : List Entry} :
    (∃ value, givenOr name meaning otherwise entries = some value) ↔
      Known.Met ⟨name, false, Fits⟩ entries := by
  rw [Known.met_iff, givenOr, given]
  rcases valuesOf name entries with _ | ⟨value, _ | ⟨another, values⟩⟩
  · simp [once]
  · simpa [once] using meant value
  · simp [once]

theorem exists_string?_iff (tree : Tree) : (∃ text, tree.string? = some text) ↔ tree.IsText := by
  cases tree <;> simp [Tree.string?, Tree.text?, Tree.IsText]

theorem exists_stringOrNull?_iff (tree : Tree) :
    (∃ text, tree.stringOrNull? = some text) ↔ tree.IsTextOrNull := by
  cases tree <;> simp [Tree.stringOrNull?, Tree.string?, Tree.text?, Tree.IsTextOrNull, Tree.IsText]

theorem exists_double?_iff (tree : Tree) :
    (∃ value, tree.double? = some value) ↔ tree.IsDouble := by
  cases tree <;> simp [Tree.double?, Tree.IsDouble]

theorem exists_list?_iff {β : Type} {meaning : Tree → Option β} {Fits : Tree → Prop}
    (meant : ∀ tree, (∃ value, meaning tree = some value) ↔ Fits tree) (tree : Tree) :
    (∃ values, tree.list? meaning = some values) ↔ tree.IsListOf Fits := by
  cases tree with
  | list items =>
    have all : (∃ values, items.mapM meaning = some values) ↔ ∀ item ∈ items, Fits item := by
      induction items with
      | nil => simp
      | cons item items ih =>
        rw [List.mapM_cons, List.forall_mem_cons, ← meant, ← ih]
        simp only [Option.bind_eq_bind, Option.bind_eq_some_iff, Option.pure_def, Option.some.injEq]
        constructor
        · rintro ⟨_, value, isValue, values, areValues, -⟩
          exact ⟨⟨value, isValue⟩, values, areValues⟩
        · rintro ⟨⟨value, isValue⟩, values, areValues⟩
          exact ⟨_, value, isValue, values, areValues, rfl⟩
    simpa [Tree.list?, Tree.items?, Tree.IsListOf] using all
  | _ => simp [Tree.list?, Tree.items?, Tree.IsListOf]

/-! ## The same members -/

/-- A name, and which values under it are alike. -/
structure Compared where
  name : String
  Alike : Tree → Tree → Prop

/-- The members with one of the names. -/
def among (members : List Compared) (entries : List Entry) : List Entry :=
  entries.filter fun entry => members.any fun member => entry.1 == member.name.toList

/-- The same name with alike values. -/
structure AlikeEntries (members : List Compared) (entry other : Entry) : Prop where
  name : entry.1 = other.1
  values : ∀ member ∈ members, entry.1 = member.name.toList → member.Alike entry.2 other.2

/-- The same members with alike values, in any order and with any others between them. -/
def SameMembers (members : List Compared) (entries others : List Entry) : Prop :=
  ∃ arranged, (among members entries).Perm arranged ∧
    List.Forall₂ (AlikeEntries members) arranged (among members others)

/-- The same value, or records with the same members. -/
def AlikeRecords (members : List Compared) (tree other : Tree) : Prop :=
  tree = other ∨ ∃ entries others, tree.entries? (members.map Compared.name) = some entries ∧
    other.entries? (members.map Compared.name) = some others ∧ SameMembers members entries others

/-- The same value, or lists of alike values. -/
def AlikeLists (Alike : Tree → Tree → Prop) (tree other : Tree) : Prop :=
  tree = other ∨
    ∃ items others, tree = .list items ∧ other = .list others ∧ List.Forall₂ Alike items others

theorem valuesOf_among {members : List Compared} {member : Compared} (listed : member ∈ members)
    (entries : List Entry) :
    valuesOf member.name (among members entries) = valuesOf member.name entries := by
  rw [valuesOf, valuesOf, among, List.filter_filter]
  congr 1
  apply List.filter_congr
  intro entry _
  rw [Bool.and_eq_left_iff_imp]
  intro named
  exact List.any_eq_true.mpr ⟨member, listed, named⟩

theorem once_perm {β : Type} (meaning : Tree → Option β) {values others : List Tree}
    (same : values.Perm others) : once meaning values = once meaning others := by
  rcases values with _ | ⟨value, _ | ⟨another, values⟩⟩
  · rw [List.nil_perm.mp same]
  · rw [List.singleton_perm.mp same]
  · have length := same.length_eq
    rcases others with _ | ⟨other, _ | ⟨another, others⟩⟩
    · cases length
    · cases length
    · rfl

theorem once_congr {β : Type} {meaning : Tree → Option β} {Alike : Tree → Tree → Prop}
    (same : ∀ tree other, Alike tree other → meaning tree = meaning other)
    {values others : List Tree} (alike : List.Forall₂ Alike values others) :
    once meaning values = once meaning others := by
  cases alike with
  | nil => rfl
  | cons here later =>
    cases later with
    | nil => rw [once, once, same _ _ here]
    | cons => rfl

theorem valuesOf_forall₂ {members : List Compared} {member : Compared} (listed : member ∈ members)
    {entries others : List Entry}
    (alike : List.Forall₂ (AlikeEntries members) entries others) :
    List.Forall₂ member.Alike (valuesOf member.name entries) (valuesOf member.name others) := by
  induction alike with
  | nil => exact .nil
  | @cons entry other entries others here _ ih =>
    obtain ⟨sameKey, alike⟩ := here
    rw [valuesOf_cons, valuesOf_cons, ← sameKey]
    by_cases named : entry.1 = member.name.toList
    · rw [if_pos named, if_pos named]
      exact .cons (alike member listed named) ih
    · rwa [if_neg named, if_neg named]

section Congr

variable {β : Type} {members : List Compared} {entries others : List Entry}
  (same : SameMembers members entries others)

include same

/-- What is given under a name is the same if the members are. -/
theorem given_congr (member : Compared) (meaning : Tree → Option β) (listed : member ∈ members)
    (respects : ∀ tree other, member.Alike tree other → meaning tree = meaning other) :
    given member.name meaning entries = given member.name meaning others := by
  obtain ⟨arranged, perm, alike⟩ := same
  have rearranged : (valuesOf member.name (among members entries)).Perm
      (valuesOf member.name arranged) := (perm.filter _).map _
  rw [given, given, ← valuesOf_among listed entries, ← valuesOf_among listed others,
    once_perm meaning rearranged, once_congr respects (valuesOf_forall₂ listed alike)]

theorem required_congr (member : Compared) (meaning : Tree → Option β) (listed : member ∈ members)
    (respects : ∀ tree other, member.Alike tree other → meaning tree = meaning other) :
    required member.name meaning entries = required member.name meaning others := by
  rw [required, given_congr same member meaning listed respects, required]

theorem givenOr_congr (member : Compared) (meaning : Tree → Option β) (otherwise : β)
    (listed : member ∈ members)
    (respects : ∀ tree other, member.Alike tree other → meaning tree = meaning other) :
    givenOr member.name meaning otherwise entries =
      givenOr member.name meaning otherwise others := by
  rw [givenOr, given_congr same member meaning listed respects, givenOr]

theorem required_eq_of_eq (name : String) (meaning : Tree → Option β)
    (listed : ⟨name, Eq⟩ ∈ members) :
    required name meaning entries = required name meaning others :=
  required_congr same ⟨name, Eq⟩ meaning listed fun _ _ => congrArg meaning

theorem givenOr_eq_of_eq (name : String) (meaning : Tree → Option β) (otherwise : β)
    (listed : ⟨name, Eq⟩ ∈ members) :
    givenOr name meaning otherwise entries = givenOr name meaning otherwise others :=
  givenOr_congr same ⟨name, Eq⟩ meaning otherwise listed fun _ _ => congrArg meaning

end Congr

theorem list?_congr {β : Type} {meaning : Tree → Option β} {Alike : Tree → Tree → Prop}
    (same : ∀ tree other, Alike tree other → meaning tree = meaning other) {tree other : Tree}
    (alike : AlikeLists Alike tree other) : tree.list? meaning = other.list? meaning := by
  obtain rfl | ⟨items, others, rfl, rfl, alike⟩ := alike
  · rfl
  · change items.mapM meaning = others.mapM meaning
    induction alike with
    | nil => rfl
    | cons here _ ih => rw [List.mapM_cons, List.mapM_cons, same _ _ here, ih]

end Acceptor.Json
