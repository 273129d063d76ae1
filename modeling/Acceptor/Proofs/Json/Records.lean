import Acceptor.Proofs.Json.Reading

/-! # Records are read as their members say

The fields of a record are kept in parts of a draft. If the parts are apart and every field is read
right (`LaidOut`), then so is the record (`reads_record`): as an object, whatever the order of its
members and whatever else stands between them, or as a list. What is read into the draft is, for
every field, what is given under its name (`foldlM_enter_eq_some_iff`); a name that is given twice
makes the reader fail.
-/

namespace Acceptor.Json

/-- A field with the part of a draft that keeps it and with what its values mean. -/
structure Slot (δ : Type) where
  {β : Type}
  name : String
  part : δ → Option β
  put : δ → β → δ
  read : Reader β
  meaning : Tree → Option β
  part_put : ∀ draft value, part (put draft value) = some value
  reads : Reads read meaning

namespace Slot

variable {δ : Type}

def field (slot : Slot δ) : Field δ := .ofReader slot.name slot.part slot.put slot.read

/-- Two fields do not disturb one another. -/
structure Apart (slot other : Slot δ) : Prop where
  names : slot.name ≠ other.name
  behind : ∀ draft value, other.part (slot.put draft value) = other.part draft
  before : ∀ draft value, slot.part (other.put draft value) = slot.part draft

end Slot

/-- The fields of the record are kept apart, and make up its drafts. -/
structure Record.LaidOut {δ α : Type} (record : Record δ α) (slots : List (Slot δ)) : Prop where
  fields : record.fields = slots.map Slot.field
  apart : slots.Pairwise Slot.Apart
  blank : ∀ slot ∈ slots, slot.part record.blank = none
  ext : ∀ draft draft', (∀ slot ∈ slots, slot.part draft = slot.part draft') → draft = draft'

variable {δ α : Type} {slots : List (Slot δ)}

/-- Takes a member into the draft: a field that is new, or something unknown. -/
def enter (slots : List (Slot δ)) (draft : δ) (entry : Entry) : Option δ :=
  match slots.find? fun slot => slot.name.toList == entry.1 with
  | none => some draft
  | some slot =>
    if (slot.part draft).isSome then none else (slot.meaning entry.2).map (slot.put draft)

/-- The record that a value means, if it means one. -/
def Record.meaning? (record : Record δ α) (slots : List (Slot δ)) (tree : Tree) : Option α :=
  ((tree.entries? (slots.map Slot.name)).bind fun entries =>
    entries.foldlM (enter slots) record.blank).bind fun draft => (record.finish draft).toOption

/-! ## What is given under a name -/

/-- What a part of a draft becomes: nothing is taken into a part that is filled. -/
def onceFrom {β : Type} (meaning : Tree → Option β) : Option β → List Tree → Option (Option β)
  | earlier, [] => some earlier
  | none, [value] => (meaning value).map some
  | _, _ => none

theorem onceFrom_none {β : Type} (name : String) (meaning : Tree → Option β)
    (entries : List Entry) :
    onceFrom meaning none (valuesOf name entries) = given name meaning entries := by
  rw [given]
  rcases valuesOf name entries with _ | ⟨value, _ | ⟨another, values⟩⟩ <;> rfl

theorem onceFrom_none_cons {β : Type} (meaning : Tree → Option β) (value : Tree)
    (values : List Tree) :
    onceFrom meaning none (value :: values) =
      (meaning value).bind fun value => onceFrom meaning (some value) values := by
  cases values <;> cases meant : meaning value <;> simp [onceFrom, meant]

theorem find?_slot (apart : slots.Pairwise Slot.Apart) {slot : Slot δ} (listed : slot ∈ slots) :
    slots.find? (fun other => other.name.toList == slot.name.toList) = some slot := by
  induction slots with
  | nil => cases listed
  | cons first slots ih =>
    obtain ⟨others, apart⟩ := List.pairwise_cons.mp apart
    rcases List.mem_cons.mp listed with rfl | listed
    · simp
    · have different : first.name.toList ≠ slot.name.toList := fun same =>
        (others slot listed).names (String.toList_injective same)
      rw [List.find?_cons_of_neg (by simpa using different), ih apart listed]

/-- A field is known by its name. -/
theorem eq_of_name_eq (apart : slots.Pairwise Slot.Apart) {slot other : Slot δ}
    (listed : slot ∈ slots) (otherListed : other ∈ slots)
    (same : other.name.toList = slot.name.toList) : other = slot := by
  have found := find?_slot apart otherListed
  rw [same, find?_slot apart listed] at found
  exact (Option.some.inj found).symm

/-- A field disturbs no other. -/
theorem part_put_of_ne (apart : slots.Pairwise Slot.Apart) {slot other : Slot δ}
    (listed : slot ∈ slots) (otherListed : other ∈ slots) (different : other ≠ slot)
    (draft : δ) (value : slot.β) : other.part (slot.put draft value) = other.part draft := by
  have keeps : ∀ slot ∈ slots, ∀ other ∈ slots, other ≠ slot → ∀ draft value,
      other.part (slot.put draft value) = other.part draft :=
    List.Pairwise.forall_of_forall_of_flip (fun _ _ different => absurd rfl different)
      (apart.imp fun parts _ => parts.behind) (apart.imp fun parts _ => parts.before)
  exact keeps slot listed other otherListed different draft value

section LaidOut

variable {record : Record δ α}

/-- A field that takes a member is the one that the member names. -/
theorem valuesOf_of_find? {entry : Entry} {slot : Slot δ}
    (found : (slots.find? fun slot => slot.name.toList == entry.1) = some slot)
    (entries : List Entry) :
    valuesOf slot.name (entry :: entries) = entry.2 :: valuesOf slot.name entries := by
  have named : slot.name.toList = entry.1 := by simpa using List.find?_some found
  rw [valuesOf_cons, if_pos named.symm]

/-- One member that is taken in: for every field, what is left to come is as before. -/
theorem onceFrom_of_enter (laid : record.LaidOut slots) {draft next : δ} {entry : Entry}
    (entered : enter slots draft entry = some next) {slot : Slot δ} (listed : slot ∈ slots)
    (entries : List Entry) :
    onceFrom slot.meaning (slot.part draft) (valuesOf slot.name (entry :: entries)) =
      onceFrom slot.meaning (slot.part next) (valuesOf slot.name entries) := by
  rw [enter] at entered
  cases found : slots.find? fun slot => slot.name.toList == entry.1 with
  | none =>
    rw [found] at entered
    cases entered
    have unknown : ∀ slot ∈ slots, slot.name.toList ≠ entry.1 := by
      simpa using List.find?_eq_none.mp found
    rw [valuesOf_cons_of_ne (unknown slot listed)]
  | some taker =>
    have takerListed : taker ∈ slots := List.mem_of_find?_eq_some found
    cases filled : taker.part draft with
    | some earlier => simp [found, filled] at entered
    | none =>
      simp only [found, filled, Option.isSome_none, Bool.false_eq_true, if_false] at entered
      obtain ⟨value, meant, rfl⟩ := Option.map_eq_some_iff.mp entered
      by_cases same : slot = taker
      · subst same
        rw [slot.part_put, valuesOf_of_find? found, filled, onceFrom_none_cons, meant]
        rfl
      · have named : taker.name.toList = entry.1 := by simpa using List.find?_some found
        have unnamed : slot.name.toList ≠ entry.1 := fun equal =>
          same (eq_of_name_eq laid.apart takerListed listed (equal.trans named.symm))
        rw [part_put_of_ne laid.apart takerListed listed same, valuesOf_cons_of_ne unnamed]

/-- One member that is refused: its field will have no value. -/
theorem exists_of_enter_eq_none {draft : δ} {entry : Entry}
    (refused : enter slots draft entry = none) (entries : List Entry) :
    ∃ slot ∈ slots,
      onceFrom slot.meaning (slot.part draft) (valuesOf slot.name (entry :: entries)) = none := by
  rw [enter] at refused
  cases found : slots.find? fun slot => slot.name.toList == entry.1 with
  | none =>
    rw [found] at refused
    cases refused
  | some slot =>
    refine ⟨slot, List.mem_of_find?_eq_some found, ?_⟩
    rw [valuesOf_of_find? found]
    cases filled : slot.part draft with
    | some earlier => cases valuesOf slot.name entries <;> rfl
    | none =>
      simp only [found, filled, Option.isSome_none, Bool.false_eq_true, if_false] at refused
      rw [onceFrom_none_cons, Option.map_eq_none_iff.mp refused]
      rfl

/-- The drafts that members lead to, told field by field. -/
theorem foldlM_enter_eq_some_iff (laid : record.LaidOut slots) {entries : List Entry}
    {draft final : δ} :
    entries.foldlM (enter slots) draft = some final ↔
      ∀ slot ∈ slots, onceFrom slot.meaning (slot.part draft) (valuesOf slot.name entries) =
        some (slot.part final) := by
  induction entries generalizing draft with
  | nil =>
    constructor
    · rintro equal slot listed
      cases equal
      rfl
    · intro same
      rw [laid.ext draft final fun slot listed => Option.some.inj (same slot listed)]
      rfl
  | cons entry entries ih =>
    rw [List.foldlM_cons]
    cases entered : enter slots draft entry with
    | none =>
      obtain ⟨slot, listed, never⟩ := exists_of_enter_eq_none entered entries
      constructor
      · intro impossible
        cases impossible
      · intro same
        rw [same slot listed] at never
        cases never
    | some next =>
      refine ih.trans (forall₂_congr fun slot listed => ?_)
      rw [onceFrom_of_enter laid entered listed]

/-- From the empty draft: what is read of each field is what is given under its name. -/
theorem foldlM_enter_blank_eq_some_iff (laid : record.LaidOut slots) {entries : List Entry}
    {final : δ} :
    entries.foldlM (enter slots) record.blank = some final ↔
      ∀ slot ∈ slots, given slot.name slot.meaning entries = some (slot.part final) := by
  refine (foldlM_enter_eq_some_iff laid).trans (forall₂_congr fun slot listed => ?_)
  rw [laid.blank slot listed, onceFrom_none]

/-! ## Members are read into the draft -/

theorem nextKey_end (first : Bool) (blanks : Blanks) (rest : List Char) :
    nextKey first (blanks.val ++ '\x7d' :: rest) = .ok (none, '\x7d' :: rest) := by
  rw [nextKey, skipBlanks_blanks, skipBlanks_cons _ (by decide)]
  rfl

theorem nextKey_first {member : Member} (spelled : SpellsText member.spelling member.key)
    (blanks : Blanks) (rest : List Char) :
    nextKey true (blanks.val ++ (member.text ++ rest)) =
      .ok (some member.key, member.behindKey ++ rest) := by
  simp only [Member.text, List.cons_append, List.append_assoc]
  rw [nextKey, skipBlanks_blanks, skipBlanks_cons _ (by decide)]
  change (readText _ >>= fun read => .ok (some read.1, read.2)) = _
  rw [readText_of_spellsText spelled]
  rfl

theorem nextKey_comma {member : Member} (spelled : SpellsText member.spelling member.key)
    (after before : Blanks) (rest : List Char) :
    nextKey false (after.val ++ ',' :: (before.val ++ (member.text ++ rest))) =
      .ok (some member.key, member.behindKey ++ rest) := by
  simp only [Member.text, List.cons_append, List.append_assoc]
  rw [nextKey, skipBlanks_blanks, skipBlanks_cons _ (by decide)]
  split
  · contradiction
  · next equal => exact absurd (List.cons_eq_cons.mp equal).1 (by decide)
  · next equal =>
    obtain ⟨rfl, rfl⟩ := List.cons_eq_cons.mp equal
    rw [if_neg (by decide), if_pos rfl, skipBlanks_blanks, skipBlanks_cons _ (by decide)]
    change (readText _ >>= fun read => .ok (some read.1, read.2)) = _
    rw [readText_of_spellsText spelled]
    rfl

theorem readColon_colon (blanks : Blanks) (rest : List Char) :
    readColon (blanks.val ++ ':' :: rest) = .ok rest := by
  rw [readColon, skipBlanks_blanks, skipBlanks_cons _ (by decide)]
  rfl

/-- The field that a key names, if there is one. -/
theorem field?_eq (laid : record.LaidOut slots) (key : List Char) :
    record.field? key = (slots.find? fun slot => slot.name.toList == key).map Slot.field := by
  rw [Record.field?, laid.fields, List.find?_map]
  rfl

theorem readMember_behindKey (laid : record.LaidOut slots) (draft : δ) {member : Member}
    (spelled : Spells member.item.text member.item.tree) {rest : List Char}
    (boundary : AtBoundary rest) :
    (record.readMember draft member.key (member.behindKey ++ rest)).toOption =
      (enter slots draft member.entry).map fun draft => (draft, rest) := by
  rw [Record.readMember, field?_eq laid, enter, Member.entry]
  simp only [Member.behindKey, List.append_assoc, List.cons_append]
  cases found : slots.find? fun slot => slot.name.toList == member.key with
  | none =>
    simp only [Option.map_none, readColon_colon, toOption_bind, toOption_ok, Option.bind_some,
      skipValue_of_spells member.behindColon spelled boundary]
    rfl
  | some slot =>
    have read := slot.reads member.behindColon spelled boundary
    simp only [Option.map_some, readColon_colon, Slot.field, Field.ofReader]
    split
    · rfl
    · simp only [toOption_bind, toOption_ok, Option.bind_some, read]
      cases slot.meaning member.item.tree <;> rfl

theorem readMembers_end (record : Record δ α) (rounds : Nat) (first : Bool) (draft : δ)
    (blanks : Blanks) (rest : List Char) :
    record.readMembers (rounds + 1) first draft (blanks.val ++ '\x7d' :: rest) =
      .ok (draft, '\x7d' :: rest) := by
  rw [Record.readMembers, nextKey_end]
  rfl

/-- One member and what follows it. -/
theorem readMembers_of_next (laid : record.LaidOut slots) {first : Bool} (draft : δ)
    {text inside : List Char} {member : Member} (spelled : Spells member.item.text member.item.tree)
    (rounds : Nat) (next : nextKey first text = .ok (some member.key, member.behindKey ++ inside))
    (boundary : AtBoundary inside) :
    (record.readMembers (rounds + 1) first draft text).toOption =
      (enter slots draft member.entry).bind fun draft =>
        (record.readMembers rounds false draft inside).toOption := by
  rw [Record.readMembers, next]
  simp only [toOption_bind, toOption_ok, Option.bind_some,
    readMember_behindKey laid draft spelled boundary, Option.bind_map]
  rfl

/-- The members behind the first, one for each that is written. -/
theorem readMembers_others (laid : record.LaidOut slots) (draft : δ) (after : Blanks)
    {others : List (Padded Member)}
    (keys : ∀ other ∈ others, SpellsText other.content.spelling other.content.key)
    (spelled : ∀ other ∈ others, Spells other.content.item.text other.content.item.tree)
    (rest : List Char) {rounds : Nat} (enough : others.length < rounds) :
    (record.readMembers rounds false draft
      (after.val ++ (behindCommas Member.text others ++ '\x7d' :: rest))).toOption =
        ((others.map fun other => other.content.entry).foldlM (enter slots) draft).map
          fun draft => (draft, '\x7d' :: rest) := by
  induction others generalizing draft after rounds with
  | nil =>
    obtain ⟨rounds, rfl⟩ := Nat.exists_eq_add_of_lt enough
    rw [behindCommas, List.flatMap_nil, List.nil_append, readMembers_end]
    rfl
  | cons other others ih =>
    obtain ⟨rounds, rfl⟩ := Nat.exists_eq_add_of_lt enough
    have next := nextKey_comma (keys other List.mem_cons_self) after other.before
      (other.after.val ++ (behindCommas Member.text others ++ '\x7d' :: rest))
    have boundary := atBoundary_others .object Member.text other.after others rest
    have enoughLater : others.length < (other :: others).length + rounds := by
      rw [List.length_cons]
      omega
    have later := fun draft => ih draft other.after
      (fun another member => keys another (List.mem_cons_of_mem other member))
      (fun another member => spelled another (List.mem_cons_of_mem other member)) enoughLater
    simp only [behindCommas_cons, List.cons_append, List.append_assoc]
    rw [readMembers_of_next laid draft (spelled other List.mem_cons_self) _ next boundary,
      List.map_cons, List.foldlM_cons]
    cases enter slots draft other.content.entry with
    | none => rfl
    | some draft => exact later draft

/-- All members up to the closing bracket; there is a round for each of them. -/
theorem readMembers_separated (laid : record.LaidOut slots) (draft : δ) (first : Padded Member)
    (others : List (Padded Member))
    (keys : ∀ member ∈ first :: others, SpellsText member.content.spelling member.content.key)
    (spelled : ∀ member ∈ first :: others,
      Spells member.content.item.text member.content.item.tree) (rest : List Char) :
    let inside := separated Member.text first others ++ '\x7d' :: rest
    (record.readMembers inside.length true draft inside).toOption =
      (((first :: others).map fun member => member.content.entry).foldlM (enter slots) draft).map
        fun draft => (draft, '\x7d' :: rest) := by
  intro inside
  have next := nextKey_first (keys first List.mem_cons_self) first.before
    (first.after.val ++ (behindCommas Member.text others ++ '\x7d' :: rest))
  have boundary := atBoundary_others .object Member.text first.after others rest
  obtain ⟨rounds, total, enough⟩ : ∃ rounds,
      inside.length = rounds + 1 ∧ others.length < rounds := by
    have commas := length_le_behindCommas Member.text others
    refine ⟨first.before.val.length + (first.content.spelling ++ '"' ::
      first.content.behindKey).length + first.after.val.length +
        (behindCommas Member.text others).length + rest.length + 1, ?_, by omega⟩
    simp only [inside, separated_append, Member.text, List.length_append, List.length_cons]
    omega
  have later := fun draft => readMembers_others laid draft first.after
    (fun other member => keys other (List.mem_cons_of_mem first member))
    (fun other member => spelled other (List.mem_cons_of_mem first member)) rest enough
  rw [← separated_append] at next
  rw [total, readMembers_of_next laid draft (spelled first List.mem_cons_self) rounds next boundary,
    List.map_cons, List.foldlM_cons]
  cases enter slots draft first.content.entry with
  | none => rfl
  | some draft => exact later draft

/-! ## Items are read into the draft -/

theorem underNames?_cons (name : String) (names : List String) (item : Tree)
    (items : List Tree) :
    underNames? (name :: names) (item :: items) =
      (underNames? names items).map fun entries => (name.toList, item) :: entries := by
  rw [underNames?, underNames?]
  by_cases fits : items.length ≤ names.length <;> simp [fits]

theorem leaveList_end (blanks : Blanks) (rest : List Char) :
    leaveList (blanks.val ++ ']' :: rest) = .ok rest := by
  rw [leaveList, skipBlanks_blanks, skipBlanks_cons _ (by decide)]
  rfl

theorem leaveList_comma (blanks : Blanks) (rest : List Char) :
    (leaveList (blanks.val ++ ',' :: rest)).toOption = none := by
  rw [leaveList, skipBlanks_blanks, skipBlanks_cons _ (by decide)]
  rfl

/-- A list cannot be left in front of a value. -/
theorem leaveList_value {text : List Char} {tree : Tree} (spelled : Spells text tree)
    (blanks : Blanks) (rest : List Char) :
    (leaveList (blanks.val ++ (text ++ rest))).toOption = none := by
  obtain ⟨first, more, rfl, begins⟩ := spelled.begins
  obtain ⟨-, noEnd, -⟩ := begins.noSeparator
  rw [List.cons_append, leaveList, skipBlanks_of_begins begins]
  split
  · rfl
  · next equal => exact absurd (List.cons_eq_cons.mp equal).1 noEnd
  · rfl
  · rfl

theorem readFields_end (fields : List (Field δ)) (first : Bool) (draft : δ) (blanks : Blanks)
    (rest : List Char) :
    leaving leaveList (Record.readFields fields first draft (blanks.val ++ ']' :: rest)).toOption =
      some (draft, rest) := by
  cases fields with
  | nil =>
    rw [Record.readFields, leaving, toOption_ok, Option.bind_some, leaveList_end]
    rfl
  | cons field fields =>
    rw [Record.readFields, nextElement_end]
    rfl

/-- Taking an item into the empty part of its field. -/
theorem enter_of_empty (laid : record.LaidOut slots) {slot : Slot δ} (listed : slot ∈ slots)
    {draft : δ} (empty : slot.part draft = none) (tree : Tree) :
    enter slots draft (slot.name.toList, tree) = (slot.meaning tree).map (slot.put draft) := by
  rw [enter, find?_slot laid.apart listed]
  simp only [empty, Option.isSome_none, Bool.false_eq_true, if_false]

theorem foldlM_enter_underNames (laid : record.LaidOut slots) {slot : Slot δ}
    (listed : slot ∈ slots) {draft : δ} (empty : slot.part draft = none) (names : List String)
    (item : Tree) (items : List Tree) :
    ((underNames? (slot.name :: names) (item :: items)).bind fun entries =>
      entries.foldlM (enter slots) draft) =
        (slot.meaning item).bind fun value => (underNames? names items).bind fun entries =>
          entries.foldlM (enter slots) (slot.put draft value) := by
  rw [underNames?_cons]
  cases underNames? names items with
  | none => cases slot.meaning item <;> rfl
  | some entries =>
    rw [Option.map_some, Option.bind_some, List.foldlM_cons, enter_of_empty laid listed empty]
    cases slot.meaning item <;> rfl

/-- Once a field is filled, the later ones are empty as before. -/
theorem part_put_eq_none (laid : record.LaidOut slots) {slot : Slot δ} {later : List (Slot δ)}
    (sub : (slot :: later).Sublist slots) {draft : δ}
    (empty : ∀ other ∈ slot :: later, other.part draft = none) (value : slot.β) :
    ∀ other ∈ later, other.part (slot.put draft value) = none := by
  intro other listed
  have apart := List.rel_of_pairwise_cons (laid.apart.sublist sub) listed
  rw [apart.behind, empty other (List.mem_cons_of_mem slot listed)]

/-- One item, read into its field, and what follows it. -/
theorem readFields_of_next (laid : record.LaidOut slots) {slot : Slot δ} (listed : slot ∈ slots)
    {later : List (Slot δ)} {draft : δ} (empty : slot.part draft = none) {first : Bool}
    {text inside rest : List Char} {item : Item} {items : List Tree}
    (spelled : Spells item.text item.tree)
    (next : nextElement first text = .ok (true, item.text ++ inside)) (boundary : AtBoundary inside)
    (behind : ∀ value, leaving leaveList (Record.readFields (later.map Slot.field) false
      (slot.put draft value) inside).toOption =
        ((underNames? (later.map Slot.name) items).bind fun entries =>
          entries.foldlM (enter slots) (slot.put draft value)).map fun draft => (draft, rest)) :
    leaving leaveList
      (Record.readFields ((slot :: later).map Slot.field) first draft text).toOption =
      ((underNames? ((slot :: later).map Slot.name) (item.tree :: items)).bind fun entries =>
        entries.foldlM (enter slots) draft).map fun draft => (draft, rest) := by
  have read := slot.reads.here spelled boundary
  rw [List.map_cons, List.map_cons, foldlM_enter_underNames laid listed empty, Record.readFields,
    next]
  simp only [toOption_bind, toOption_ok, Option.bind_some, if_true, Slot.field, Field.ofReader,
    read]
  cases slot.meaning item.tree with
  | none => rfl
  | some value => exact behind value

/-- The items behind the first, each for the next of the fields that are left. -/
theorem readFields_others (laid : record.LaidOut slots) {later : List (Slot δ)}
    (sub : later.Sublist slots) (draft : δ) (empty : ∀ slot ∈ later, slot.part draft = none)
    (after : Blanks) {others : List (Padded Item)}
    (spelled : ∀ other ∈ others, Spells other.content.text other.content.tree)
    (rest : List Char) :
    leaving leaveList (Record.readFields (later.map Slot.field) false draft
      (after.val ++ (behindCommas Item.text others ++ ']' :: rest))).toOption =
        ((underNames? (later.map Slot.name) (others.map fun other => other.content.tree)).bind
          fun entries => entries.foldlM (enter slots) draft).map fun draft => (draft, rest) := by
  induction later generalizing draft after others with
  | nil =>
    cases others with
    | nil => exact readFields_end [] false draft after rest
    | cons other others =>
      rw [List.map_nil, Record.readFields, leaving, toOption_ok, Option.bind_some,
        behindCommas_cons, List.cons_append, leaveList_comma]
      rfl
  | cons slot later ih =>
    cases others with
    | nil => exact readFields_end _ false draft after rest
    | cons other others =>
      have next := nextElement_comma (spelled other List.mem_cons_self) after other.before
        (other.after.val ++ (behindCommas Item.text others ++ ']' :: rest))
      have boundary := atBoundary_others .list Item.text other.after others rest
      simp only [behindCommas_cons, List.cons_append, List.append_assoc]
      apply readFields_of_next laid (sub.subset List.mem_cons_self) (empty slot List.mem_cons_self)
        (spelled other List.mem_cons_self) next boundary
      intro value
      exact ih ((List.sublist_cons_self slot later).trans sub) _
        (part_put_eq_none laid sub empty value) other.after fun another member =>
          spelled another (List.mem_cons_of_mem other member)

/-- All items up to the closing bracket. -/
theorem readFields_separated (laid : record.LaidOut slots) (first : Padded Item)
    (others : List (Padded Item))
    (spelled : ∀ item ∈ first :: others, Spells item.content.text item.content.tree)
    (rest : List Char) :
    leaving leaveList (Record.readFields record.fields true record.blank
      (separated Item.text first others ++ ']' :: rest)).toOption =
        ((underNames? (slots.map Slot.name)
          ((first :: others).map fun item => item.content.tree)).bind fun entries =>
            entries.foldlM (enter slots) record.blank).map fun draft => (draft, rest) := by
  have here := spelled first List.mem_cons_self
  rw [laid.fields, separated_append]
  cases slots with
  | nil =>
    rw [List.map_nil, Record.readFields, leaving, toOption_ok, Option.bind_some,
      leaveList_value here]
    rfl
  | cons slot later =>
    have next := nextElement_first here first.before
      (first.after.val ++ (behindCommas Item.text others ++ ']' :: rest))
    have boundary := atBoundary_others .list Item.text first.after others rest
    have sub := List.Sublist.refl (slot :: later)
    apply readFields_of_next laid List.mem_cons_self (laid.blank slot List.mem_cons_self) here next
      boundary
    intro value
    exact readFields_others laid (List.sublist_cons_self slot later) _
      (part_put_eq_none laid sub laid.blank value) first.after (fun other member =>
        spelled other (List.mem_cons_of_mem first member)) rest

/-! ## The whole record -/

theorem closeObject_toOption (inside : Except Failure (Reading α)) :
    (closeObject inside).toOption = leaving leaveObject inside.toOption := by
  cases inside with
  | error => rfl
  | ok read =>
    rw [closeObject, toOption_bind, leaving, toOption_ok, Option.bind_some]
    cases (leaveObject read.2).toOption <;> rfl

/-- The value that a draft becomes, if nothing is missing. -/
def finishing (record : Record δ α) (read : Option (Reading δ)) : Option (Reading α) :=
  read.bind fun read => (record.finish read.1).toOption.map fun value => (value, read.2)

theorem readObject_toOption (record : Record δ α) (text : List Char) :
    (record.readObject text).toOption =
      finishing record (record.readMembers text.length true record.blank text).toOption := by
  rw [Record.readObject, toOption_bind, finishing]
  congr 1
  funext ⟨draft, rest⟩
  dsimp only
  cases record.finish draft <;> rfl

theorem readSequence_toOption (record : Record δ α) (text : List Char) :
    (record.readSequence text).toOption =
      finishing record (Record.readFields record.fields true record.blank text).toOption := by
  rw [Record.readSequence, toOption_bind, finishing]
  congr 1
  funext ⟨draft, rest⟩
  dsimp only
  cases record.finish draft <;> rfl

/-- Whether the bracket is left before or after the draft is finished makes no difference. -/
theorem leaving_finishing (leave : List Char → Except Failure (List Char)) (record : Record δ α)
    (read : Option (Reading δ)) :
    leaving leave (finishing record read) = finishing record (leaving leave read) := by
  rcases read with _ | ⟨draft, text⟩
  · rfl
  · simp only [leaving, finishing, Option.bind_some]
    rcases finished : (record.finish draft).toOption with _ | value <;>
      rcases left : (leave text).toOption with _ | rest <;> simp [finished, left]

theorem finishing_map (record : Record δ α) (draft : Option δ) (rest : List Char) :
    finishing record (draft.map fun draft => (draft, rest)) =
      (draft.bind fun draft => (record.finish draft).toOption).map fun value => (value, rest) := by
  cases draft <;> rfl

theorem read_otherwise {tree : Tree} {first : Char} (begins : tree.Begins first)
    (noList : ∀ items, tree ≠ .list items) (noObject : ∀ members, tree ≠ .object members)
    (record : Record δ α) (blanks : Blanks) (more : List Char) :
    (record.read (blanks.val ++ first :: more)).toOption = none := by
  have noBracket : first ≠ '[' ∧ first ≠ '\x7b' := by
    cases tree with
    | number =>
      exact ⟨ne_of_startsNumeral begins (by decide), ne_of_startsNumeral begins (by decide)⟩
    | boolean value => cases value <;> cases begins <;> decide
    | list items => exact absurd rfl (noList items)
    | object members => exact absurd rfl (noObject members)
    | _ => cases begins; decide
  rw [Record.read, skipBlanks_of_begins begins]
  split
  · contradiction
  · next equal => exact absurd (List.cons_eq_cons.mp equal).1 noBracket.2
  · next equal => exact absurd (List.cons_eq_cons.mp equal).1 noBracket.1
  · rfl

theorem read_object (record : Record δ α) (blanks : Blanks) (inside : List Char) :
    (record.read (blanks.val ++ '\x7b' :: inside)).toOption =
      finishing record (leaving leaveObject
        (record.readMembers inside.length true record.blank inside).toOption) := by
  rw [Record.read, skipBlanks_blanks, skipBlanks_cons _ (by decide)]
  change (closeObject (record.readObject inside)).toOption = _
  rw [closeObject_toOption, readObject_toOption, leaving_finishing]

theorem read_list (record : Record δ α) (blanks : Blanks) (inside : List Char) :
    (record.read (blanks.val ++ '[' :: inside)).toOption =
      finishing record (leaving leaveList
        (Record.readFields record.fields true record.blank inside).toOption) := by
  rw [Record.read, skipBlanks_blanks, skipBlanks_cons _ (by decide)]
  change (closeList (record.readSequence inside)).toOption = _
  rw [closeList_toOption, readSequence_toOption, leaving_finishing]

theorem leaving_map (draft : Option δ) (rest : List Char) :
    leaving leaveObject (draft.map fun draft => (draft, '\x7d' :: rest)) =
      draft.map fun draft => (draft, rest) := by
  cases draft <;> rfl

/-- A record whose fields are read right is read right. -/
theorem reads_record (laid : record.LaidOut slots) : Reads record.read (record.meaning? slots) := by
  intro blanks text tree rest spelled boundary
  have whole := spelled
  cases spelled with
  | emptyList inside =>
    simp only [List.cons_append, List.append_assoc, List.nil_append]
    rw [read_list, readFields_end]
    cases slots <;> rfl
  | list first others parts =>
    simp only [List.cons_append, List.append_assoc, List.nil_append]
    rw [read_list, readFields_separated laid first others parts, finishing_map]
    rfl
  | emptyObject inside =>
    simp only [List.cons_append, List.append_assoc, List.nil_append]
    have rounds : (inside.val ++ '\x7d' :: rest).length =
        inside.val.length + rest.length + 1 := by
      simp only [List.length_append, List.length_cons]
      omega
    rw [read_object, rounds, readMembers_end]
    exact finishing_map record (some record.blank) rest
  | object first others keys parts =>
    simp only [List.cons_append, List.append_assoc, List.nil_append]
    rw [read_object, readMembers_separated laid _ first others keys parts, leaving_map,
      finishing_map]
    rfl
  | _ =>
    obtain ⟨head, more, equal, begins⟩ := whole.begins
    rw [equal, List.cons_append, read_otherwise begins nofun nofun]
    rfl

end LaidOut

end Acceptor.Json
