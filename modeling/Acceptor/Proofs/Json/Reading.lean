import Acceptor.Proofs.Json.Meaning
import Acceptor.Proofs.Json.Skipping

/-! # Readers find what values mean

A reader is right (`Reads`) if on every text of every value it comes to what the value means, and
fails if the value means nothing to it. White space in front does not matter, nor does what follows
the value as long as it ends there. Readers of strings, of numbers and of lists are right.
-/

namespace Acceptor.Json

/-- Whatever a text spells, the reader finds its meaning, and fails where there is none. -/
def Reads {α : Type} (reader : Reader α) (meaning : Tree → Option α) : Prop :=
  ∀ (blanks : Blanks) {text : List Char} {tree : Tree} {rest : List Char}, Spells text tree →
    AtBoundary rest →
    (reader (blanks.val ++ (text ++ rest))).toOption = (meaning tree).map fun value => (value, rest)

/-- A reader that is right where the text of a value begins. -/
theorem Reads.here {α : Type} {reader : Reader α} {meaning : Tree → Option α}
    (reads : Reads reader meaning) {text rest : List Char} {tree : Tree}
    (spelled : Spells text tree) (boundary : AtBoundary rest) :
    (reader (text ++ rest)).toOption = (meaning tree).map fun value => (value, rest) :=
  reads noBlanks spelled boundary

section ToOption

variable {ε α β : Type}

@[simp] theorem toOption_ok (value : α) : (Except.ok value : Except ε α).toOption = some value :=
  rfl

@[simp] theorem toOption_error (error : ε) : (Except.error error : Except ε α).toOption = none :=
  rfl

theorem toOption_bind (first : Except ε α) (second : α → Except ε β) :
    (first >>= second).toOption = first.toOption.bind fun value => (second value).toOption := by
  cases first <;> rfl

theorem toOption_map (first : Except ε α) (convert : α → β) :
    (first.map convert).toOption = first.toOption.map convert := by
  cases first <;> rfl

end ToOption

/-- Two steps that both succeed or both fail. -/
theorem Reads.map {α β : Type} {reader : Reader α} {meaning : Tree → Option α}
    (reads : Reads reader meaning) (convert : α → β) :
    Reads (fun text => do
      let (value, rest) ← reader text
      .ok (convert value, rest)) fun tree => (meaning tree).map convert := by
  intro blanks text tree rest spelled boundary
  rw [toOption_bind, reads blanks spelled boundary]
  dsimp only
  cases meaning tree <;> rfl

/-- Behind white space a reader sees how a value begins. -/
theorem skipBlanks_of_begins {tree : Tree} {first : Char} (begins : tree.Begins first)
    (blanks : Blanks) (more : List Char) :
    skipBlanks (blanks.val ++ first :: more) = first :: more := by
  rw [skipBlanks_blanks, skipBlanks_cons _ begins.isBlank]

/-! ## How other values begin -/

namespace Tree.Begins

variable {tree : Tree} {first : Char}

theorem ne_quote (begins : tree.Begins first) (other : tree.text? = none) : first ≠ '"' := by
  cases tree with
  | number => exact ne_of_startsNumeral begins (by decide)
  | boolean value => cases value <;> cases begins <;> decide
  | text => cases other
  | _ => cases begins; decide

theorem ne_n (begins : tree.Begins first) (other : tree ≠ .null) : first ≠ 'n' := by
  cases tree with
  | number => exact ne_of_startsNumeral begins (by decide)
  | boolean value => cases value <;> cases begins <;> decide
  | null => exact absurd rfl other
  | _ => cases begins; decide

theorem ne_bracket (begins : tree.Begins first) (other : tree.items? = none) : first ≠ '[' := by
  cases tree with
  | number => exact ne_of_startsNumeral begins (by decide)
  | boolean value => cases value <;> cases begins <;> decide
  | list => cases other
  | _ => cases begins; decide

end Tree.Begins

/-! ## Strings -/

theorem readString_otherwise {tree : Tree} {first : Char} (begins : tree.Begins first)
    (other : tree.text? = none) (blanks : Blanks) (more : List Char) :
    (readString (blanks.val ++ first :: more)).toOption = none := by
  rw [readString, skipBlanks_of_begins begins]
  have := begins.ne_quote other
  split
  · contradiction
  · next equal => exact absurd (List.cons_eq_cons.mp equal).1 this
  · rfl

theorem readString_text {spelling characters : List Char} (spelled : SpellsText spelling characters)
    (blanks : Blanks) (rest : List Char) :
    readString (blanks.val ++ ('"' :: spelling ++ ['"'] ++ rest)) =
      .ok (String.ofList characters, rest) := by
  have read := readText_of_spellsText spelled rest
  simp only [List.cons_append, List.append_assoc, List.nil_append]
  rw [readString, skipBlanks_blanks, skipBlanks_cons _ (by decide)]
  simp only [read, bind, Except.bind]

theorem reads_readString : Reads readString Tree.string? := by
  intro blanks text tree rest spelled boundary
  cases said : tree.text? with
  | none =>
    obtain ⟨first, more, rfl, begins⟩ := spelled.begins
    rw [List.cons_append, readString_otherwise begins said, Tree.string?, said]
    rfl
  | some characters =>
    cases spelled with
    | text isText =>
      rw [readString_text isText]
      rfl
    | _ => cases said

/-- Anything but `null` is read as a string. -/
theorem readStringOrNull_otherwise {tree : Tree} {first : Char} (begins : tree.Begins first)
    (notNull : first ≠ 'n') (blanks : Blanks) (more : List Char) :
    readStringOrNull (blanks.val ++ first :: more) = (readString (first :: more)).map
      fun read => (some read.1, read.2) := by
  rw [readStringOrNull, skipBlanks_of_begins begins]
  split
  · next equal => exact absurd (List.cons_eq_cons.mp equal).1 notNull
  · cases readString (first :: more) <;> rfl

theorem reads_readStringOrNull : Reads readStringOrNull Tree.stringOrNull? := by
  intro blanks text tree rest spelled boundary
  by_cases isNull : tree = .null
  · subst isNull
    cases spelled
    have read := readIdent_append ['u', 'l', 'l'] rest
    rw [readStringOrNull, skipBlanks_blanks, List.cons_append, skipBlanks_cons _ (by decide)]
    simp only [read, bind, Except.bind]
    rfl
  · obtain ⟨first, more, rfl, begins⟩ := spelled.begins
    have asString := reads_readString.here spelled boundary
    have meant : tree.stringOrNull? = tree.string?.map some := by
      cases tree <;> first | rfl | exact absurd rfl isNull
    rw [List.cons_append] at asString
    rw [List.cons_append, readStringOrNull_otherwise begins (begins.ne_n isNull), toOption_map,
      asString, meant]
    cases tree.string? <;> rfl

/-! ## Numbers -/

theorem readFloat_otherwise {tree : Tree} {first : Char} (begins : tree.Begins first)
    (other : ∀ numeral, tree ≠ .number numeral) (blanks : Blanks) (more : List Char) :
    (readFloat (blanks.val ++ first :: more)).toOption = none := by
  have noNumeral : startsNumeral first = false := by
    cases tree with
    | number numeral => exact absurd rfl (other numeral)
    | boolean value => cases value <;> cases begins <;> rfl
    | _ => cases begins; rfl
  rw [readFloat, skipBlanks_of_begins begins]
  simp only [noNumeral, Bool.false_eq_true, if_false]
  rfl

theorem reads_readFloat : Reads readFloat Tree.double? := by
  intro blanks text tree rest spelled boundary
  obtain ⟨first, more, rfl, begins⟩ := spelled.begins
  rw [List.cons_append]
  cases tree with
  | number numeral =>
    cases spelled with
    | number isNumeral =>
      have starts : startsNumeral first = true := begins
      have read := Numeral.read_of_spellsNumeral .endInValue isNumeral boundary.endsNumeral
      rw [List.cons_append] at read
      rw [readFloat, skipBlanks_of_begins begins]
      simp only [starts, if_true, Number.read, read, toOption_bind, toOption_ok, Option.bind_some]
      rw [Tree.double?, ← numeral.value_toFloat rest]
      cases (numeral.value rest).toOption <;> rfl
  | _ =>
    rw [readFloat_otherwise begins nofun]
    rfl

/-! ## Lists -/

theorem nextElement_end (first : Bool) (blanks : Blanks) (rest : List Char) :
    nextElement first (blanks.val ++ ']' :: rest) = .ok (false, ']' :: rest) := by
  rw [nextElement, skipBlanks_blanks, skipBlanks_cons _ (by decide)]
  rfl

theorem nextElement_first {text : List Char} {tree : Tree} (spelled : Spells text tree)
    (blanks : Blanks) (rest : List Char) :
    nextElement true (blanks.val ++ (text ++ rest)) = .ok (true, text ++ rest) := by
  obtain ⟨first, more, rfl, begins⟩ := spelled.begins
  obtain ⟨-, noEnd, -⟩ := begins.noSeparator
  rw [List.cons_append, nextElement, skipBlanks_of_begins begins]
  split
  · contradiction
  · next equal => exact absurd (List.cons_eq_cons.mp equal).1 noEnd
  · next equal =>
    obtain ⟨rfl, rfl⟩ := List.cons_eq_cons.mp equal
    rfl

theorem nextElement_comma {text : List Char} {tree : Tree} (spelled : Spells text tree)
    (after before : Blanks) (rest : List Char) :
    nextElement false (after.val ++ ',' :: (before.val ++ (text ++ rest))) =
      .ok (true, text ++ rest) := by
  obtain ⟨first, more, rfl, begins⟩ := spelled.begins
  obtain ⟨-, noEnd, -⟩ := begins.noSeparator
  rw [List.cons_append, nextElement, skipBlanks_blanks, skipBlanks_cons _ (by decide)]
  split
  · contradiction
  · next equal => exact absurd (List.cons_eq_cons.mp equal).1 (by decide)
  · next equal =>
    obtain ⟨rfl, rfl⟩ := List.cons_eq_cons.mp equal
    rw [if_neg (by decide), if_pos rfl, skipBlanks_of_begins begins]
    split
    · contradiction
    · next equal => exact absurd (List.cons_eq_cons.mp equal).1 noEnd
    · rfl

/-- Leaves the list or the object that something was read in. -/
def leaving {α : Type} (leave : List Char → Except Failure (List Char))
    (inside : Option (Reading α)) : Option (Reading α) :=
  inside.bind fun read => (leave read.2).toOption.map fun rest => (read.1, rest)

theorem closeList_toOption {α : Type} (inside : Except Failure (Reading α)) :
    (closeList inside).toOption = leaving leaveList inside.toOption := by
  cases inside with
  | error => rfl
  | ok read =>
    rw [closeList, toOption_bind, leaving, toOption_ok, Option.bind_some]
    cases (leaveList read.2).toOption <;> rfl

section Elements

variable {α : Type} {element : Reader α} {meaning : Tree → Option α}

/-- One element and what follows it. -/
theorem readElements_of_next (reads : Reads element meaning) {first : Bool}
    {text inside : List Char} {item : Item} (spelled : Spells item.text item.tree) (rounds : Nat)
    (next : nextElement first text = .ok (true, item.text ++ inside))
    (boundary : AtBoundary inside) :
    (readElements element (rounds + 1) first text).toOption =
      (meaning item.tree).bind fun value =>
        (readElements element rounds false inside).toOption.map
          fun read => (value :: read.1, read.2) := by
  have read := reads.here spelled boundary
  rw [readElements, next]
  simp only [toOption_bind, toOption_ok, Option.bind_some, if_true, read]
  cases meaning item.tree with
  | none => rfl
  | some value =>
    simp only [Option.map_some, Option.bind_some]
    cases (readElements element rounds false inside).toOption <;> rfl

theorem readElements_end (element : Reader α) (rounds : Nat) (first : Bool) (blanks : Blanks)
    (rest : List Char) :
    readElements element (rounds + 1) first (blanks.val ++ ']' :: rest) =
      .ok ([], ']' :: rest) := by
  rw [readElements, nextElement_end]
  rfl

/-- The elements behind the first, one for each that is written. -/
theorem readElements_others (reads : Reads element meaning) (after : Blanks)
    {others : List (Padded Item)}
    (spelled : ∀ other ∈ others, Spells other.content.text other.content.tree) (rest : List Char)
    {rounds : Nat} (enough : others.length < rounds) :
    (readElements element rounds false
      (after.val ++ (behindCommas Item.text others ++ ']' :: rest))).toOption =
        ((others.map fun other => other.content.tree).mapM meaning).map
          fun values => (values, ']' :: rest) := by
  induction others generalizing after rounds with
  | nil =>
    obtain ⟨rounds, rfl⟩ := Nat.exists_eq_add_of_lt enough
    rw [behindCommas, List.flatMap_nil, List.nil_append, readElements_end]
    rfl
  | cons other others ih =>
    obtain ⟨rounds, rfl⟩ := Nat.exists_eq_add_of_lt enough
    have here := spelled other List.mem_cons_self
    have next := nextElement_comma here after other.before
      (other.after.val ++ (behindCommas Item.text others ++ ']' :: rest))
    have boundary := atBoundary_others .list Item.text other.after others rest
    have enoughLater : others.length < (other :: others).length + rounds := by
      rw [List.length_cons]
      omega
    have later := ih other.after (fun another member =>
      spelled another (List.mem_cons_of_mem other member)) enoughLater
    simp only [behindCommas_cons, List.cons_append, List.append_assoc]
    rw [readElements_of_next reads here _ next boundary, later, List.map_cons, List.mapM_cons]
    cases meaning other.content.tree with
    | none => rfl
    | some value =>
      cases (others.map fun other => other.content.tree).mapM meaning <;> rfl

theorem length_le_behindCommas {β : Type} (write : β → List Char) (others : List (Padded β)) :
    others.length ≤ (behindCommas write others).length := by
  induction others with
  | nil => exact Nat.zero_le _
  | cons other others ih =>
    simp only [behindCommas_cons, List.length_cons, List.length_append]
    omega

/-- All elements up to the closing bracket; there is a round for each of them. -/
theorem readElements_separated (reads : Reads element meaning) (first : Padded Item)
    (others : List (Padded Item))
    (spelled : ∀ item ∈ first :: others, Spells item.content.text item.content.tree)
    (rest : List Char) :
    let inside := separated Item.text first others ++ ']' :: rest
    (readElements element inside.length true inside).toOption =
      (((first :: others).map fun item => item.content.tree).mapM meaning).map
        fun values => (values, ']' :: rest) := by
  intro inside
  have here := spelled first List.mem_cons_self
  have next := nextElement_first here first.before
    (first.after.val ++ (behindCommas Item.text others ++ ']' :: rest))
  have boundary := atBoundary_others .list Item.text first.after others rest
  obtain ⟨rounds, total, enough⟩ : ∃ rounds,
      inside.length = rounds + 1 ∧ others.length < rounds := by
    obtain ⟨head, more, begins, -⟩ := here.begins
    have commas := length_le_behindCommas Item.text others
    refine ⟨first.before.val.length + more.length + first.after.val.length +
      (behindCommas Item.text others).length + rest.length + 1, ?_, by omega⟩
    simp only [inside, separated_append, begins, List.length_append, List.length_cons]
    omega
  have later := readElements_others reads first.after (fun other member =>
    spelled other (List.mem_cons_of_mem first member)) rest enough
  rw [← separated_append] at next
  rw [total, readElements_of_next reads here rounds next boundary, later, List.map_cons,
    List.mapM_cons]
  cases meaning first.content.tree with
  | none => rfl
  | some value =>
    cases (others.map fun other => other.content.tree).mapM meaning <;> rfl

theorem readList_bracket (element : Reader α) (blanks : Blanks) (inside : List Char) :
    readList element (blanks.val ++ '[' :: inside) =
      closeList (readElements element inside.length true inside) := by
  rw [readList, skipBlanks_blanks, skipBlanks_cons _ (by decide)]
  rfl

theorem readList_otherwise {tree : Tree} {first : Char} (begins : tree.Begins first)
    (other : tree.items? = none) (element : Reader α) (blanks : Blanks) (more : List Char) :
    (readList element (blanks.val ++ first :: more)).toOption = none := by
  have := begins.ne_bracket other
  rw [readList, skipBlanks_of_begins begins]
  split
  · contradiction
  · next equal => exact absurd (List.cons_eq_cons.mp equal).1 this
  · rfl

/-- A list is read right if its elements are. -/
theorem reads_readList (reads : Reads element meaning) :
    Reads (readList element) (Tree.list? meaning) := by
  intro blanks text tree rest spelled boundary
  cases said : tree.items? with
  | none =>
    obtain ⟨first, more, rfl, begins⟩ := spelled.begins
    rw [List.cons_append, readList_otherwise begins said, Tree.list?, said]
    rfl
  | some items =>
    cases spelled with
    | emptyList inside =>
      cases said
      simp only [List.cons_append, List.append_assoc, List.nil_append]
      have rounds : (inside.val ++ ']' :: rest).length = inside.val.length + rest.length + 1 := by
        simp only [List.length_append, List.length_cons]
        omega
      rw [readList_bracket, rounds, readElements_end]
      rfl
    | list first others parts =>
      cases said
      simp only [List.cons_append, List.append_assoc, List.nil_append]
      rw [readList_bracket, closeList_toOption, readElements_separated reads first others parts,
        Tree.list?, Tree.items?, Option.bind_some]
      cases ((first :: others).map fun item => item.content.tree).mapM meaning <;> rfl
    | _ => cases said

end Elements

end Acceptor.Json
