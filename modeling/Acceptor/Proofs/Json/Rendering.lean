import Acceptor.Json.Value
import Acceptor.Proofs.Decimal.Spelling
import Acceptor.Proofs.Json.Lexical

/-! # Values are written as JSON

Strings are escaped so that they say their characters, numbers are numerals or `null`, and lists and
objects hold their parts between commas and line breaks. So a value can be put in writing, with a
text that spells it (`Written`), the text is the one that the value is rendered to
(`toItem_written`), and that is a JSON document (`isDocument_render`).
-/

namespace Acceptor.Json

/-! ## Strings -/

theorem spellsUnit_control {character : Char} (control : character.toNat < 0x20) :
    SpellsUnit ['0', '0', hexDigit (character.toNat / 16), hexDigit (character.toNat % 16)]
      character.toNat := by
  have zero : HexDigit '0' 0 := ⟨by decide, .inl rfl⟩
  have upper : HexDigit (hexDigit (character.toNat / 16)) (character.toNat / 16) :=
    ⟨by omega, .inl rfl⟩
  have lower : HexDigit (hexDigit (character.toNat % 16)) (character.toNat % 16) :=
    ⟨by omega, .inl rfl⟩
  have whole : ((0 * 16 + 0) * 16 + character.toNat / 16) * 16 + character.toNat % 16 =
      character.toNat := by omega
  have spelled := SpellsUnit.digits zero zero upper lower
  rwa [whole] at spelled

theorem spellsChar_escapeChar (character : Char) :
    SpellsChar (escapeChar character) character := by
  rw [escapeChar]
  split_ifs with quote backslash backspace tab line page carriage control
  · subst quote
    exact .short (by decide)
  · subst backslash
    exact .short (by decide)
  · subst backspace
    exact .short (by decide)
  · subst tab
    exact .short (by decide)
  · subst line
    exact .short (by decide)
  · subst page
    exact .short (by decide)
  · subst carriage
    exact .short (by decide)
  · exact .unit (spellsUnit_control control)
  · exact .plain quote backslash (Nat.not_lt.mp control)

theorem spellsText_escaped (characters : List Char) :
    SpellsText (characters.flatMap escapeChar) characters := by
  induction characters with
  | nil => exact .nil
  | cons character characters ih => exact .cons (spellsChar_escapeChar character) ih

/-! ## Numbers -/

/-- What the text of a number says. -/
def numberTree (value : Float) : Tree :=
  match Decimal.floatText? value with
  | none => .null
  | some text =>
    match Numeral.read .endInValue text with
    | .ok (numeral, _) => .number numeral
    | .error _ => .null

theorem spells_numberText (value : Float) : Spells (numberText value) (numberTree value) := by
  rw [numberText, numberTree]
  cases written : Decimal.floatText? value with
  | none => exact .null
  | some text =>
    obtain ⟨numeral, spelled⟩ := Decimal.exists_numeral_of_floatText? written
    have read : Numeral.read .endInValue (text ++ []) = .ok (numeral, []) :=
      Numeral.read_of_spellsNumeral .endInValue spelled nofun
    rw [List.append_nil] at read
    simp only [read, Option.getD_some]
    exact .number spelled

/-! ## Parts on lines of their own -/

/-- White space up to a level. -/
def lineBreak (level : Nat) : Blanks :=
  ⟨newLine level, by simp [newLine, isBlank]⟩

theorem behindCommas_eq {α : Type} (write : α → List Char) (other : Padded α)
    (others : List (Padded α)) :
    behindCommas write (other :: others) = ',' :: separated write other others := rfl

/-- Parts between brackets, with a line break in front of each and another behind the last. -/
theorem exists_onLines {α : Type} (write : α → List Char) (level : Nat) (part : α)
    (parts : List α) :
    ∃ first others, (first :: others).map Padded.content = part :: parts ∧
      [','].intercalate ((part :: parts).map fun part => newLine (level + 1) ++ write part) ++
        newLine level = separated write first others := by
  induction parts generalizing part with
  | nil =>
    refine ⟨⟨lineBreak (level + 1), part, lineBreak level⟩, [], rfl, ?_⟩
    simp [separated, behindCommas, Padded.text, lineBreak, List.intercalate]
  | cons next parts ih =>
    obtain ⟨first, others, contents, text⟩ := ih next
    refine ⟨⟨lineBreak (level + 1), part, noBlanks⟩, first :: others, ?_, ?_⟩
    · rw [List.map_cons, contents]
    · rw [separated, behindCommas_eq, ← text]
      simp [Padded.text, lineBreak, List.intercalate]

theorem exists_bracketed {α : Type} (write : α → List Char) (opening closing : Char) (level : Nat)
    (part : α) (parts : List α) :
    ∃ first others, (first :: others).map Padded.content = part :: parts ∧
      bracketed opening closing level ((part :: parts).map write) =
        opening :: separated write first others ++ [closing] := by
  obtain ⟨first, others, contents, text⟩ := exists_onLines write level part parts
  refine ⟨first, others, contents, ?_⟩
  rw [← text]
  simp [bracketed, Function.comp_def]

theorem spells_items (level : Nat) {items : List Item}
    (spelled : ∀ item ∈ items, Spells item.text item.tree) :
    Spells (bracketed '[' ']' level (items.map Item.text)) (.list (items.map Item.tree)) := by
  cases items with
  | nil => exact .emptyList noBlanks
  | cons item items =>
    obtain ⟨first, others, contents, text⟩ :=
      exists_bracketed Item.text '[' ']' level item items
    rw [text, ← contents, List.map_map]
    refine .list first others fun padded listed => spelled padded.content ?_
    rw [← contents]
    exact List.mem_map_of_mem listed

theorem spells_members (level : Nat) {members : List Member}
    (keys : ∀ member ∈ members, SpellsText member.spelling member.key)
    (spelled : ∀ member ∈ members, Spells member.item.text member.item.tree) :
    Spells (bracketed '\x7b' '\x7d' level (members.map Member.text))
      (.object (members.map Member.entry)) := by
  cases members with
  | nil => exact .emptyObject noBlanks
  | cons member members =>
    obtain ⟨first, others, contents, text⟩ :=
      exists_bracketed Member.text '\x7b' '\x7d' level member members
    have listed : ∀ padded ∈ first :: others, padded.content ∈ member :: members := by
      intro padded listed
      rw [← contents]
      exact List.mem_map_of_mem listed
    rw [text, ← contents, List.map_map]
    exact .object first others (fun padded among => keys _ (listed padded among))
      fun padded among => spelled _ (listed padded among)

/-! ## Values in writing -/

/-- A value with a text that spells it. -/
structure Written extends Item where
  spelled : Spells text tree

namespace Written

def null : Written := ⟨⟨"null".toList, .null⟩, .null⟩

def yes : Written := ⟨⟨"true".toList, .boolean true⟩, .yes⟩

def no : Written := ⟨⟨"false".toList, .boolean false⟩, .no⟩

def number {text : List Char} {numeral : Numeral} (spelled : SpellsNumeral text numeral) :
    Written :=
  ⟨⟨text, .number numeral⟩, .number spelled⟩

/-- A string between quotes. -/
def string (value : String) : Written :=
  ⟨⟨quote value.toList, .text value.toList⟩, .text (spellsText_escaped value.toList)⟩

/-- Items between brackets, at a level of indentation. -/
def list (level : Nat) (items : List Written) : Written where
  text := bracketed '[' ']' level ((items.map toItem).map Item.text)
  tree := .list ((items.map toItem).map Item.tree)
  spelled := by
    apply spells_items
    intro item listed
    obtain ⟨written, -, rfl⟩ := List.mem_map.mp listed
    exact written.spelled

/-- A member with its name escaped and a blank in front of its value. -/
def member (named : String × Written) : Member where
  spelling := named.1.toList.flatMap escapeChar
  key := named.1.toList
  beforeColon := noBlanks
  behindColon := ⟨[' '], by simp [isBlank]⟩
  item := named.2.toItem

@[simp]
theorem entry_member (name : String) (written : Written) :
    (member (name, written)).entry = (name.toList, written.tree) := rfl

/-- Members between braces, at a level of indentation. -/
def object (level : Nat) (members : List (String × Written)) : Written where
  text := bracketed '\x7b' '\x7d' level ((members.map member).map Member.text)
  tree := .object ((members.map member).map Member.entry)
  spelled := by
    apply spells_members
    · intro part listed
      obtain ⟨named, -, rfl⟩ := List.mem_map.mp listed
      exact spellsText_escaped named.1.toList
    · intro part listed
      obtain ⟨named, -, rfl⟩ := List.mem_map.mp listed
      exact named.2.spelled

theorem toItem_list (level : Nat) (items : List Written) :
    (list level items).toItem =
      ⟨bracketed '[' ']' level ((items.map toItem).map Item.text),
        .list ((items.map toItem).map Item.tree)⟩ := rfl

theorem toItem_object (level : Nat) (members : List (String × Written)) :
    (object level members).toItem =
      ⟨bracketed '\x7b' '\x7d' level ((members.map member).map Member.text),
        .object ((members.map member).map Member.entry)⟩ := rfl

theorem isDocument (written : Written) : IsDocument written.text written.tree :=
  ⟨noBlanks, noBlanks, written.text, (List.append_nil _).symm, written.spelled⟩

end Written

namespace Value

mutual

/-- What the text of a value says. -/
def tree : Value → Tree
  | text value => .text value.toList
  | number value => numberTree value
  | list items => .list (itemTrees items)
  | object members => .object (memberEntries members)

def itemTrees : List Value → List Tree
  | [] => []
  | item :: rest => tree item :: itemTrees rest

def memberEntries : List (String × Value) → List Entry
  | [] => []
  | (name, value) :: rest => (name.toList, tree value) :: memberEntries rest

end

mutual

/-- A value in writing, at a level of indentation. -/
def written (level : Nat) : Value → Written
  | text value => .string value
  | number value => ⟨⟨numberText value, numberTree value⟩, spells_numberText value⟩
  | list items => .list level (writtenItems (level + 1) items)
  | object members => .object level (writtenMembers (level + 1) members)

def writtenItems (level : Nat) : List Value → List Written
  | [] => []
  | item :: rest => written level item :: writtenItems level rest

def writtenMembers (level : Nat) : List (String × Value) → List (String × Written)
  | [] => []
  | (name, value) :: rest => (name, written level value) :: writtenMembers level rest

end

theorem itemTrees_eq (items : List Value) : itemTrees items = items.map tree := by
  induction items with
  | nil => rfl
  | cons item items ih => rw [itemTrees, ih, List.map_cons]

mutual

/-- A value in writing is the text that it is rendered to, and says what that says. -/
theorem toItem_written (level : Nat) : (value : Value) →
    (value.written level).toItem = ⟨value.renderAt level, value.tree⟩
  | .text _ => rfl
  | .number _ => rfl
  | .list items => by
    obtain ⟨texts, trees⟩ := writtenItems_eq (level + 1) items
    rw [written, Written.toItem_list, texts, trees, renderAt, tree]
  | .object members => by
    obtain ⟨texts, entries⟩ := writtenMembers_eq (level + 1) members
    rw [written, Written.toItem_object, texts, entries, renderAt, tree]

theorem writtenItems_eq (level : Nat) : (items : List Value) →
    ((writtenItems level items).map Written.toItem).map Item.text = renderItems level items ∧
      ((writtenItems level items).map Written.toItem).map Item.tree = itemTrees items
  | [] => ⟨rfl, rfl⟩
  | item :: rest => by
    obtain ⟨texts, trees⟩ := writtenItems_eq level rest
    have first := toItem_written level item
    simp only [writtenItems, renderItems, itemTrees, List.map_cons, first, texts, trees, and_self]

theorem writtenMembers_eq (level : Nat) : (members : List (String × Value)) →
    ((writtenMembers level members).map Written.member).map Member.text =
        renderMembers level members ∧
      ((writtenMembers level members).map Written.member).map Member.entry = memberEntries members
  | [] => ⟨rfl, rfl⟩
  | (name, value) :: rest => by
    obtain ⟨texts, entries⟩ := writtenMembers_eq level rest
    have first := toItem_written level value
    constructor
    · rw [writtenMembers, renderMembers, List.map_cons, List.map_cons, texts]
      simp [Written.member, Member.text, Member.behindKey, quote, first]
    · rw [writtenMembers, memberEntries, List.map_cons, List.map_cons, entries]
      simp [first]

end

/-- A rendered value is a JSON document. -/
theorem isDocument_render (value : Value) : IsDocument value.render value.tree := by
  have document := (value.written 0).isDocument
  rwa [toItem_written] at document

end Value

end Acceptor.Json
