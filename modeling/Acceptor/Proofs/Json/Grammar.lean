import Acceptor.Json.Skip

/-! # What JSON texts spell

The grammar of JSON, said without readers: which texts spell a string, a numeral or a value, and
which value that is. White space may stand around every value, key and separator; a string may spell
any of its characters by an escape, with surrogates in pairs only; a numeral stays as it is written.
A value may have many texts, but no reader is mentioned here and none is favoured.
-/

namespace Acceptor.Json

/-- What a JSON text says: strings and keys as their characters, numbers as they are written, the
members of an object in order and with all repetitions. -/
inductive Tree
  | null
  | boolean (value : Bool)
  | number (numeral : Numeral)
  | text (characters : List Char)
  | list (items : List Tree)
  | object (members : List (List Char × Tree))
deriving Inhabited

/-- A key and its value. -/
abbrev Entry := List Char × Tree

/-! ## Strings -/

/-- A hexadecimal digit and its value, in either case. -/
def HexDigit (digit : Char) (value : Nat) : Prop :=
  value < 16 ∧ (digit = Nat.digitChar value ∨ digit = (Nat.digitChar value).toUpper)

/-- Four hexadecimal digits and the number they spell. -/
inductive SpellsUnit : List Char → Nat → Prop
  | digits {first second third fourth : Char} {high upper lower low : Nat} :
    HexDigit first high → HexDigit second upper → HexDigit third lower → HexDigit fourth low →
    SpellsUnit [first, second, third, fourth] (((high * 16 + upper) * 16 + lower) * 16 + low)

/-- The letters that stand for a character behind a backslash. -/
def shortEscapes : List (Char × Char) :=
  [('"', '"'), ('\\', '\\'), ('/', '/'), ('b', '\x08'), ('f', '\x0c'), ('n', '\n'), ('r', '\r'),
    ('t', '\t')]

/-- One character inside a string: as itself unless it is a control, a quote or a backslash, by a
short escape, by its number, or by the two halves of its surrogate pair. -/
inductive SpellsChar : List Char → Char → Prop
  | plain {character : Char} : character ≠ '"' → character ≠ '\\' → 0x20 ≤ character.toNat →
    SpellsChar [character] character
  | short {letter character : Char} : (letter, character) ∈ shortEscapes →
    SpellsChar ['\\', letter] character
  | unit {digits : List Char} {character : Char} : SpellsUnit digits character.toNat →
    SpellsChar ('\\' :: 'u' :: digits) character
  | pair {first second : List Char} {leading trailing : Nat} {character : Char} :
    SpellsUnit first leading → SpellsUnit second trailing →
    0xd800 ≤ leading → leading ≤ 0xdbff → 0xdc00 ≤ trailing → trailing ≤ 0xdfff →
    character.toNat = 0x10000 + (leading - 0xd800) * 0x400 + (trailing - 0xdc00) →
    SpellsChar ('\\' :: 'u' :: first ++ '\\' :: 'u' :: second) character

/-- The inside of a string. -/
inductive SpellsText : List Char → List Char → Prop
  | nil : SpellsText [] []
  | cons {spelling more characters : List Char} {character : Char} :
    SpellsChar spelling character → SpellsText more characters →
    SpellsText (spelling ++ more) (character :: characters)

/-! ## Numerals -/

/-- Decimal digits, at least one. -/
def Digits (digits : List Char) : Prop :=
  digits ≠ [] ∧ ∀ digit ∈ digits, digit.isDigit = true

/-- The whole part of a numeral: no zero stands in front of other digits. -/
def WholeDigits (digits : List Char) : Prop :=
  digits = ['0'] ∨ Digits digits ∧ digits.head? ≠ some '0'

-- The bounded quantifier is decided along the list, not over all characters.
instance : DecidablePred Digits := fun digits =>
  @instDecidableAnd (digits ≠ []) (∀ digit ∈ digits, digit.isDigit = true) inferInstance
    (List.decidableBAll (fun digit => digit.isDigit = true) digits)

instance : DecidablePred WholeDigits := fun digits =>
  inferInstanceAs (Decidable (digits = ['0'] ∨ Digits digits ∧ digits.head? ≠ some '0'))

inductive SpellsDecimals : List Char → List Char → Prop
  | absent : SpellsDecimals [] []
  | present {digits : List Char} : Digits digits → SpellsDecimals ('.' :: digits) digits

inductive SpellsSign : List Char → Bool → Prop
  | absent : SpellsSign [] false
  | plus : SpellsSign ['+'] false
  | minus : SpellsSign ['-'] true

inductive SpellsExponent : List Char → Option Exponent → Prop
  | absent : SpellsExponent [] none
  | present {mark : Char} {sign digits : List Char} {negative : Bool} :
    mark = 'e' ∨ mark = 'E' → SpellsSign sign negative → Digits digits →
    SpellsExponent (mark :: sign ++ digits) (some ⟨negative, digits⟩)

/-- A numeral, with a minus sign in front if it is negative. -/
inductive SpellsNumeral : List Char → Numeral → Prop
  | parts {numeral : Numeral} {decimals exponent : List Char} : WholeDigits numeral.whole →
    SpellsDecimals decimals numeral.decimals → SpellsExponent exponent numeral.exponent →
    SpellsNumeral ((if numeral.negative then ['-'] else []) ++ numeral.whole ++ decimals ++
      exponent) numeral

/-! ## Values -/

/-- White space, possibly none. -/
abbrev Blanks := { blanks : List Char // ∀ blank ∈ blanks, isBlank blank = true }

/-- No white space. -/
def noBlanks : Blanks := ⟨[], fun _ listed => absurd listed List.not_mem_nil⟩

@[simp] theorem val_noBlanks : noBlanks.val = [] := rfl

/-- Something between white space. -/
structure Padded (α : Type) where
  before : Blanks
  content : α
  after : Blanks

def Padded.text {α : Type} (write : α → List Char) (padded : Padded α) : List Char :=
  padded.before.val ++ write padded.content ++ padded.after.val

/-- Further things, each behind a comma. -/
def behindCommas {α : Type} (write : α → List Char) (others : List (Padded α)) : List Char :=
  others.flatMap fun other => ',' :: other.text write

/-- One or several things, each but the first behind a comma. -/
def separated {α : Type} (write : α → List Char) (first : Padded α) (others : List (Padded α)) :
    List Char :=
  first.text write ++ behindCommas write others

/-- A value with its text. -/
structure Item where
  text : List Char
  tree : Tree

/-- A member of an object with its text: a key, a colon and a value. -/
structure Member where
  spelling : List Char
  key : List Char
  beforeColon : Blanks
  behindColon : Blanks
  item : Item

namespace Member

/-- What follows the key. -/
def behindKey (member : Member) : List Char :=
  member.beforeColon.val ++ ':' :: member.behindColon.val ++ member.item.text

def text (member : Member) : List Char :=
  '"' :: member.spelling ++ '"' :: member.behindKey

def entry (member : Member) : Entry := (member.key, member.item.tree)

end Member

/-- The text spells the value, with nothing around it. -/
inductive Spells : List Char → Tree → Prop
  | null : Spells ['n', 'u', 'l', 'l'] .null
  | yes : Spells ['t', 'r', 'u', 'e'] (.boolean true)
  | no : Spells ['f', 'a', 'l', 's', 'e'] (.boolean false)
  | number {text : List Char} {numeral : Numeral} : SpellsNumeral text numeral →
    Spells text (.number numeral)
  | text {spelling characters : List Char} : SpellsText spelling characters →
    Spells ('"' :: spelling ++ ['"']) (.text characters)
  | emptyList (inside : Blanks) : Spells ('[' :: inside.val ++ [']']) (.list [])
  | list (first : Padded Item) (others : List (Padded Item)) :
    (∀ item ∈ first :: others, Spells item.content.text item.content.tree) →
    Spells ('[' :: separated Item.text first others ++ [']'])
      (.list ((first :: others).map fun item => item.content.tree))
  | emptyObject (inside : Blanks) : Spells ('\x7b' :: inside.val ++ ['\x7d']) (.object [])
  | object (first : Padded Member) (others : List (Padded Member)) :
    (∀ member ∈ first :: others, SpellsText member.content.spelling member.content.key) →
    (∀ member ∈ first :: others, Spells member.content.item.text member.content.item.tree) →
    Spells ('\x7b' :: separated Member.text first others ++ ['\x7d'])
      (.object ((first :: others).map fun member => member.content.entry))

/-- A whole text: a value and white space around it. -/
def IsDocument (text : List Char) (tree : Tree) : Prop :=
  ∃ (before after : Blanks) (inside : List Char),
    text = before.val ++ inside ++ after.val ∧ Spells inside tree

end Acceptor.Json
