import Acceptor.Decimal.Layout
import Acceptor.Text.Quoted

/-! # Failures of reading

Why a text could not be read, and where. A place is kept as what is left of the text there and how
many bytes further on the fault lies; line and column are worked out once, from the whole text.

A fault of the text has its place from the start. A fault of the meaning (a member that is missing
or given twice, a symbol that is none) has none when it is found: it gets the place that reading
reaches when it tries to leave the list or object around it. Until then it is `pending`.
-/

namespace Acceptor.Json

/-- What stands where something else is wanted. -/
inductive Found
  | null
  | boolean (value : Bool)
  | integer (value : Int)
  | float (value : Float)
  | text (value : List Char)
  | sequence
  | map

namespace Found

def message : Found → String
  | null => "null"
  | boolean value => s!"boolean `{value}`"
  | integer value => s!"integer `{value}`"
  | float value =>
    "floating point `" ++ String.ofList ((Decimal.floatText? value).getD "NaN".toList) ++ "`"
  | text value => "string " ++ Text.Quoted.text value
  | sequence => "sequence"
  | map => "map"

end Found

/-- Why reading fails. -/
inductive Cause
  | endInValue
  | endInList
  | endInObject
  | endInText
  | noValue
  | noIdent
  | noColon
  | noListSeparator
  | noObjectSeparator
  | keyNotText
  | trailingComma
  | trailingCharacters
  | invalidNumber
  | numberOutOfRange
  | invalidEscape
  | loneSurrogate
  | unfinishedSurrogate
  | controlCharacter
  | mismatch (found : Found) (wanted : String)
  | missingField (name : String)
  | duplicateField (name : String)
  | invalidLength (length : Nat) (record : String) (fields : Nat)
  | notOneSymbol (text : List Char)

namespace Cause

def message : Cause → String
  | endInValue => "EOF while parsing a value"
  | endInList => "EOF while parsing a list"
  | endInObject => "EOF while parsing an object"
  | endInText => "EOF while parsing a string"
  | noValue => "expected value"
  | noIdent => "expected ident"
  | noColon => "expected `:`"
  | noListSeparator => "expected `,` or `]`"
  | noObjectSeparator => "expected `,` or `\x7d`"
  | keyNotText => "key must be a string"
  | trailingComma => "trailing comma"
  | trailingCharacters => "trailing characters"
  | invalidNumber => "invalid number"
  | numberOutOfRange => "number out of range"
  | invalidEscape => "invalid escape"
  | loneSurrogate => "lone leading surrogate in hex escape"
  | unfinishedSurrogate => "unexpected end of hex escape"
  | controlCharacter => "control character (\\u0000-\\u001F) found while parsing a string"
  | mismatch found wanted => "invalid type: " ++ found.message ++ ", expected " ++ wanted
  | missingField name => "missing field `" ++ name ++ "`"
  | duplicateField name => "duplicate field `" ++ name ++ "`"
  | invalidLength length record fields =>
    s!"invalid length {length}, expected struct {record} with {fields} elements"
  | notOneSymbol text => "a symbol must be exactly one character, got " ++ Text.Quoted.text text

end Cause

/-- What is left of the text, and how many bytes of it are passed. -/
structure Place where
  rest : List Char
  ahead : Nat

/-- A cause with its place, or still without one at what was left when it was found. -/
inductive Failure
  | placed (cause : Cause) (place : Place)
  | pending (cause : Cause) (rest : List Char)

namespace Failure

/-- A fault right here: what is consumed includes it. -/
def here (cause : Cause) (rest : List Char) : Failure := .placed cause ⟨rest, 0⟩

/-- A fault at the next byte, if there is one. -/
def next (cause : Cause) (rest : List Char) : Failure := .placed cause ⟨rest, 1⟩

/-- Gives a fault of the meaning its place: where reading comes to by `leave`. -/
def settle (leave : List Char → List Char) : Failure → Failure
  | placed cause place => placed cause place
  | pending cause rest => here cause (leave rest)

def cause : Failure → Cause
  | placed cause _ => cause
  | pending cause _ => cause

def place : Failure → Place
  | placed _ place => place
  | pending _ rest => ⟨rest, 0⟩

end Failure

/-- A value and what is left of the text behind it. -/
abbrev Reading (α : Type) := α × List Char

/-- Reads a value from the start of a text. -/
abbrev Reader (α : Type) := List Char → Except Failure (Reading α)

/-- Reading in two parts succeeds when both parts do. -/
theorem bind_eq_ok_iff {α β : Type} {first : Except Failure α} {second : α → Except Failure β}
    {value : β} :
    first >>= second = .ok value ↔ ∃ read, first = .ok read ∧ second read = .ok value := by
  cases first <;> simp [bind, Except.bind]

/-- A place for people: lines count from one, columns count bytes. -/
structure Location where
  line : Nat
  column : Nat
deriving DecidableEq, Repr

/-- The bytes of a text. -/
def byteLength : List Char → Nat
  | [] => 0
  | character :: rest => character.utf8Size + byteLength rest

/-- The location so many bytes on from a location; a line break leads to the column before the first
of the next line. -/
def Location.advance (location : Location) : List Char → Nat → Location
  | [], _ => location
  | character :: rest, bytes =>
    if bytes < character.utf8Size then { location with column := location.column + bytes }
    else
      let passed := if character = '\n' then ⟨location.line + 1, 0⟩
        else { location with column := location.column + character.utf8Size }
      passed.advance rest (bytes - character.utf8Size)

/-- The location of a place in the whole text; no place lies behind the end. -/
def Place.location (place : Place) (whole : List Char) : Location :=
  let length := byteLength whole
  Location.advance ⟨1, 0⟩ whole (min length (length - byteLength place.rest + place.ahead))

end Acceptor.Json
