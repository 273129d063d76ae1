import Acceptor.Decimal.Layout

/-! # JSON values as text

The values that definitions are written with, and their text: two blanks of indentation per level,
one item or member a line, members in the order of the list. A number that has no digits is written
`null`.
-/

namespace Acceptor.Json

/-- A value to be written. -/
inductive Value
  | text (value : String)
  | number (value : Float)
  | list (items : List Value)
  | object (members : List (String × Value))
deriving Inhabited

/-- A hexadecimal digit in lower case. -/
def hexDigit (value : Nat) : Char := Nat.digitChar value

/-- How a character reads inside a JSON string: what has a short escape takes it, other controls
take four hexadecimal digits, everything else stands for itself. -/
def escapeChar (character : Char) : List Char :=
  if character = '"' then ['\\', '"']
  else if character = '\\' then ['\\', '\\']
  else if character = '\x08' then ['\\', 'b']
  else if character = '\t' then ['\\', 't']
  else if character = '\n' then ['\\', 'n']
  else if character = '\x0c' then ['\\', 'f']
  else if character = '\r' then ['\\', 'r']
  else if character.toNat < 0x20 then
    ['\\', 'u', '0', '0', hexDigit (character.toNat / 16), hexDigit (character.toNat % 16)]
  else [character]

/-- A text between its quotes. -/
def quote (characters : List Char) : List Char := '"' :: characters.flatMap escapeChar ++ ['"']

/-- A number, or `null` where there are no digits. -/
def numberText (value : Float) : List Char := (Decimal.floatText? value).getD "null".toList

/-- A line break and the indentation of a level. -/
def newLine (level : Nat) : List Char := '\n' :: List.replicate (2 * level) ' '

/-- Items between brackets, each on a line of its own. -/
def bracketed (opening closing : Char) (level : Nat) (items : List (List Char)) : List Char :=
  if items.isEmpty then [opening, closing]
  else
    let lines := items.map (newLine (level + 1) ++ ·)
    opening :: [','].intercalate lines ++ newLine level ++ [closing]

namespace Value

mutual

/-- The text of a value at a level of indentation. -/
def renderAt (level : Nat) : Value → List Char
  | text value => quote value.toList
  | number value => numberText value
  | list items => bracketed '[' ']' level (renderItems (level + 1) items)
  | object members => bracketed '\x7b' '\x7d' level (renderMembers (level + 1) members)

def renderItems (level : Nat) : List Value → List (List Char)
  | [] => []
  | item :: rest => renderAt level item :: renderItems level rest

def renderMembers (level : Nat) : List (String × Value) → List (List Char)
  | [] => []
  | (name, value) :: rest =>
    (quote name.toList ++ [':', ' '] ++ renderAt level value) :: renderMembers level rest

end

/-- The text of a value on its own. -/
def render (value : Value) : List Char := value.renderAt 0

end Value

end Acceptor.Json
