import Acceptor.Text.Extending
import Acceptor.Text.Hidden

/-! # Quoted text

Words and symbols between quotes, with every character that a reader could not tell from its look
spelled out: a text in double quotes, a single character in single ones. Only the quote that
delimits is escaped, the other kind stands for itself.
-/

namespace Acceptor.Text

/-- The digits of a code point in lower case hexadecimal, as few as it needs. -/
def hexDigits (number : Nat) : List Char := Nat.toDigits 16 number

namespace Quoted

/-- How one character reads between two `delimiter`s. -/
def encodeChar (delimiter character : Char) : List Char :=
  if character = '\x00' then ['\\', '0']
  else if character = '\t' then ['\\', 't']
  else if character = '\r' then ['\\', 'r']
  else if character = '\n' then ['\\', 'n']
  else if character = '\\' || character = delimiter then ['\\', character]
  else if isHidden character || isExtending character then
    ['\\', 'u', '\x7b'] ++ hexDigits character.toNat ++ ['\x7d']
  else [character]

/-- A text in double quotes. -/
def text (characters : List Char) : String :=
  String.ofList ('"' :: characters.flatMap (encodeChar '"') ++ ['"'])

/-- A character in single quotes. -/
def char (character : Char) : String :=
  String.ofList ('\'' :: encodeChar '\'' character ++ ['\''])

/-- Characters in single quotes, listed between brackets. -/
def chars (characters : List Char) : String :=
  "[" ++ ", ".intercalate (characters.map char) ++ "]"

end Quoted

end Acceptor.Text
