import Acceptor.Text.ControlSequence

/-! # Terminal styles

Colours and weight for terminals that understand `ESC[…m` sequences. A style opens with its own
code and closes with the code that takes it back, so styled texts can stand side by side.
-/

namespace Acceptor.Text

/-- How a stretch of text is shown. -/
inductive Style
  | blue
  | green
  | yellow
  | red
  | bold
deriving DecidableEq, Repr

namespace Style

/-- The code that switches the style on. -/
def opening : Style → Nat
  | blue => 34
  | green => 32
  | yellow => 33
  | red => 31
  | bold => 1

/-- The code that switches it off again: the default colour, or no style at all. -/
def closing : Style → Nat
  | bold => 0
  | _ => 39

/-- The control sequence with one code. -/
def sequence (code : Nat) : String := String.ofList (styling [code])

/-- The text shown in the style. -/
def paint (style : Style) (text : String) : String :=
  sequence style.opening ++ text ++ sequence style.closing

end Style

end Acceptor.Text
