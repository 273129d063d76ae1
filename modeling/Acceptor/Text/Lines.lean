import Acceptor.Text.Pen

/-! # Lines of a styled text

A text that is cut at its line breaks, so that its lines can be set apart from each other: every
line takes up the styles that were in force at the end of the one before it, and puts down what is
in force at its own end.
-/

namespace Acceptor.Text

/-- Lines that follow each other, the pen being as it is at the end of the line before. An empty
line stays empty. -/
def penned (pen : Pen) : List (List Char) → List (List Char)
  | [] => []
  | line :: rest =>
    if line.isEmpty then line :: penned pen rest
    else
      let after := pen.afterText line
      (pen.opening ++ line ++ after.closing) :: penned after rest

/-- The lines of a text; a line break at its end opens an empty last line. A text of one line is
left as it is. -/
def lines (characters : List Char) : List (List Char) :=
  match characters.splitOn '\n' with
  | [line] => [line]
  | several => penned .plain several

theorem penned_length (pen : Pen) (several : List (List Char)) :
    (penned pen several).length = several.length := by
  induction several generalizing pen with
  | nil => rfl
  | cons line rest ih => rw [penned]; split <;> simp [ih]

end Acceptor.Text
