import Acceptor.Text.Lines
import Acceptor.Text.Width

/-! # Boxed grids

Records of cells drawn as a table with rounded corners: the first record is the head, a rule
separates it from the others, and a column is as wide as its widest line plus a blank on each side.
A cell may take several lines; its record is then as high as its highest cell, and shorter cells
stand at the top.
-/

namespace Acceptor.Text.Box

/-- The columns of a cell's widest line. -/
def cellWidth (cell : List Char) : Nat := ((lines cell).map width).foldl max 0

/-- The width of every column, taken over all records. -/
def columnWidths (records : List (List (List Char))) : List Nat :=
  records.foldl (fun widths record => List.zipWith max (record.map cellWidth) widths)
    ((records.headD []).map fun _ => 0)

/-- A line between two blanks, filled up to a number of columns. -/
def pad (columns : Nat) (line : List Char) : List Char :=
  ' ' :: line ++ List.replicate (columns - width line + 1) ' '

/-- A horizontal rule: a stroke over each column and its two blanks, joined where columns meet. -/
def rule (left joint right : Char) (widths : List Nat) : List Char :=
  let strokes := widths.map fun columns => List.replicate (columns + 2) '─'
  left :: [joint].intercalate strokes ++ [right]

/-- The lines of one record. -/
def recordLines (widths : List Nat) (record : List (List Char)) : List (List Char) :=
  let cells := record.map lines
  let height := (cells.map List.length).foldl max 0
  (List.range height).map fun row =>
    let fields := List.zipWith pad widths (cells.map fun cell => cell.getD row [])
    '│' :: ['│'].intercalate fields ++ ['│']

/-- The whole grid, line by line. Without a record below the head the rule under the head is the
last line. -/
def render : List (List (List Char)) → List (List Char)
  | [] => []
  | head :: records =>
    let widths := columnWidths (head :: records)
    let top := rule '╭' '┬' '╮' widths :: recordLines widths head ++ [rule '├' '┼' '┤' widths]
    if records.isEmpty then top
    else top ++ records.flatMap (recordLines widths) ++ [rule '╰' '┴' '╯' widths]

end Acceptor.Text.Box
