import Acceptor.Text.ControlSequence

/-! # The pen of a terminal

Control sequences of style change how the following characters are drawn until others take that
back. A pen is what is in force at a place in a text. It can be put down and taken up again, so that
a text can be cut into lines which each look as they did and leave nothing in force.
-/

namespace Acceptor.Text

/-- One thing that is in force: its kind, named by a parameter that selects it, and the parameters
that have selected it. -/
structure Setting where
  kind : Nat
  parameters : List Nat
deriving DecidableEq, Repr

namespace Setting

/-- The place of a setting among the others: they go by their kinds, the colour of underlines right
behind the other colours. -/
def place (setting : Setting) : Nat := if setting.kind = 58 then 49 else setting.kind

/-- The parameter that is written to take a setting back. -/
def closing (setting : Setting) : Nat :=
  match setting.kind with
  | 1 | 2 => 22
  | 3 | 20 => 23
  | 4 | 21 => 24
  | 5 | 6 => 25
  | 7 => 27
  | 8 => 28
  | 9 => 29
  | 26 => 50
  | 38 => 39
  | 48 => 49
  | 51 | 52 => 54
  | 53 => 55
  | 58 => 59
  | 60 | 61 | 62 | 63 | 64 => 65
  | 73 | 74 => 75
  | font => font

/-- A parameter that is read takes a setting back. Black letter stays in force until everything is
taken back at once. -/
def isClosedBy (setting : Setting) (parameter : Nat) : Bool :=
  setting.kind ≠ 20 && setting.closing = parameter

/-- What takes effect by one parameter. -/
def ofParameter? (parameter : Nat) : Option Setting :=
  let kind? :=
    if 11 ≤ parameter && parameter ≤ 19 then some 10
    else if 30 ≤ parameter && parameter ≤ 37 || 90 ≤ parameter && parameter ≤ 97 then some 38
    else if 40 ≤ parameter && parameter ≤ 47 || 100 ≤ parameter && parameter ≤ 107 then some 48
    else if [1, 2, 3, 4, 5, 6, 7, 8, 9, 20, 21, 26, 51, 52, 53, 60, 61, 62, 63, 64, 73, 74].contains
      parameter then some parameter
    else none
  kind?.map fun kind => ⟨kind, [parameter]⟩

end Setting

/-- Everything that is in force, in the order of the places. -/
structure Pen where
  settings : List Setting
  /-- Something has been selected that nobody knows. -/
  isUnknown : Bool
  /-- Everything has been taken back at once. -/
  isReset : Bool
deriving DecidableEq, Repr

namespace Pen

/-- Nothing is in force. -/
def plain : Pen := ⟨[], false, false⟩

/-- Everything has been taken back. -/
def cleared : Pen := ⟨[], false, true⟩

/-- The parameters that take something back, in the order in which they are written. -/
def closings : List Nat := [10, 22, 23, 24, 25, 27, 28, 29, 39, 49, 50, 54, 55, 65, 59, 75]

/-- A setting takes the place of an earlier one of the same kind. -/
def put (setting : Setting) (pen : Pen) : Pen :=
  let before := pen.settings.filter (·.place < setting.place)
  let after := pen.settings.filter (setting.place < ·.place)
  { pen with settings := before ++ setting :: after }

/-- What a parameter takes back is in force no longer. -/
def drop (parameter : Nat) (pen : Pen) : Pen :=
  { pen with settings := pen.settings.filter (!·.isClosedBy parameter) }

/-- Something unknown has been selected. -/
def confuse (pen : Pen) : Pen := { pen with isUnknown := true }

/-- The effect of a parameter that stands for itself. -/
def applyOne (parameter : Nat) (pen : Pen) : Pen :=
  if parameter = 0 then cleared
  else if closings.contains parameter then pen.drop parameter
  else match Setting.ofParameter? parameter with
    | some setting => pen.put setting
    | none => pen.confuse

/-- What the next parameter of a sequence is for. -/
inductive Expected
  /-- It stands for itself. -/
  | effect
  /-- It names the system of a colour of some kind. -/
  | system (kind : Nat)
  /-- It is one more part of a colour in that system. -/
  | colourPart (kind system : Nat) (parts : List Nat)
deriving DecidableEq, Repr

/-- The number that digits stand for. -/
def numberOf (digits : List Char) : Nat :=
  digits.foldl (fun number digit => number * 10 + (digit.toNat - '0'.toNat)) 0

/-- The number that a parameter is, if it is written as numbers are: in digits, none of them to
spare. -/
def number? (parameter : List Char) : Option Nat :=
  if Nat.toDigits 10 (numberOf parameter) = parameter then some (numberOf parameter) else none

/-- A number is written in one way only. -/
theorem eq_toDigits_of_number? {parameter : List Char} {number : Nat}
    (written : number? parameter = some number) : parameter = Nat.toDigits 10 number := by
  unfold number? at written
  split at written
  next same => rw [← Option.some.inj written, same]
  next => contradiction

/-- The part of a colour that a parameter is: a number below 256, which may have a plus sign, and
zero where it is none. -/
def colourPart (parameter : List Char) : Nat :=
  let digits :=
    match parameter with
    | '+' :: rest => rest
    | rest => rest
  if digits.all Char.isDigit && numberOf digits < 256 then numberOf digits else 0

/-- The number of parts that make a colour: one of a palette, three of a mixture. -/
def colourParts (system : Nat) : Nat := if system = 5 then 1 else 3

/-- One more parameter of a sequence. A colour in a system that nobody knows is passed over. -/
def step (progress : Pen × Expected) (parameter : List Char) : Pen × Expected :=
  let (pen, expected) := progress
  match expected with
  | .effect =>
    match number? parameter with
    | none => (pen.confuse, .effect)
    | some number =>
      if [38, 48, 58].contains number then (pen, .system number)
      else (pen.applyOne number, .effect)
  | .system kind =>
    match number? parameter with
    | some 5 => (pen, .colourPart kind 5 [])
    | some 2 => (pen, .colourPart kind 2 [])
    | _ => (pen, .effect)
  | .colourPart kind system parts =>
    let parts := parts ++ [colourPart parameter]
    if parts.length = colourParts system then (pen.put ⟨kind, kind :: system :: parts⟩, .effect)
    else (pen, .colourPart kind system parts)

/-- The effect of the parameters of a sequence. A colour that breaks off has none. -/
def apply (pen : Pen) (parameters : List (List Char)) : Pen :=
  (parameters.foldl step (pen, .effect)).1

/-- The parameters of a control sequence of style, which stand between `ESC[` and the last letter.
Where a part of `ESC[` is missing, the rest of it belongs to the first parameter. -/
def parameters (sequence : List Char) : List (List Char) :=
  let behind :=
    match sequence with
    | '\x1b' :: '[' :: rest => rest
    | rest => rest
  behind.dropLast.splitOn ';'

/-- The pen after a piece of a text. -/
def afterPiece (pen : Pen) (piece : Piece) : Pen :=
  if piece.kind = .style then pen.apply (parameters piece.characters) else pen

/-- The pen after a text. -/
def afterText (pen : Pen) (characters : List Char) : Pen :=
  (pieces characters).foldl afterPiece pen

/-- There is something to take up and to put down. A font alone does not count, and neither does
what is unknown unless it came after everything had been taken back. -/
def isInUse (pen : Pen) : Bool :=
  pen.settings.any (·.kind ≠ 10) || pen.isReset && pen.isUnknown

/-- Takes the pen up. -/
def opening (pen : Pen) : List Char :=
  if pen.isInUse then pen.settings.flatMap fun setting => styling setting.parameters else []

/-- Puts the pen down. What is unknown can only be taken back together with everything else. -/
def closing (pen : Pen) : List Char :=
  let everything := if pen.isUnknown then styling [0] else []
  if pen.isInUse then
    (if pen.isReset then everything else [])
      ++ (closings.filter fun parameter => pen.settings.any (·.closing = parameter)).flatMap
        (fun parameter => styling [parameter])
      ++ everything
  else []

end Pen

end Acceptor.Text
