/-! # Control sequences

A terminal reads a text as characters to show and, behind an escape character, as sequences that
control it. Here a text is cut into such pieces: wherever a sequence is complete, as many bytes as
have been shown since the last piece are set apart from what controls the terminal. What follows the
last complete sequence is text as a whole if anything of it was shown.

`pieces_characters` says that the pieces put together are the text again.
-/

namespace Acceptor.Text

/-- The sequence that selects how the following characters are drawn. -/
def styling (parameters : List Nat) : List Char :=
  '\x1b' :: '[' :: [';'].intercalate (parameters.map (Nat.toDigits 10)) ++ ['m']

/-- What a terminal is in the middle of. -/
inductive Reading
  /-- Nothing: characters are shown. -/
  | text
  /-- An escape character and some marks after it. -/
  | escape (marks : Nat)
  /-- The parameters behind `ESC[`; `fresh` before the first of them. -/
  | parameters (separators marks : Nat) (fresh : Bool)
  /-- Marks behind the parameters. -/
  | trailing (separators marks : Nat)
  /-- A sequence of parameters that makes no sense. -/
  | skipped
  /-- A command for the system, up to a bell or an escape character. -/
  | command
  /-- The parameters of a string for the device; `fresh` before the first of them. -/
  | heading (fresh : Bool)
  /-- Marks behind the parameters of a string for the device. -/
  | headingMarks
  /-- A string for the device, an application or nobody, up to an escape character. -/
  | string
deriving DecidableEq, Repr

/-- What a character has brought about. -/
inductive Effect
  /-- Nothing that could be seen. -/
  | none
  /-- The character is shown or acted upon by itself. -/
  | shown
  /-- A sequence is complete. -/
  | complete (isStyle : Bool)
  /-- The character is shown and a sequence is complete. -/
  | cancelled
deriving DecidableEq, Repr

namespace Reading

/-- A finished sequence of parameters is carried out if it has no more than 32 of them and one
mark. -/
def completion (separators marks : Nat) (isStyle : Bool) : Effect :=
  if separators < 32 && marks ≤ 1 then .complete isStyle else .none

/-- A character right behind the escape character and its marks. -/
def afterEscape (marks : Nat) (character : Char) : Reading × Effect :=
  if character.toNat ≤ 0x2f then (escape (marks + 1), .none)
  else if marks = 0 && character = '[' then (parameters 0 0 true, .none)
  else if marks = 0 && character = ']' then (command, .none)
  else if marks = 0 && character = 'P' then (heading true, .none)
  else if marks = 0 && ['X', '^', '_'].contains character then (string, .none)
  else (text, .complete false)

/-- A printable ASCII character among the parameters. The style is selected without any marks. -/
def inParameters (separators marks : Nat) (fresh : Bool) (character : Char) : Reading × Effect :=
  if character.toNat ≤ 0x2f then (trailing separators (marks + 1), .none)
  else if character = ';' || character = ':' then (parameters (separators + 1) marks false, .none)
  else if character.toNat ≤ 0x39 then (parameters separators marks false, .none)
  else if character.toNat ≤ 0x3f then
    (if fresh then parameters separators (marks + 1) false else skipped, .none)
  else (text, completion separators marks (character = 'm' && marks = 0))

/-- A printable ASCII character among the marks behind the parameters. -/
def inTrailing (separators marks : Nat) (character : Char) : Reading × Effect :=
  if character.toNat ≤ 0x2f then (trailing separators (marks + 1), .none)
  else if character.toNat ≤ 0x3f then (skipped, .none)
  else (text, completion separators marks false)

/-- A printable ASCII character among the parameters of a string for the device. -/
def inHeading (fresh : Bool) (character : Char) : Reading :=
  if character.toNat ≤ 0x2f then headingMarks
  else if character.toNat ≤ 0x3b then heading false
  else if character.toNat ≤ 0x3f && fresh then heading false
  else string

/-- A printable ASCII character among the marks behind the parameters of a string. -/
def inHeadingMarks (character : Char) : Reading :=
  if character.toNat ≤ 0x2f then headingMarks else string

/-- One more character inside a sequence. Controls act at once, and what is not ASCII is passed
over. -/
def inSequence (reading : Reading) (character : Char) : Reading × Effect :=
  if character.toNat < 0x20 then (reading, .shown)
  else if 0x7f ≤ character.toNat then (reading, .none)
  else match reading with
    | escape marks => afterEscape marks character
    | parameters separators marks fresh => inParameters separators marks fresh character
    | trailing separators marks => inTrailing separators marks character
    | _ => (if 0x40 ≤ character.toNat then text else reading, .none)

/-- A string ends at the byte `9C`, even where that is a part of a character. -/
def endsString (character : Char) : Bool :=
  (String.utf8EncodeChar character).contains 0x9c

/-- One more character. An escape character begins anew wherever it stands, and two controls cancel
what was begun. -/
def step (reading : Reading) (character : Char) : Reading × Effect :=
  if character = '\x1b' then
    (escape 0, if reading = command then .complete false else .none)
  else if character = '\x18' || character = '\x1a' then
    (text, if reading = command then .cancelled else .shown)
  else
    let isPrintable := 0x20 ≤ character.toNat && character.toNat < 0x7f
    match reading with
    | text => (text, .shown)
    | command => if character = '\x07' then (text, .complete false) else (command, .none)
    | heading fresh => (if isPrintable then inHeading fresh character else reading, .none)
    | headingMarks => (if isPrintable then inHeadingMarks character else reading, .none)
    | string => (if endsString character then text else string, .none)
    | _ => inSequence reading character

end Reading

/-- What a piece of a text does to a terminal. -/
inductive PieceKind
  | text
  | style
  | control
deriving DecidableEq, Repr

/-- A piece of a text. -/
structure Piece where
  kind : PieceKind
  characters : List Char
deriving DecidableEq, Repr

namespace Piece

/-- A piece unless it is empty. -/
def optional (kind : PieceKind) (characters : List Char) : List Piece :=
  if characters.isEmpty then [] else [⟨kind, characters⟩]

theorem optional_characters (kind : PieceKind) (characters : List Char) :
    (optional kind characters).flatMap Piece.characters = characters := by
  cases characters <;> simp [optional]

end Piece

/-- The characters at the beginning that make up a number of bytes, and those after them. -/
def splitBytes : Nat → List Char → List Char × List Char
  | 0, characters => ([], characters)
  | _, [] => ([], [])
  | bytes, character :: rest =>
    let split := splitBytes (bytes - character.utf8Size) rest
    (character :: split.1, split.2)

@[simp]
theorem splitBytes_append (bytes : Nat) (characters : List Char) :
    (splitBytes bytes characters).1 ++ (splitBytes bytes characters).2 = characters := by
  fun_induction splitBytes bytes characters with
  | case1 => rfl
  | case2 => rfl
  | case3 bytes character rest positive split ih => exact congrArg (character :: ·) ih

/-- What has been read of a text behind its last piece. -/
structure Uncut where
  /-- The characters, from back to front. -/
  reversed : List Char
  /-- The number of bytes that have been shown. -/
  shown : Nat
  /-- The number of escape characters right behind another one. Each takes a byte from the
  beginning. -/
  doubled : Nat
deriving DecidableEq, Repr

namespace Uncut

def empty : Uncut := ⟨[], 0, 0⟩

/-- Everything that has been read, in its order. -/
def characters (uncut : Uncut) : List Char := uncut.reversed.reverse

/-- One more character, the one before it being an escape character or not. -/
def push (uncut : Uncut) (afterEscape isShown : Bool) (character : Char) : Uncut where
  reversed := character :: uncut.reversed
  shown := if isShown then uncut.shown + character.utf8Size else uncut.shown
  doubled := if afterEscape && character = '\x1b' then uncut.doubled + 1 else uncut.doubled

/-- What the doubled escape characters take from the beginning, and what is left. -/
def trimmed (uncut : Uncut) : List Char × List Char := splitBytes uncut.doubled uncut.characters

/-- The pieces at the end of a sequence: as many bytes as have been shown, and the sequence. -/
def cut (uncut : Uncut) (kind : PieceKind) : List Piece :=
  let split := splitBytes uncut.shown uncut.trimmed.2
  Piece.optional .control uncut.trimmed.1 ++ Piece.optional .text split.1
    ++ Piece.optional kind split.2

/-- The pieces at the end of the text. -/
def finish (uncut : Uncut) : List Piece :=
  Piece.optional .control uncut.trimmed.1
    ++ Piece.optional (if uncut.shown = 0 then .control else .text) uncut.trimmed.2

@[simp]
theorem characters_empty : empty.characters = [] := rfl

@[simp]
theorem characters_push (uncut : Uncut) (afterEscape isShown : Bool) (character : Char) :
    (uncut.push afterEscape isShown character).characters = uncut.characters ++ [character] := by
  simp [push, characters]

@[simp]
theorem cut_characters (uncut : Uncut) (kind : PieceKind) :
    (uncut.cut kind).flatMap Piece.characters = uncut.characters := by
  simp [cut, trimmed, Piece.optional_characters]

@[simp]
theorem finish_characters (uncut : Uncut) :
    uncut.finish.flatMap Piece.characters = uncut.characters := by
  simp [finish, trimmed, Piece.optional_characters]

end Uncut

/-- The pieces of a text whose beginning has been read, up to an escape character or not. -/
def piecesFrom (reading : Reading) (afterEscape : Bool) (uncut : Uncut) : List Char → List Piece
  | [] => uncut.finish
  | character :: rest =>
    let next := reading.step character
    let read := fun isShown => uncut.push afterEscape isShown character
    let isEscape : Bool := character = '\x1b'
    match next.2 with
    | .none => piecesFrom next.1 isEscape (read false) rest
    | .shown => piecesFrom next.1 isEscape (read true) rest
    | .complete isStyle =>
      (read false).cut (if isStyle then .style else .control)
        ++ piecesFrom next.1 isEscape .empty rest
    | .cancelled => (read true).cut .control ++ piecesFrom next.1 isEscape .empty rest

/-- The pieces of a text. -/
def pieces (characters : List Char) : List Piece := piecesFrom .text false .empty characters

theorem piecesFrom_characters (reading : Reading) (afterEscape : Bool) (uncut : Uncut)
    (characters : List Char) :
    (piecesFrom reading afterEscape uncut characters).flatMap Piece.characters =
      uncut.characters ++ characters := by
  induction characters generalizing reading afterEscape uncut with
  | nil => simp [piecesFrom]
  | cons character rest ih =>
    rw [piecesFrom]
    dsimp only
    split <;> simp [ih]

/-- Nothing is lost or added when a text is cut. -/
theorem pieces_characters (characters : List Char) :
    (pieces characters).flatMap Piece.characters = characters := by
  simp [pieces, piecesFrom_characters]

end Acceptor.Text
