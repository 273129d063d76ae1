import Acceptor.Json.Numeral
import Acceptor.Json.Text

/-! # Values that do not matter

Members that a definition does not know are passed over. What they hold is still checked to be JSON,
to any depth: the lists and objects that are open are kept in a list of their own, innermost first.
-/

namespace Acceptor.Json

/-- The white space of JSON. -/
def isBlank (character : Char) : Bool :=
  character = ' ' || character = '\n' || character = '\t' || character = '\r'

def skipBlanks (text : List Char) : List Char := text.dropWhile isBlank

theorem skipBlanks_append {blanks rest : List Char}
    (all : ∀ blank ∈ blanks, isBlank blank = true) :
    skipBlanks (blanks ++ rest) = skipBlanks rest := by
  induction blanks with
  | nil => rfl
  | cons blank blanks ih => simp_all [skipBlanks]

/-- The letters of a literal, one by one. -/
def readIdent : List Char → List Char → Except Failure (List Char)
  | [], text => .ok text
  | _, [] => .error (.here .endInValue [])
  | letter :: letters, character :: rest =>
    if character = letter then readIdent letters rest
    else .error (.next .noIdent (character :: rest))

/-- A list or an object that is open. -/
inductive Frame
  | list
  | object
deriving DecidableEq, Repr

namespace Frame

/-- The bracket that closes it. -/
def closing : Frame → Char
  | list => ']'
  | object => '\x7d'

/-- The text ends inside. -/
def unfinished : Frame → Cause
  | list => .endInList
  | object => .endInObject

/-- Something else stands where only a comma or the closing bracket may follow. -/
def noSeparator : Frame → Cause
  | list => .noListSeparator
  | object => .noObjectSeparator

/-- Comes to the next value inside: in an object past its key and the colon. -/
def toValue : Frame → List Char → Except Failure (List Char)
  | list, text => .ok text
  | object, text =>
    match skipBlanks text with
    | [] => .error (.next .endInObject [])
    | '"' :: rest => do
      let text ← skipText rest
      match skipBlanks text with
      | [] => .error (.next .endInObject [])
      | ':' :: rest => .ok rest
      | text => .error (.next .noColon text)
    | text => .error (.next .keyNotText text)

end Frame

/-- Goes on to the next value, closing what is closed on the way; with no frame left the whole value
is behind. A comma may come only after a value. -/
def resume (afterValue : Bool) : List Frame → List Char → Except Failure (List Frame × List Char)
  | [], text => .ok ([], text)
  | frame :: frames, text =>
    match skipBlanks text with
    | [] => .error (.next frame.unfinished [])
    | character :: rest =>
      if character = ',' && afterValue then do
        let text ← frame.toValue rest
        .ok (frame :: frames, text)
      else if character = frame.closing then resume true frames rest
      else if afterValue then .error (.next frame.noSeparator (character :: rest))
      else do
        let text ← frame.toValue (character :: rest)
        .ok (frame :: frames, text)

/-- Passes a value without parts, or the bracket that opens one with parts. -/
def skipStart (text : List Char) : Except Failure (Option Frame × List Char) :=
  match skipBlanks text with
  | [] => .error (.next .endInValue [])
  | character :: rest =>
    if character = 'n' then do .ok (none, ← readIdent ['u', 'l', 'l'] rest)
    else if character = 't' then do .ok (none, ← readIdent ['r', 'u', 'e'] rest)
    else if character = 'f' then do .ok (none, ← readIdent ['a', 'l', 's', 'e'] rest)
    else if character = '"' then do .ok (none, ← skipText rest)
    else if character = '[' then .ok (some .list, rest)
    else if character = '\x7b' then .ok (some .object, rest)
    else if startsNumeral character then do
      let (_, rest) ← Numeral.read .invalidNumber (character :: rest)
      .ok (none, rest)
    else .error (.next .noValue (character :: rest))

/-- Passes values until no frame is open, in at most as many rounds as there are characters: each
round passes at least one. -/
def skipValues : Nat → List Frame → List Char → Except Failure (List Char)
  | 0, _, text => .error (.next .endInValue text)
  | rounds + 1, frames, text => do
    let (opened, text) ← skipStart text
    let (frames, text) ← match opened with
      | some frame => resume false (frame :: frames) text
      | none => resume true frames text
    if frames.isEmpty then .ok text else skipValues rounds frames text

/-- What is left behind a value that does not matter. -/
def skipValue (text : List Char) : Except Failure (List Char) := skipValues text.length [] text

end Acceptor.Json
