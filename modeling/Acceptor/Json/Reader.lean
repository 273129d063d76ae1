import Acceptor.Json.Skip

/-! # Reading typed values

A reader knows what it wants: a string, a number, a list, or a record with certain fields. A record
is written as an object, with members in any order and unknown ones passed over, or as a list of its
fields in order. What has been read of a record is a draft, and `Record.finish` turns a draft into
the value or names the first field that is missing.

Leaving a list or an object is tried even after a fault of the meaning inside, and where that
attempt comes to is where such a fault is reported.
-/

namespace Acceptor.Json

/-- The failure of a reader that wants something else than the text holds, the value in question
being read first. -/
def mismatch (wanted : String) (text : List Char) : Failure :=
  let differs (found : Found) (rest : List Char) : Failure := .here (.mismatch found wanted) rest
  let literal (letters : List Char) (found : Found) (rest : List Char) : Failure :=
    match readIdent letters rest with
    | .ok rest => differs found rest
    | .error failure => failure
  match text with
  | [] => .next .noValue []
  | character :: rest =>
    if character = 'n' then literal ['u', 'l', 'l'] .null rest
    else if character = 't' then literal ['r', 'u', 'e'] (.boolean true) rest
    else if character = 'f' then literal ['a', 'l', 's', 'e'] (.boolean false) rest
    else if character = '"' then
      match readText rest with
      | .ok (characters, rest) => differs (.text characters) rest
      | .error failure => failure
    else if character = '[' then differs .sequence text
    else if character = '\x7b' then differs .map text
    else if startsNumeral character then
      match Number.read text with
      | .ok (number, rest) => differs number.found rest
      | .error failure => failure
    else .next .noValue text

/-- A string. -/
def readString (text : List Char) : Except Failure (Reading String) :=
  match skipBlanks text with
  | [] => .error (.next .endInValue [])
  | '"' :: rest => do
    let (characters, rest) ← readText rest
    .ok (String.ofList characters, rest)
  | text => .error (mismatch "a string" text)

/-- A string or `null`. -/
def readStringOrNull (text : List Char) : Except Failure (Reading (Option String)) :=
  match skipBlanks text with
  | 'n' :: rest => do .ok (none, ← readIdent ['u', 'l', 'l'] rest)
  | text => do
    let (value, rest) ← readString text
    .ok (some value, rest)

/-- A number as a double. -/
def readFloat (text : List Char) : Except Failure (Reading Float) :=
  match skipBlanks text with
  | [] => .error (.next .endInValue [])
  | character :: rest =>
    if startsNumeral character then do
      let (number, rest) ← Number.read (character :: rest)
      .ok (number.toFloat, rest)
    else .error (mismatch "f64" (character :: rest))

/-! ## Lists -/

/-- Leaves a list by its closing bracket. -/
def leaveList (text : List Char) : Except Failure (List Char) :=
  match skipBlanks text with
  | [] => .error (.next .endInList [])
  | ']' :: rest => .ok rest
  | ',' :: rest =>
    let text := skipBlanks rest
    .error (.next (if text.head? = some ']' then .trailingComma else .trailingCharacters) text)
  | text => .error (.next .trailingCharacters text)

/-- How far the attempt to leave a list comes. -/
def passListEnd (text : List Char) : List Char :=
  match skipBlanks text with
  | ']' :: rest => rest
  | ',' :: rest => skipBlanks rest
  | text => text

/-- Whether an element follows, and what is left in front of it or of the closing bracket. -/
def nextElement (first : Bool) (text : List Char) : Except Failure (Bool × List Char) :=
  match skipBlanks text with
  | [] => .error (.next .endInList [])
  | ']' :: rest => .ok (false, ']' :: rest)
  | character :: rest =>
    if first then .ok (true, character :: rest)
    else if character = ',' then
      match skipBlanks rest with
      | [] => .error (.next .endInValue [])
      | ']' :: rest => .error (.next .trailingComma (']' :: rest))
      | text => .ok (true, text)
    else .error (.next .noListSeparator (character :: rest))

/-- Elements up to the closing bracket, at most as many as there are characters. -/
def readElements {α : Type} (element : Reader α) : Nat → Bool → Reader (List α)
  | 0, _, text => .error (.next .endInList text)
  | rounds + 1, first, text => do
    let (more, text) ← nextElement first text
    if more then
      let (value, text) ← element text
      let (values, text) ← readElements element rounds false text
      .ok (value :: values, text)
    else .ok ([], text)

/-- Completes what was read inside a list. -/
def closeList {α : Type} : Except Failure (Reading α) → Except Failure (Reading α)
  | .ok (value, text) => do .ok (value, ← leaveList text)
  | .error failure => .error (failure.settle passListEnd)

/-- A list of elements of one kind. -/
def readList {α : Type} (element : Reader α) (text : List Char) :
    Except Failure (Reading (List α)) :=
  match skipBlanks text with
  | [] => .error (.next .endInValue [])
  | '[' :: rest => closeList (readElements element rest.length true rest)
  | text => .error (mismatch "a sequence" text)

/-! ## Objects -/

/-- Leaves an object by its closing bracket. -/
def leaveObject (text : List Char) : Except Failure (List Char) :=
  match skipBlanks text with
  | [] => .error (.next .endInObject [])
  | '\x7d' :: rest => .ok rest
  | ',' :: rest => .error (.next .trailingComma (',' :: rest))
  | text => .error (.next .trailingCharacters text)

/-- How far the attempt to leave an object comes. -/
def passObjectEnd (text : List Char) : List Char :=
  match skipBlanks text with
  | '\x7d' :: rest => rest
  | text => text

/-- The key of the next member, if one follows. -/
def nextKey (first : Bool) (text : List Char) : Except Failure (Reading (Option (List Char))) :=
  let key (text : List Char) : Except Failure (Reading (Option (List Char))) := do
    let (characters, rest) ← readText text
    .ok (some characters, rest)
  match skipBlanks text with
  | [] => .error (.next .endInObject [])
  | '\x7d' :: rest => .ok (none, '\x7d' :: rest)
  | character :: rest =>
    if first then
      if character = '"' then key rest else .error (.next .keyNotText (character :: rest))
    else if character = ',' then
      match skipBlanks rest with
      | [] => .error (.next .endInValue [])
      | '"' :: rest => key rest
      | '\x7d' :: rest => .error (.next .trailingComma ('\x7d' :: rest))
      | text => .error (.next .keyNotText text)
    else .error (.next .noObjectSeparator (character :: rest))

/-- The colon between a key and its value. -/
def readColon (text : List Char) : Except Failure (List Char) :=
  match skipBlanks text with
  | [] => .error (.next .endInObject [])
  | ':' :: rest => .ok rest
  | text => .error (.next .noColon text)

/-- Completes what was read inside an object. -/
def closeObject {α : Type} : Except Failure (Reading α) → Except Failure (Reading α)
  | .ok (value, text) => do .ok (value, ← leaveObject text)
  | .error failure => .error (failure.settle passObjectEnd)

/-! ## Records -/

/-- A field of a record whose drafts are of type `δ`. -/
structure Field (δ : Type) where
  name : String
  /-- The draft has the field already. -/
  isGiven : δ → Bool
  /-- Reads the field into the draft. -/
  read : δ → Reader δ

/-- A field that is kept in a part of the draft. -/
def Field.ofReader {δ β : Type} (name : String) (part : δ → Option β) (put : δ → β → δ)
    (read : Reader β) : Field δ where
  name
  isGiven draft := (part draft).isSome
  read draft text := do
    let (value, rest) ← read text
    .ok (put draft value, rest)

/-- A record: its fields in order, the empty draft, and how a draft becomes a value or lacks the
field of a name. -/
structure Record (δ α : Type) where
  name : String
  fields : List (Field δ)
  blank : δ
  finish : δ → Except String α

namespace Record

variable {δ α : Type}

def field? (record : Record δ α) (key : List Char) : Option (Field δ) :=
  record.fields.find? fun field => field.name.toList == key

/-- One member behind its key: a field that is new, or something unknown. -/
def readMember (record : Record δ α) (draft : δ) (key text : List Char) :
    Except Failure (Reading δ) :=
  match record.field? key with
  | some field =>
    if field.isGiven draft then .error (.pending (.duplicateField field.name) text)
    else do field.read draft (← readColon text)
  | none => do
    let text ← readColon text
    .ok (draft, ← skipValue text)

/-- Members up to the closing bracket, at most as many as there are characters. -/
def readMembers (record : Record δ α) : Nat → Bool → δ → Reader δ
  | 0, _, _, text => .error (.next .endInObject text)
  | rounds + 1, first, draft, text => do
    match ← nextKey first text with
    | (none, text) => .ok (draft, text)
    | (some key, text) =>
      let (draft, text) ← record.readMember draft key text
      record.readMembers rounds false draft text

/-- Fields in order, as far as there are elements. -/
def readFields : List (Field δ) → Bool → δ → Reader δ
  | [], _, draft, text => .ok (draft, text)
  | field :: fields, first, draft, text => do
    let (more, text) ← nextElement first text
    if more then
      let (draft, text) ← field.read draft text
      readFields fields false draft text
    else .ok (draft, text)

/-- The record inside an object. -/
def readObject (record : Record δ α) (text : List Char) : Except Failure (Reading α) := do
  let (draft, rest) ← record.readMembers text.length true record.blank text
  match record.finish draft with
  | .ok value => .ok (value, rest)
  | .error name => .error (.pending (.missingField name) rest)

/-- The record inside a list. The first field that is missing says how many there are. -/
def readSequence (record : Record δ α) (text : List Char) : Except Failure (Reading α) := do
  let (draft, rest) ← readFields record.fields true record.blank text
  match record.finish draft with
  | .ok value => .ok (value, rest)
  | .error name =>
    let length := record.fields.findIdx fun field => field.name == name
    .error (.pending (.invalidLength length record.name record.fields.length) rest)

/-- The record, in either form. -/
def read (record : Record δ α) (text : List Char) : Except Failure (Reading α) :=
  match skipBlanks text with
  | [] => .error (.next .endInValue [])
  | '\x7b' :: rest => closeObject (record.readObject rest)
  | '[' :: rest => closeList (record.readSequence rest)
  | text => .error (mismatch ("struct " ++ record.name) text)

end Record

end Acceptor.Json
