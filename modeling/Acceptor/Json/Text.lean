import Acceptor.Json.Failure

/-! # Strings inside JSON

Reading a string behind its opening quote. Escapes are spelled out, surrogates have to come in
pairs, and control characters may not stand for themselves. A string that is only skipped is held to
less: any four hexadecimal digits will do.
-/

namespace Acceptor.Json

/-- The value of a hexadecimal digit. -/
def hexValue? (character : Char) : Option Nat :=
  let code := character.toNat
  if '0' ≤ character && character ≤ '9' then some (code - 48)
  else if 'a' ≤ character && character ≤ 'f' then some (code - 87)
  else if 'A' ≤ character && character ≤ 'F' then some (code - 55)
  else none

/-- The number that four hexadecimal digits spell. -/
def hexNumber? (first second third fourth : Char) : Option Nat := do
  let first ← hexValue? first
  let second ← hexValue? second
  let third ← hexValue? third
  let fourth ← hexValue? fourth
  pure (((first * 16 + second) * 16 + third) * 16 + fourth)

/-- The four digits behind `\u`. A text of fewer than four bytes ends too early; other characters in
their place are no escape. -/
def readHex (text : List Char) : Except Failure (Reading Nat) :=
  if byteLength text < 4 then .error (.here .endInText [])
  else match text with
    | first :: second :: third :: fourth :: rest =>
      match hexNumber? first second third fourth with
      | some number => .ok (number, rest)
      | none => .error (.placed .invalidEscape ⟨text, 4⟩)
    | _ => .error (.placed .invalidEscape ⟨text, 4⟩)

/-- The first halves of surrogate pairs. -/
def isLeading (unit : Nat) : Bool := 0xd800 ≤ unit && unit ≤ 0xdbff

/-- The second halves of surrogate pairs. -/
def isTrailing (unit : Nat) : Bool := 0xdc00 ≤ unit && unit ≤ 0xdfff

/-- The character of a surrogate pair. -/
def joinSurrogates (leading trailing : Nat) : Char :=
  Char.ofNat (0x10000 + (leading - 0xd800) * 0x400 + (trailing - 0xdc00))

/-- The second half of a pair, which has to follow the first as an escape of its own. -/
def readTrailing (leading : Nat) : Reader Char
  | [] => .error (.here .endInText [])
  | '\\' :: [] => .error (.here .endInText [])
  | '\\' :: 'u' :: rest => do
    let (trailing, rest) ← readHex rest
    if isTrailing trailing then .ok (joinSurrogates leading trailing, rest)
    else .error (.here .loneSurrogate rest)
  | '\\' :: rest => .error (.next .unfinishedSurrogate rest)
  | rest => .error (.next .unfinishedSurrogate rest)

/-- The character behind `\u`. -/
def readUnicode (text : List Char) : Except Failure (Reading Char) := do
  let (unit, rest) ← readHex text
  if isTrailing unit then .error (.here .loneSurrogate rest)
  else if isLeading unit then readTrailing unit rest
  else .ok (Char.ofNat unit, rest)

/-- The character that a letter stands for behind a backslash. -/
def shortEscape? (letter : Char) : Option Char :=
  if letter = '"' || letter = '\\' || letter = '/' then some letter
  else if letter = 'b' then some '\x08'
  else if letter = 'f' then some '\x0c'
  else if letter = 'n' then some '\n'
  else if letter = 'r' then some '\r'
  else if letter = 't' then some '\t'
  else none

/-- The character behind a backslash. -/
def readEscape : Reader Char
  | [] => .error (.here .endInText [])
  | letter :: rest =>
    match shortEscape? letter with
    | some character => .ok (character, rest)
    | none =>
      if letter = 'u' then readUnicode rest
      else .error (.next .invalidEscape (letter :: rest))

theorem readHex_shortens {text rest : List Char} {number : Nat}
    (read : readHex text = .ok (number, rest)) : rest.length < text.length := by
  unfold readHex at read
  split at read
  · cases read
  · split at read
    · split at read
      · cases read; simp; omega
      · cases read
    · cases read

theorem readTrailing_shortens {text rest : List Char} {leading : Nat} {character : Char}
    (read : readTrailing leading text = .ok (character, rest)) : rest.length < text.length := by
  unfold readTrailing at read
  split at read
  · cases read
  · cases read
  · obtain ⟨pair, hex, joined⟩ := bind_eq_ok_iff.mp read
    have shorter := readHex_shortens hex
    by_cases trailing : isTrailing pair.1 = true <;> simp [trailing] at joined
    simp [← joined.2]
    omega
  · cases read
  · cases read

theorem readUnicode_shortens {text rest : List Char} {character : Char}
    (read : readUnicode text = .ok (character, rest)) : rest.length < text.length := by
  obtain ⟨pair, hex, judged⟩ := bind_eq_ok_iff.mp read
  have shorter := readHex_shortens hex
  by_cases trailing : isTrailing pair.1 = true <;> simp [trailing] at judged
  by_cases leading : isLeading pair.1 = true <;> simp [leading] at judged
  · have := readTrailing_shortens judged
    omega
  · simpa [← judged.2] using shorter

theorem readEscape_shortens {text rest : List Char} {character : Char}
    (read : readEscape text = .ok (character, rest)) : rest.length < text.length := by
  unfold readEscape at read
  split at read
  · cases read
  · split at read
    · cases read; simp
    · split at read
      · have := readUnicode_shortens read; simp; omega
      · cases read

/-- The text up to the closing quote. -/
def readText (text : List Char) : Except Failure (Reading (List Char)) :=
  match text with
  | [] => .error (.here .endInText [])
  | character :: rest =>
    if character = '"' then .ok ([], rest)
    else if character = '\\' then
      match escape : readEscape rest with
      | .error failure => .error failure
      | .ok (escaped, after) => do
        have := readEscape_shortens escape
        let (characters, rest) ← readText after
        .ok (escaped :: characters, rest)
    else if character.toNat < 0x20 then .error (.next .controlCharacter text)
    else do
      let (characters, rest) ← readText rest
      .ok (character :: characters, rest)
termination_by text.length
decreasing_by all_goals simp <;> omega

/-- What is left behind a string that does not matter. -/
def skipText : List Char → Except Failure (List Char)
  | [] => .error (.here .endInText [])
  | '"' :: rest => .ok rest
  | '\\' :: 'u' :: text =>
    if byteLength text < 4 then .error (.here .endInText [])
    else match text with
      | first :: second :: third :: fourth :: rest =>
        if (hexNumber? first second third fourth).isSome then skipText rest
        else .error (.placed .invalidEscape ⟨text, 4⟩)
      | _ => .error (.placed .invalidEscape ⟨text, 4⟩)
  | '\\' :: [] => .error (.here .endInText [])
  | '\\' :: letter :: rest =>
    if (shortEscape? letter).isSome then skipText rest
    else .error (.next .invalidEscape (letter :: rest))
  | character :: rest =>
    if character.toNat < 0x20 then .error (.here .controlCharacter (character :: rest))
    else skipText rest

end Acceptor.Json
