import Acceptor.Text.ControlSequence
import Acceptor.Text.Emoji
import Acceptor.Text.Joining
import Acceptor.Text.Wide
import Acceptor.Text.ZeroWidth

/-! # Columns a text takes

How wide a text is in a terminal: two columns for ideographs, Hangul, full width forms and emoji,
none for accents and ignorable characters, one for everything else, controls included. Some
neighbours take less room together than one by one: emoji with a selector, a skin tone or a joiner,
and letters that merge. So a text is measured from its end, and each character is put before the
measure of what follows it. A control sequence takes no room at all, and nothing merges over it.
-/

namespace Acceptor.Text

/-- The columns of a character that stands alone. -/
def charWidth (character : Char) : Nat :=
  if character = '\u17d8' then 3
  else if isZeroWidth character then 0
  else if isWide character then 2
  else 1

/-- What a text begins with, as far as it matters to a character before it; `joined` says that a
joiner stands in front. -/
inductive Start
  /-- Nothing that merges. -/
  | plain
  /-- A picture. -/
  | emoji
  | skinTone
  | flagLetter
  /-- Two letters of flags or more. -/
  | flagLetters
  /-- A joiner and a picture. -/
  | joinedEmoji
  /-- A keycap before a joiner and a picture. -/
  | joinedKeycap
  /-- A letter of a flag before a joiner and a picture. -/
  | joinedFlagLetter
  /-- Two such letters or more, `paired` if they are even in number. -/
  | joinedFlags (paired : Bool)
  /-- The end of a tagged flag before a joiner and a picture, tag by tag. -/
  | joinedTags (letters digits : Nat)
  | alef
  | lamed (joined : Bool)
  | ya (joined : Bool)
  | yaVowel
  | orkhonI (joined : Bool)
  | tifinagh (joined : Bool)
  | tifinaghJoiner
  | secondTone
  | coengLetter
deriving DecidableEq, Repr

namespace Start

/-- What a text of one character begins with. -/
def ofChar (character : Char) : Start :=
  if character = '\u05dc' then lamed false
  else if character = '\u1a10' then ya false
  else if character.toNat = 0x10c03 then orkhonI false
  else if isAlef character then alef
  else if isCoengLetter character then coengLetter
  else if isTifinagh character then tifinagh false
  else if isSecondTone character then secondTone
  else if isFlagLetter character then flagLetter
  else if isSkinTone character then skinTone
  else if isEmoji character then emoji
  else plain

/-- A letter that may merge with the one before it, whatever marks stand between them. -/
def isLigature : Start → Bool
  | alef | lamed _ | ya _ | yaVowel | orkhonI _ | tifinagh _ | tifinaghJoiner
  | secondTone | coengLetter => true
  | _ => false

/-- A picture waits behind a joiner for the picture before it. -/
def isJoined : Start → Bool
  | joinedEmoji | joinedKeycap => true
  | _ => false

/-- With a joiner in front. -/
def join : Start → Start
  | lamed _ => lamed true
  | ya _ => ya true
  | orkhonI _ => orkhonI true
  | tifinagh _ => tifinagh true
  | start => start

end Start

/-- How a character with two looks is to be shown. -/
inductive Presentation
  | text
  | emoji
deriving DecidableEq, Repr

/-- A text as the character before it sees it: its columns, what it begins with, and the selector
that stands in front of that. -/
structure Measure where
  columns : Nat
  start : Start
  selector : Option Presentation
deriving DecidableEq, Repr

namespace Measure

/-- The empty text. -/
def empty : Measure := ⟨0, .plain, none⟩

/-- What the text begins with once its selector has turned out to select nothing. -/
def settled (text : Measure) : Start :=
  if text.selector.isSome && !text.start.isLigature then .plain else text.start

/-- A selector before the text. Merging letters do not mind it; pictures behind a joiner wait for
one that selects a picture. -/
def select (presentation : Presentation) (text : Measure) : Measure :=
  let keeps := text.settled.isLigature || presentation = .emoji && text.settled.isJoined
  ⟨text.columns, if keeps then text.settled else .plain, some presentation⟩

/-- A tag in front of the tags of a flag, or the flag itself: up to six letters, or three digits
with up to four letters after them. -/
def tagged? (letters digits columns : Nat) (character : Char) : Option Measure :=
  let code := character.toNat
  if 0xe0061 ≤ code && code ≤ 0xe007a && digits = 0 && letters < 6 then
    some ⟨columns, .joinedTags (letters + 1) 0, none⟩
  else if 0xe0030 ≤ code && code ≤ 0xe0039
      && (digits = 0 && letters ≤ 4 || digits = 1 || digits = 2) then
    some ⟨columns, .joinedTags letters (digits + 1), none⟩
  else if code = 0x1f3f4 && (digits = 3 || digits = 0 && 3 ≤ letters) then
    some ⟨columns, .emoji, none⟩
  else none

/-- A picture, or a part of one, in front of a joiner and a picture. -/
def beforeJoiner? (columns : Nat) (character : Char) : Option Measure :=
  if character = '\u20e3' then some ⟨columns, .joinedKeycap, none⟩
  else if isFlagLetter character then some ⟨columns + 1, .joinedFlagLetter, none⟩
  else if isSkinTone character then some ⟨columns, .skinTone, none⟩
  else if character.toNat = 0xe007f then some ⟨columns, .joinedTags 0 0, none⟩
  else if isEmoji character then some ⟨columns, .emoji, none⟩
  else none

/-- The text with a character that merges with its beginning, if it does. -/
def merge? (columns : Nat) (start : Start) (character : Char) : Option Measure :=
  let whole := some ⟨columns, .plain, none⟩
  let joined := some ⟨columns, .joinedEmoji, none⟩
  match start with
  | .plain | .lamed false | .ya false | .orkhonI false | .joinedKeycap => none
  | .emoji => if character = joiner then joined else none
  | .skinTone =>
    if isModifiable character then some ⟨columns, .emoji, none⟩
    else if character = joiner then joined
    else none
  | .flagLetter =>
    if isFlagLetter character then some ⟨columns + 1, .flagLetters, none⟩ else none
  | .flagLetters =>
    if isFlagLetter character then some ⟨columns + 1, .flagLetters, none⟩
    else if character = joiner then joined
    else none
  | .joinedEmoji => beforeJoiner? columns character
  | .joinedFlagLetter =>
    if isFlagLetter character then some ⟨columns - 1, .joinedFlags true, none⟩ else none
  | .joinedFlags paired =>
    if isFlagLetter character then
      some ⟨if paired then columns + 3 else columns - 1, .joinedFlags !paired, none⟩
    else if character = joiner then joined
    else none
  | .joinedTags letters digits => tagged? letters digits columns character
  | .alef =>
    if isLam character then whole
    else if isTransparent character then some ⟨columns, .alef, none⟩
    else none
  | .lamed true => if character = '\u05d0' then whole else none
  | .ya true =>
    if character = '\u1a17' then some ⟨columns, .yaVowel, none⟩ else none
  | .yaVowel => if character = '\u1a15' then whole else none
  | .orkhonI true => if character.toNat = 0x10c32 then whole else none
  | .tifinagh afterJoiner =>
    if character = '\u2d7f' then some ⟨columns + 1, .tifinaghJoiner, none⟩
    else if afterJoiner && isTifinagh character then whole
    else none
  | .tifinaghJoiner => if isTifinagh character then some ⟨columns - 1, .plain, none⟩ else none
  | .secondTone => if isFirstTone character then whole else none
  | .coengLetter => if character = '\u17d2' then some ⟨columns - 1, .plain, none⟩ else none

/-- A character before a text whose selectors do not matter any more. -/
def put (columns : Nat) (start : Start) (character : Char) : Measure :=
  if start.isLigature && start ≠ .alef && character = joiner then ⟨columns, start.join, none⟩
  else if start.isLigature && start ≠ .alef && isSilentMark character then ⟨columns, start, none⟩
  else (merge? columns start character).getD
    ⟨columns + charWidth character, .ofChar character, none⟩

/-- A character before a text. -/
def prepend (character : Char) (text : Measure) : Measure :=
  if text.selector = some .emoji && isVariable character then
    ⟨text.columns + (if text.start.isJoined then 0 else 2), .emoji, none⟩
  else if character.toNat ≤ 0xa0 then ⟨text.columns + 1, .plain, none⟩
  else if character = '\ufe0f' then text.select .emoji
  else if character = '\ufe0e' then text.select .text
  else if text.selector = some .text && isFlattened character then
    ⟨text.columns + 1, .plain, none⟩
  else put text.columns text.settled character

end Measure

/-- The columns of a text without control sequences. -/
def plainWidth (characters : List Char) : Nat :=
  (characters.foldr Measure.prepend Measure.empty).columns

/-- The columns of a piece: only text takes room. -/
def Piece.columns (piece : Piece) : Nat :=
  if piece.kind = .text then plainWidth piece.characters else 0

/-- The columns of a text on one line. -/
def width (characters : List Char) : Nat :=
  (pieces characters).foldl (fun columns piece => columns + piece.columns) 0

end Acceptor.Text
