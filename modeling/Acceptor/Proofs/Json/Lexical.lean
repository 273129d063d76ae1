import Acceptor.Proofs.Json.Grammar

/-! # Strings and numerals are read as they are spelled

Whatever follows its closing quote, a string is read as the characters that its text spells
(`readText_of_spellsText`), and skipping it comes to the same place (`skipText_of_spellsText`). A
numeral is read as it is written if nothing follows that would belong to it
(`Numeral.read_of_spellsNumeral`).
-/

namespace Acceptor.Json

/-! ## Strings -/

theorem hexValue?_of_hexDigit {digit : Char} {value : Nat} (spelled : HexDigit digit value) :
    hexValue? digit = some value := by
  obtain ⟨small, either⟩ := spelled
  have all : ∀ value : Fin 16, hexValue? (Nat.digitChar value) = some value.val ∧
      hexValue? (Nat.digitChar value).toUpper = some value.val := by decide
  rcases either with rfl | rfl
  · exact (all ⟨value, small⟩).1
  · exact (all ⟨value, small⟩).2

/-- Four hexadecimal digits make up their number, and have at least four bytes. -/
theorem hexNumber?_of_spellsUnit {digits : List Char} {number : Nat}
    (spelled : SpellsUnit digits number) (rest : List Char) :
    ∃ first second third fourth, digits = [first, second, third, fourth] ∧
      hexNumber? first second third fourth = some number ∧
      ¬ byteLength (first :: second :: third :: fourth :: rest) < 4 := by
  obtain @⟨first, second, third, fourth, _, _, _, _, high, upper, lower, low⟩ := spelled
  refine ⟨first, second, third, fourth, rfl, ?_, ?_⟩
  · simp [hexNumber?, hexValue?_of_hexDigit high, hexValue?_of_hexDigit upper,
      hexValue?_of_hexDigit lower, hexValue?_of_hexDigit low]
  · have := first.utf8Size_pos
    have := second.utf8Size_pos
    have := third.utf8Size_pos
    have := fourth.utf8Size_pos
    simp only [byteLength]
    omega

theorem readHex_of_spellsUnit {digits rest : List Char} {number : Nat}
    (spelled : SpellsUnit digits number) : readHex (digits ++ rest) = .ok (number, rest) := by
  obtain ⟨first, second, third, fourth, rfl, value, enough⟩ :=
    hexNumber?_of_spellsUnit spelled rest
  simp only [List.cons_append, List.nil_append]
  rw [readHex, if_neg enough]
  simp only [value]

/-- The number of a character is no half of a surrogate pair. -/
theorem not_surrogate (character : Char) :
    isTrailing character.toNat = false ∧ isLeading character.toNat = false := by
  have valid : character.toNat < 0xd800 ∨ 0xdfff < character.toNat ∧ character.toNat < 0x110000 :=
    character.valid
  simp only [isTrailing, isLeading, Bool.and_eq_false_iff, decide_eq_false_iff_not]
  omega

theorem readUnicode_of_unit {digits rest : List Char} {character : Char}
    (spelled : SpellsUnit digits character.toNat) :
    readUnicode (digits ++ rest) = .ok (character, rest) := by
  obtain ⟨notTrailing, notLeading⟩ := not_surrogate character
  simp only [readUnicode, readHex_of_spellsUnit spelled, bind, Except.bind, notTrailing,
    notLeading, Bool.false_eq_true, if_false, Char.ofNat_toNat]

theorem readUnicode_of_pair {first second rest : List Char} {leading trailing : Nat}
    {character : Char} (spelledFirst : SpellsUnit first leading)
    (spelledSecond : SpellsUnit second trailing) (lowest : 0xd800 ≤ leading)
    (highest : leading ≤ 0xdbff) (lowestSecond : 0xdc00 ≤ trailing)
    (highestSecond : trailing ≤ 0xdfff)
    (joined : character.toNat = 0x10000 + (leading - 0xd800) * 0x400 + (trailing - 0xdc00)) :
    readUnicode (first ++ '\\' :: 'u' :: (second ++ rest)) = .ok (character, rest) := by
  have notTrailing : isTrailing leading = false := by
    simp only [isTrailing, Bool.and_eq_false_iff, decide_eq_false_iff_not]
    omega
  have isLeading : isLeading leading = true := by simp [isLeading, lowest, highest]
  have isTrailing : isTrailing trailing = true := by
    simp [isTrailing, lowestSecond, highestSecond]
  have same : joinSurrogates leading trailing = character := by
    rw [joinSurrogates, ← joined, Char.ofNat_toNat]
  simp only [readUnicode, readHex_of_spellsUnit spelledFirst, readTrailing,
    readHex_of_spellsUnit spelledSecond, bind, Except.bind, notTrailing, isLeading, isTrailing,
    Bool.false_eq_true, if_false, if_true, same]

theorem shortEscape?_of_mem {letter character : Char}
    (listed : (letter, character) ∈ shortEscapes) :
    shortEscape? letter = some character ∧ letter ≠ 'u' := by
  have all : ∀ escape ∈ shortEscapes,
      shortEscape? escape.1 = some escape.2 ∧ escape.1 ≠ 'u' := by decide
  exact all _ listed

/-- A backslash and what is read behind it. -/
theorem readText_backslash {text rest : List Char} {character : Char}
    (escape : readEscape text = .ok (character, rest)) :
    readText ('\\' :: text) = (readText rest).map fun read => (character :: read.1, read.2) := by
  rw [readText, if_neg (by decide), if_pos rfl]
  split
  · next failed =>
    rw [escape] at failed
    cases failed
  · next read =>
    rw [escape] at read
    cases read
    cases readText rest <;> rfl

theorem readText_of_spellsChar {spelling rest : List Char} {character : Char}
    (spelled : SpellsChar spelling character) :
    readText (spelling ++ rest) =
      (readText rest).map fun read => (character :: read.1, read.2) := by
  cases spelled with
  | plain noQuote noBackslash noControl =>
    rw [List.singleton_append, readText, if_neg noQuote, if_neg noBackslash,
      if_neg (Nat.not_lt.mpr noControl)]
    cases readText rest <;> rfl
  | short listed =>
    apply readText_backslash
    simp [readEscape, (shortEscape?_of_mem listed).1]
  | unit digits =>
    apply readText_backslash
    exact readUnicode_of_unit digits
  | pair first second lowest highest lowestSecond highestSecond joined =>
    simp only [List.cons_append, List.append_assoc]
    apply readText_backslash
    exact readUnicode_of_pair first second lowest highest lowestSecond highestSecond joined

theorem readText_of_spellsText {spelling characters : List Char}
    (spelled : SpellsText spelling characters) (rest : List Char) :
    readText (spelling ++ '"' :: rest) = .ok (characters, rest) := by
  induction spelled with
  | nil =>
    rw [List.nil_append, readText, if_pos rfl]
  | cons here _ ih =>
    rw [List.append_assoc, readText_of_spellsChar here, ih]
    rfl

theorem skipText_unit {digits rest : List Char} {number : Nat}
    (spelled : SpellsUnit digits number) :
    skipText ('\\' :: 'u' :: (digits ++ rest)) = skipText rest := by
  obtain ⟨first, second, third, fourth, rfl, value, enough⟩ :=
    hexNumber?_of_spellsUnit spelled rest
  simp only [List.cons_append, List.nil_append]
  rw [skipText, if_neg enough]
  simp only [value, Option.isSome_some, if_true]

theorem skipText_of_spellsChar {spelling rest : List Char} {character : Char}
    (spelled : SpellsChar spelling character) :
    skipText (spelling ++ rest) = skipText rest := by
  cases spelled with
  | plain noQuote noBackslash noControl =>
    rw [List.singleton_append, skipText, if_neg (Nat.not_lt.mpr noControl)]
    all_goals simp_all
  | short listed =>
    obtain ⟨stands, noUnit⟩ := shortEscape?_of_mem listed
    simp only [List.cons_append, List.nil_append]
    rw [skipText, stands]
    · rfl
    · simpa using noUnit
  | unit digits => exact skipText_unit digits
  | pair first second =>
    simp only [List.cons_append, List.append_assoc]
    rw [skipText_unit first, skipText_unit second]

theorem skipText_of_spellsText {spelling characters : List Char}
    (spelled : SpellsText spelling characters) (rest : List Char) :
    skipText (spelling ++ '"' :: rest) = .ok rest := by
  induction spelled with
  | nil => rfl
  | cons here _ ih => rw [List.append_assoc, skipText_of_spellsChar here, ih]

/-! ## Numerals -/

/-- No digit follows. -/
def NoDigit (rest : List Char) : Prop := ∀ next ∈ rest.head?, next.isDigit = false

/-- Nothing follows that would belong to a numeral. -/
def EndsNumeral (rest : List Char) : Prop :=
  ∀ next ∈ rest.head?, next.isDigit = false ∧ next ≠ '.' ∧ next ≠ 'e' ∧ next ≠ 'E'

theorem EndsNumeral.noDigit {rest : List Char} (ends : EndsNumeral rest) : NoDigit rest :=
  fun next member => (ends next member).1

/-- A digit stands for its number, nothing else. -/
theorem ne_of_isDigit {digit other : Char} (isDigit : digit.isDigit = true)
    (different : other.isDigit = false) : digit ≠ other := by
  rintro rfl
  rw [isDigit] at different
  cases different

theorem Digits.spanDigits {digits rest : List Char} (all : Digits digits) (stop : NoDigit rest) :
    spanDigits (digits ++ rest) = (digits, rest) := spanDigits_append all.2 stop

theorem WholeDigits.exists_cons {digits : List Char} (whole : WholeDigits digits) :
    ∃ digit more, digits = digit :: more ∧ digit.isDigit = true := by
  rcases whole with rfl | ⟨⟨nonempty, all⟩, -⟩
  · exact ⟨'0', [], rfl, by decide⟩
  · obtain ⟨digit, more, rfl⟩ := List.exists_cons_of_ne_nil nonempty
    exact ⟨digit, more, rfl, all digit List.mem_cons_self⟩

namespace Numeral

theorem readWhole_of_wholeDigits (ended : Cause) {digits rest : List Char}
    (whole : WholeDigits digits) (stop : NoDigit rest) :
    readWhole ended (digits ++ rest) = .ok (digits, rest) := by
  rcases whole with rfl | ⟨all, noZero⟩
  · have noMore : (rest.head?.map Char.isDigit).getD false = false := by
      cases rest with
      | nil => rfl
      | cons next _ => exact stop next rfl
    rw [List.singleton_append, readWhole, noMore]
    rfl
  · have span := all.spanDigits stop
    obtain ⟨nonempty, _⟩ := all
    cases digits with
    | nil => contradiction
    | cons digit digits =>
      rw [List.cons_append] at span ⊢
      rw [readWhole, span]
      · rfl
      · nofun
      · intro _ equal
        exact noZero (congrArg List.head? equal)

theorem readDecimals_of_spellsDecimals (ended : Cause) {text decimals rest : List Char}
    (spelled : SpellsDecimals text decimals) (stop : NoDigit rest)
    (noPoint : ∀ next ∈ rest.head?, next ≠ '.') :
    readDecimals ended (text ++ rest) = .ok (decimals, rest) := by
  cases spelled with
  | absent =>
    rw [List.nil_append, readDecimals]
    rintro text rfl
    exact noPoint '.' rfl rfl
  | present all =>
    rw [List.cons_append, readDecimals, all.spanDigits stop]
    simp only [List.isEmpty_eq_false_iff.mpr all.1, Bool.false_eq_true, if_false]

theorem readSign_of_spellsSign {sign digits : List Char} {negative : Bool}
    (spelled : SpellsSign sign negative) (all : Digits digits) (rest : List Char) :
    readSign (sign ++ (digits ++ rest)) = (negative, digits ++ rest) := by
  cases spelled with
  | plus => rfl
  | minus => rfl
  | absent =>
    obtain ⟨nonempty, all⟩ := all
    cases digits with
    | nil => contradiction
    | cons digit digits =>
      have isDigit := all digit List.mem_cons_self
      rw [List.nil_append, List.cons_append, readSign]
      · rintro _ equal
        exact ne_of_isDigit isDigit (by decide) (List.cons_eq_cons.mp equal).1
      · rintro _ equal
        exact ne_of_isDigit isDigit (by decide) (List.cons_eq_cons.mp equal).1

theorem readExponent_of_spellsExponent (ended : Cause) {text rest : List Char}
    {exponent : Option Exponent} (spelled : SpellsExponent text exponent)
    (ends : EndsNumeral rest) : readExponent ended (text ++ rest) = .ok (exponent, rest) := by
  cases spelled with
  | absent =>
    cases rest with
    | nil => rfl
    | cons next rest =>
      obtain ⟨-, -, noMark, noUpperMark⟩ := ends next rfl
      simp [readExponent, noMark, noUpperMark]
  | @present mark sign digits negative isMark isSign all =>
    have span := all.spanDigits ends.noDigit
    have signed := readSign_of_spellsSign isSign all rest
    have nonempty : (digits ++ rest).isEmpty = false := by simp [all.1]
    simp only [List.cons_append, List.append_assoc, readExponent]
    rw [if_pos (by simpa using isMark), signed]
    simp only [span, nonempty, List.isEmpty_eq_false_iff.mpr all.1, Bool.false_eq_true, if_false]

/-- What stands behind the decimals of a numeral is no digit and no point. -/
theorem ends_of_spellsExponent {text rest : List Char} {exponent : Option Exponent}
    (spelled : SpellsExponent text exponent) (ends : EndsNumeral rest) :
    ∀ next ∈ (text ++ rest).head?, next.isDigit = false ∧ next ≠ '.' := by
  cases spelled with
  | absent => exact fun next member => ⟨(ends next member).1, (ends next member).2.1⟩
  | present isMark =>
    intro next member
    obtain rfl : _ = next := Option.some.inj member
    rcases isMark with rfl | rfl <;> decide

theorem noDigit_of_spellsDecimals {text decimals rest : List Char}
    (spelled : SpellsDecimals text decimals) (stop : NoDigit rest) : NoDigit (text ++ rest) := by
  cases spelled with
  | absent => exact stop
  | present =>
    intro next member
    obtain rfl : '.' = next := Option.some.inj member
    decide

/-- A numeral is read as it is written. -/
theorem read_of_spellsNumeral (ended : Cause) {text rest : List Char} {numeral : Numeral}
    (spelled : SpellsNumeral text numeral) (ends : EndsNumeral rest) :
    Numeral.read ended (text ++ rest) = .ok (numeral, rest) := by
  obtain @⟨_, decimals, exponent, whole, isDecimals, isExponent⟩ := spelled
  have behind := ends_of_spellsExponent isExponent ends
  have stop : NoDigit (exponent ++ rest) := fun next member => (behind next member).1
  have readsWhole := readWhole_of_wholeDigits ended whole
    (noDigit_of_spellsDecimals isDecimals stop)
  have readsDecimals := readDecimals_of_spellsDecimals ended isDecimals stop
    fun next member => (behind next member).2
  have readsExponent := readExponent_of_spellsExponent ended isExponent ends
  obtain ⟨negative, digits, _, _⟩ := numeral
  simp only [List.append_assoc]
  cases negative with
  | true =>
    simp only [if_true, List.singleton_append, Numeral.read, readsWhole, readsDecimals,
      readsExponent, bind, Except.bind]
  | false =>
    obtain ⟨digit, more, rfl, isDigit⟩ := whole.exists_cons
    have noSign : digit ≠ '-' := ne_of_isDigit isDigit (by decide)
    simp only [Bool.false_eq_true, if_false, List.nil_append, List.cons_append] at readsWhole ⊢
    rw [Numeral.read]
    · simp only [readsWhole, readsDecimals, readsExponent, bind, Except.bind]
    · intro _ equal
      exact noSign (List.cons_eq_cons.mp equal).1

end Numeral

end Acceptor.Json
