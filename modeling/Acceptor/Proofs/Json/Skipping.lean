import Acceptor.Proofs.Json.Lexical

/-! # Skipping comes behind the value

Whatever a text spells, skipping it leaves what stands behind it (`skipValue_of_spells`). The values
that are open on the way are kept in a list, so the statement that is proved by induction speaks of
any such list: passing a value costs no more rounds than it has characters, and afterwards the
values around it go on as if they had not been left (`Passable`).
-/

namespace Acceptor.Json

/-- Nothing, white space, or what closes or divides the values around. -/
def AtBoundary (rest : List Char) : Prop :=
  ∀ next ∈ rest.head?, isBlank next = true ∨ next = ',' ∨ next = ']' ∨ next = '\x7d'

theorem AtBoundary.endsNumeral {rest : List Char} (boundary : AtBoundary rest) :
    EndsNumeral rest := by
  intro next member
  rcases boundary next member with blank | rfl | rfl | rfl
  · simp only [isBlank, Bool.or_eq_true, decide_eq_true_eq] at blank
    rcases blank with ((rfl | rfl) | rfl) | rfl <;> decide
  all_goals decide

/-- White space in front of a boundary is a boundary. -/
theorem AtBoundary.blanks_append (blanks : Blanks) {rest : List Char} (boundary : AtBoundary rest) :
    AtBoundary (blanks.val ++ rest) := by
  obtain ⟨blanks, all⟩ := blanks
  cases blanks with
  | nil => exact boundary
  | cons blank blanks =>
    intro next member
    obtain rfl : blank = next := Option.some.inj member
    exact .inl (all blank List.mem_cons_self)

theorem atBoundary_nil : AtBoundary [] := nofun

theorem atBoundary_comma (rest : List Char) : AtBoundary (',' :: rest) := by
  rintro next member
  obtain rfl : ',' = next := Option.some.inj member
  exact .inr (.inl rfl)

theorem Frame.atBoundary_closing (frame : Frame) (rest : List Char) :
    AtBoundary (frame.closing :: rest) := by
  rintro next member
  obtain rfl : frame.closing = next := Option.some.inj member
  cases frame
  · exact .inr (.inr (.inl rfl))
  · exact .inr (.inr (.inr rfl))

theorem skipBlanks_blanks (blanks : Blanks) (rest : List Char) :
    skipBlanks (blanks.val ++ rest) = skipBlanks rest := skipBlanks_append blanks.property

/-- Behind white space stands what comes first. -/
theorem skipBlanks_cons {first : Char} (rest : List Char) (solid : isBlank first = false) :
    skipBlanks (first :: rest) = first :: rest := by
  rw [skipBlanks, List.dropWhile_cons_of_neg (by simp [solid])]

theorem Frame.isBlank_closing (frame : Frame) : isBlank frame.closing = false := by
  cases frame <;> decide

/-! ## How values begin -/

/-- A numeral begins as one does. -/
theorem SpellsNumeral.exists_cons {text : List Char} {numeral : Numeral}
    (spelled : SpellsNumeral text numeral) :
    ∃ first more, text = first :: more ∧ startsNumeral first = true := by
  obtain ⟨whole, _, _⟩ := spelled
  obtain ⟨digit, more, equal, isDigit⟩ := whole.exists_cons
  rw [equal]
  split
  · exact ⟨'-', _, rfl, by decide⟩
  · exact ⟨digit, _, rfl, by simp [startsNumeral, isDigit]⟩

theorem ne_of_startsNumeral {first other : Char} (starts : startsNumeral first = true)
    (otherwise : startsNumeral other = false) : first ≠ other := by
  rintro rfl
  rw [starts] at otherwise
  cases otherwise

/-- The first character of a value tells its kind. -/
def Tree.Begins : Tree → Char → Prop
  | .null, first => first = 'n'
  | .boolean value, first => first = if value then 't' else 'f'
  | .number _, first => startsNumeral first = true
  | .text _, first => first = '"'
  | .list _, first => first = '['
  | .object _, first => first = '\x7b'

theorem Spells.begins {text : List Char} {tree : Tree} (spelled : Spells text tree) :
    ∃ first more, text = first :: more ∧ tree.Begins first := by
  cases spelled with
  | number isNumeral => exact isNumeral.exists_cons
  | _ => exact ⟨_, _, rfl, rfl⟩

namespace Tree.Begins

variable {tree : Tree} {first : Char}

theorem noSeparator (begins : tree.Begins first) :
    first ≠ ',' ∧ first ≠ ']' ∧ first ≠ '\x7d' := by
  cases tree with
  | number =>
    exact ⟨ne_of_startsNumeral begins (by decide), ne_of_startsNumeral begins (by decide),
      ne_of_startsNumeral begins (by decide)⟩
  | boolean value => cases value <;> cases begins <;> decide
  | _ => cases begins; decide

theorem isBlank (begins : tree.Begins first) : isBlank first = false := by
  cases tree with
  | number =>
    simp only [Json.isBlank, Bool.or_eq_false_iff, decide_eq_false_iff_not]
    exact ⟨⟨⟨ne_of_startsNumeral begins (by decide), ne_of_startsNumeral begins (by decide)⟩,
      ne_of_startsNumeral begins (by decide)⟩, ne_of_startsNumeral begins (by decide)⟩
  | boolean value => cases value <;> cases begins <;> rfl
  | _ => cases begins; rfl

end Tree.Begins

/-! ## Passing values -/

theorem readIdent_append (letters rest : List Char) :
    readIdent letters (letters ++ rest) = .ok rest := by
  induction letters with
  | nil => cases rest <;> rfl
  | cons letter letters ih => rw [List.cons_append, readIdent, if_pos rfl, ih]

/-- Goes on behind a value: closes what is closed there and passes what else is open. -/
def passOn (rounds : Nat) (frames : List Frame) (text : List Char) :
    Except Failure (List Char) := do
  let (frames, text) ← resume true frames text
  if frames.isEmpty then .ok text else skipValues rounds frames text

/-- Passing the text takes at most one round for each of its characters, and comes behind it with
the same values open. -/
def Passable (text : List Char) : Prop :=
  ∃ used < text.length, ∀ rounds frames rest, AtBoundary rest →
    skipValues (rounds + used + 1) frames (text ++ rest) = passOn rounds frames rest

theorem skipStart_blanks (blanks : Blanks) (text : List Char) :
    skipStart (blanks.val ++ text) = skipStart text := by
  rw [skipStart, skipStart, skipBlanks_blanks]

theorem skipValues_blanks (blanks : Blanks) (rounds : Nat) (frames : List Frame)
    (text : List Char) :
    skipValues (rounds + 1) frames (blanks.val ++ text) = skipValues (rounds + 1) frames text := by
  rw [skipValues, skipValues, skipStart_blanks]

/-- A value without parts is passed in one round. -/
theorem passable_of_skipStart {text : List Char} (nonempty : text ≠ [])
    (start : ∀ rest, AtBoundary rest → skipStart (text ++ rest) = .ok (none, rest)) :
    Passable text := by
  refine ⟨0, List.length_pos_iff.mpr nonempty, fun rounds frames rest boundary => ?_⟩
  rw [Nat.add_zero, skipValues, start rest boundary]
  rfl

/-- Passing what opens a value with parts. -/
theorem skipValues_of_skipStart {frame : Frame} {text inside : List Char}
    (start : skipStart text = .ok (some frame, inside)) (rounds : Nat) (frames : List Frame) :
    skipValues (rounds + 1) frames text =
      (resume false (frame :: frames) inside).bind fun resumed =>
        if resumed.1.isEmpty then .ok resumed.2 else skipValues rounds resumed.1 resumed.2 := by
  rw [skipValues, start]
  rfl

/-- One of the parts that stand between the brackets of a value: what comes before its own value is
passed, and then its own value is. -/
structure PassableIn {α : Type} (frame : Frame) (write value : α → List Char) (content : α) :
    Prop where
  begins : ∃ first more, write content = first :: more ∧ isBlank first = false ∧
    first ≠ frame.closing
  toValue : ∀ (before : Blanks) rest, ∃ gap : Blanks,
    frame.toValue (before.val ++ (write content ++ rest)) =
      .ok (gap.val ++ (value content ++ rest))
  within : (value content).length ≤ (write content).length
  passable : Passable (value content)

variable {α : Type} {frame : Frame} {write value : α → List Char}

theorem behindCommas_cons (write : α → List Char) (other : Padded α) (others : List (Padded α)) :
    behindCommas write (other :: others) =
      ',' :: (other.before.val ++ (write other.content ++
        (other.after.val ++ behindCommas write others))) := by
  simp [behindCommas, Padded.text]

theorem separated_append (write : α → List Char) (first : Padded α) (others : List (Padded α))
    (rest : List Char) :
    separated write first others ++ rest =
      first.before.val ++ (write first.content ++
        (first.after.val ++ (behindCommas write others ++ rest))) := by
  simp [separated, Padded.text]

/-- What stands between the parts and behind the last one is a boundary. -/
theorem atBoundary_others (frame : Frame) (write : α → List Char) (after : Blanks)
    (others : List (Padded α)) (rest : List Char) :
    AtBoundary (after.val ++ (behindCommas write others ++ frame.closing :: rest)) := by
  apply AtBoundary.blanks_append
  cases others with
  | nil => exact frame.atBoundary_closing rest
  | cons other others => exact atBoundary_comma _

/-- Behind a part, the others are passed one after the other up to the closing bracket. -/
theorem passOn_others (after : Blanks) {others : List (Padded α)}
    (passable : ∀ other ∈ others, PassableIn frame write value other.content) :
    ∃ used ≤ (behindCommas write others).length, ∀ rounds frames rest,
      passOn (rounds + used) (frame :: frames)
        (after.val ++ (behindCommas write others ++ frame.closing :: rest)) =
          passOn rounds frames rest := by
  induction others generalizing after with
  | nil =>
    refine ⟨0, Nat.zero_le _, fun rounds frames rest => ?_⟩
    have noComma : (frame.closing = ',') = False := by cases frame <;> decide
    rw [behindCommas, List.flatMap_nil, List.nil_append, passOn, passOn, resume,
      skipBlanks_blanks, skipBlanks_cons rest frame.isBlank_closing]
    simp only [noComma, decide_false, Bool.false_and, Bool.false_eq_true, if_false, if_true,
      Nat.add_zero]
  | cons other others ih =>
    obtain ⟨-, toValue, within, usedHere, fewHere, pass⟩ := passable other List.mem_cons_self
    obtain ⟨usedLater, fewLater, passLater⟩ := ih other.after fun another member =>
      passable another (List.mem_cons_of_mem _ member)
    refine ⟨usedLater + (usedHere + 1), ?_, fun rounds frames rest => ?_⟩
    · simp only [behindCommas_cons, List.length_append, List.length_cons]
      omega
    · have boundary := atBoundary_others frame write other.after others rest
      obtain ⟨gap, reached⟩ := toValue other.before
        (other.after.val ++ (behindCommas write others ++ frame.closing :: rest))
      simp only [behindCommas_cons, List.cons_append, List.append_assoc]
      rw [passOn, resume, skipBlanks_blanks, skipBlanks_cons _ (by decide)]
      simp only [decide_true, Bool.and_self, if_true, reached, bind, Except.bind,
        List.isEmpty_cons, Bool.false_eq_true, if_false]
      rw [← Nat.add_assoc, ← Nat.add_assoc, skipValues_blanks, pass _ _ _ boundary, passLater]

/-- A value with parts is passable if its parts are. -/
theorem passable_separated (frame : Frame) {opening : Char}
    (start : ∀ inside, skipStart (opening :: inside) = .ok (some frame, inside))
    {first : Padded α} {others : List (Padded α)}
    (passable : ∀ part ∈ first :: others, PassableIn frame write value part.content) :
    Passable (opening :: separated write first others ++ [frame.closing]) := by
  obtain ⟨⟨head, more, begins, solid, noClosing⟩, toValue, within, usedFirst, fewFirst, pass⟩ :=
    passable first List.mem_cons_self
  obtain ⟨usedLater, fewLater, passLater⟩ := passOn_others first.after fun other member =>
    passable other (List.mem_cons_of_mem _ member)
  refine ⟨usedLater + (usedFirst + 1), ?_, fun rounds frames rest _ => ?_⟩
  · simp only [List.cons_append, separated_append, List.length_append, List.length_cons]
    omega
  · have boundary := atBoundary_others frame write first.after others rest
    obtain ⟨gap, reached⟩ := toValue noBlanks
      (first.after.val ++ (behindCommas write others ++ frame.closing :: rest))
    simp only [val_noBlanks, List.nil_append, begins, List.cons_append] at reached
    simp only [List.cons_append, separated_append, List.append_assoc, List.nil_append, begins]
    rw [skipValues_of_skipStart (start _), resume, skipBlanks_blanks, skipBlanks_cons _ solid]
    simp only [Bool.and_false, Bool.false_eq_true, if_false, noClosing, reached, bind,
      Except.bind, List.isEmpty_cons]
    rw [← Nat.add_assoc, ← Nat.add_assoc, skipValues_blanks, pass _ _ _ boundary, passLater]

theorem passable_empty (frame : Frame) {opening : Char}
    (start : ∀ inside, skipStart (opening :: inside) = .ok (some frame, inside))
    (inside : Blanks) : Passable (opening :: inside.val ++ [frame.closing]) := by
  refine ⟨0, Nat.succ_pos _, fun rounds frames rest _ => ?_⟩
  simp only [List.cons_append, List.append_assoc, List.nil_append]
  rw [skipValues_of_skipStart (start _), resume, skipBlanks_blanks,
    skipBlanks_cons rest frame.isBlank_closing]
  simp only [Bool.and_false, Bool.false_eq_true, if_false, if_true]
  rfl

theorem passable_text {spelling characters : List Char} (spelled : SpellsText spelling characters) :
    Passable ('"' :: spelling ++ ['"']) := by
  refine passable_of_skipStart (List.cons_ne_nil _ _) fun rest _ => ?_
  have skipped := skipText_of_spellsText spelled rest
  simp only [List.cons_append, List.append_assoc, List.nil_append]
  rw [skipStart, skipBlanks_cons _ (by decide)]
  simp only [skipped]
  rfl

theorem passable_number {text : List Char} {numeral : Numeral}
    (spelled : SpellsNumeral text numeral) : Passable text := by
  obtain ⟨first, more, rfl, starts⟩ := spelled.exists_cons
  refine passable_of_skipStart (List.cons_ne_nil _ _) fun rest boundary => ?_
  have reads := Numeral.read_of_spellsNumeral .invalidNumber spelled boundary.endsNumeral
  rw [List.cons_append] at reads ⊢
  have begins : (Tree.number numeral).Begins first := starts
  rw [skipStart, skipBlanks_cons _ begins.isBlank]
  have other : ∀ letter ∈ ['n', 't', 'f', '"', '[', '\x7b'], first ≠ letter := by
    have noStart : ∀ letter ∈ ['n', 't', 'f', '"', '[', '\x7b'], startsNumeral letter = false := by
      simp [startsNumeral]
    exact fun letter listed => ne_of_startsNumeral starts (noStart letter listed)
  simp only [List.forall_mem_cons] at other
  simp only [other, starts, reads, if_false, if_true]
  rfl

theorem passable_literal {first : Char} {letters : List Char}
    (start : ∀ rest, skipStart (first :: rest) =
      (readIdent letters rest).map fun rest => (none, rest)) : Passable (first :: letters) := by
  refine passable_of_skipStart (List.cons_ne_nil _ _) fun rest _ => ?_
  rw [List.cons_append, start, readIdent_append]
  rfl

/-- An item is passed by passing its value. -/
theorem passableIn_item {item : Item} (spelled : Spells item.text item.tree)
    (passable : Passable item.text) : PassableIn .list Item.text Item.text item where
  begins := by
    obtain ⟨first, more, equal, begins⟩ := spelled.begins
    exact ⟨first, more, equal, begins.isBlank, begins.noSeparator.2.1⟩
  toValue before rest := ⟨before, rfl⟩
  within := Nat.le_refl _
  passable := passable

/-- A member is passed by passing its key, the colon and its value. -/
theorem passableIn_member {member : Member} (key : SpellsText member.spelling member.key)
    (passable : Passable member.item.text) :
    PassableIn .object Member.text (fun member => member.item.text) member where
  begins := ⟨'"', _, rfl, by decide⟩
  toValue before rest := by
    refine ⟨member.behindColon, ?_⟩
    have skipped := skipText_of_spellsText key
      (member.beforeColon.val ++ ':' :: member.behindColon.val ++ member.item.text ++ rest)
    simp only [Member.text, Member.behindKey, List.cons_append, List.append_assoc] at skipped ⊢
    rw [Frame.toValue, skipBlanks_blanks, skipBlanks_cons _ (by decide)]
    simp only [skipped, bind, Except.bind]
    rw [skipBlanks_blanks, skipBlanks_cons _ (by decide)]
    rfl
  within := by
    simp only [Member.text, Member.behindKey, List.length_append, List.length_cons]
    omega
  passable := passable

/-- Every value is passable, by induction on the grammar. -/
theorem passable_of_spells {text : List Char} {tree : Tree} (spelled : Spells text tree) :
    Passable text := by
  induction spelled with
  | null | yes | no => exact passable_literal fun rest => rfl
  | number isNumeral => exact passable_number isNumeral
  | text isText => exact passable_text isText
  | emptyList inside => exact passable_empty .list (fun _ => rfl) inside
  | list first others parts ih =>
    apply passable_separated .list fun _ => rfl
    exact fun item listed => passableIn_item (parts item listed) (ih item listed)
  | emptyObject inside => exact passable_empty .object (fun _ => rfl) inside
  | object first others keys _ ih =>
    apply passable_separated .object fun _ => rfl
    exact fun member listed => passableIn_member (keys member listed) (ih member listed)

/-- Skipping a value, with white space in front of it, comes behind it. -/
theorem skipValue_of_spells (blanks : Blanks) {text rest : List Char} {tree : Tree}
    (spelled : Spells text tree) (boundary : AtBoundary rest) :
    skipValue (blanks.val ++ (text ++ rest)) = .ok rest := by
  obtain ⟨used, few, pass⟩ := passable_of_spells spelled
  have rounds : (blanks.val ++ (text ++ rest)).length =
      (blanks.val.length + text.length - used - 1 + rest.length) + used + 1 := by
    simp only [List.length_append]
    omega
  rw [skipValue, rounds, skipValues_blanks, pass _ _ _ boundary]
  rfl

end Acceptor.Json
