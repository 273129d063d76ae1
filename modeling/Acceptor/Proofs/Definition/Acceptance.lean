import Acceptor.Proofs.Definition.Decoding
import Acceptor.Proofs.Json.Range
import Acceptor.Proofs.Json.Rendering

/-! # Which texts define automata

A text defines an automaton exactly if its value has the members of one (`ofJson_as_meant`), and
coordinates are numbers whose doubles are finite as they are computed. Those of numbers that stay
in range with four errors in the last place are (`Json.SpellsNumeral.isDouble`), but right below the
greatest double there are numbers whose double is not, so they are refused although they are in the
range of doubles (`ofJson_refuses_in_range`).
-/

namespace Acceptor

open Json

/-- A JSON text defines an automaton exactly if its value has the members of one: each of them at
most once, all that are needed, all with values that fit. The automaton is what the members mean,
whatever their order and whatever unknown members stand between them. -/
theorem ofJson_as_meant {text : String} {tree : Tree} (document : IsDocument text.toList tree) :
    ((∃ automaton, Automaton.ofJson text = .ok automaton) ↔ tree.IsAutomaton Tree.IsDouble) ∧
    (∀ automaton, Automaton.ofJson text = .ok automaton ↔ tree.automaton? = some automaton) ∧
    ∀ (other : String) (otherTree : Tree), IsDocument other.toList otherTree →
      tree.AlikeAutomata otherTree → ∀ automaton,
      Automaton.ofJson text = .ok automaton ↔ Automaton.ofJson other = .ok automaton := by
  have decoded := Definition.ofJson_eq_ok_iff document
  refine ⟨?_, decoded, fun other otherTree otherDocument alike automaton => ?_⟩
  · rw [← Tree.exists_automaton?_iff]
    exact exists_congr decoded
  · rw [decoded, Definition.ofJson_eq_ok_iff otherDocument, Tree.automaton?_congr alike]

/-! ### Members in another order, and unknown ones -/

/-- A number without a sign, decimals and an exponent. -/
def Json.Written.whole (digits : List Char) (whole : WholeDigits digits) : Written :=
  .number (@SpellsNumeral.parts ⟨false, digits, [], none⟩ [] [] whole .absent .absent)

def Json.Written.zero : Written := .whole ['0'] (.inl rfl)

def Json.Written.hundred : Written :=
  .whole ['1', '0', '0'] (.inr ⟨⟨nofun, List.all_eq_true.mp rfl⟩, nofun⟩)

/-- A number with a sign, decimals and an exponent, `-2.5e-1`. -/
def Json.Written.minusQuarter : Written :=
  have decimals : SpellsDecimals ['.', '5'] ['5'] := .present ⟨nofun, List.all_eq_true.mp rfl⟩
  have exponent : SpellsExponent ('e' :: ['-'] ++ ['1']) (some ⟨true, ['1']⟩) :=
    .present (.inl rfl) .minus ⟨nofun, List.all_eq_true.mp rfl⟩
  have whole : WholeDigits ['2'] := .inr ⟨⟨nofun, List.all_eq_true.mp rfl⟩, nofun⟩
  .number
    (@SpellsNumeral.parts ⟨true, ['2'], ['5'], some ⟨true, ['1']⟩⟩ _ _ whole decimals exponent)

def plainPosition : Written := .object 3 [("x", .hundred), ("y", .minusQuarter)]

def plainStart : Written :=
  .object 2 [("id", .string "q0"), ("label", .string "start"), ("position", plainPosition)]

def plainEnd : Written := .object 2 [("id", .string "q1")]

def plainMove : Written :=
  .object 2 [("id", .string "t"), ("from", .string "q0"), ("to", .string "q1"),
    ("symbol", .string "\n")]

/-- A definition with its members in the usual order and no others. -/
def plainDefinition : Written :=
  .object 0 [("id", .string "lines"), ("name", .string "one line break"), ("description", .null),
    ("alphabet", .list 1 [.string "\n", .string "\""]),
    ("states", .list 1 [plainStart, plainEnd]), ("transitions", .list 1 [plainMove]),
    ("initialStateId", .string "q0")]

def flaggedPosition : Written :=
  .object 3 [("y", .minusQuarter), ("unit", .string "px"), ("x", .hundred)]

def flaggedStart : Written :=
  .object 2 [("label", .string "start"), ("isInitial", .yes), ("id", .string "q0"),
    ("position", flaggedPosition)]

def flaggedEnd : Written := .object 2 [("isAccepting", .no), ("id", .string "q1")]

def flaggedMove : Written :=
  .object 2 [("from", .string "q0"), ("id", .string "t"), ("to", .string "q1"),
    ("symbol", .string "\n"), ("weight", .list 3 [.hundred, .object 4 []])]

/-- The definition again, with members rearranged and unknown ones on every level. -/
def flaggedDefinition : Written :=
  .object 0 [("name", .string "one line break"), ("id", .string "lines"), ("description", .null),
    ("alphabet", .list 1 [.string "\n", .string "\""]),
    ("states", .list 1 [flaggedStart, flaggedEnd]), ("transitions", .list 1 [flaggedMove]),
    ("version", .hundred), ("initialStateId", .string "q0")]

theorem alike_flaggedDefinition : flaggedDefinition.tree.AlikeAutomata plainDefinition.tree := by
  have position : flaggedPosition.tree.AlikePositions plainPosition.tree :=
    .inr ⟨_, _, rfl, rfl, _, .swap _ _ _, .cons ⟨rfl, by simp⟩ (.cons ⟨rfl, by simp⟩ .nil)⟩
  have start : flaggedStart.tree.AlikeStates plainStart.tree :=
    .inr ⟨_, _, rfl, rfl, _, .swap _ _ _, .cons ⟨rfl, by simp⟩ (.cons ⟨rfl, by simp⟩
      (.cons ⟨rfl, by simpa using position⟩ .nil))⟩
  have ending : flaggedEnd.tree.AlikeStates plainEnd.tree :=
    .inr ⟨_, _, rfl, rfl, _, .refl _, .cons ⟨rfl, by simp⟩ .nil⟩
  have move : flaggedMove.tree.AlikeTransitions plainMove.tree :=
    .inr ⟨_, _, rfl, rfl, _, .swap _ _ _, .cons ⟨rfl, by simp⟩ (.cons ⟨rfl, by simp⟩
      (.cons ⟨rfl, by simp⟩ (.cons ⟨rfl, by simp⟩ .nil)))⟩
  have states : AlikeLists Tree.AlikeStates (Written.list 1 [flaggedStart, flaggedEnd]).tree
      (Written.list 1 [plainStart, plainEnd]).tree :=
    .inr ⟨_, _, rfl, rfl, .cons start (.cons ending .nil)⟩
  have transitions : AlikeLists Tree.AlikeTransitions (Written.list 1 [flaggedMove]).tree
      (Written.list 1 [plainMove]).tree :=
    .inr ⟨_, _, rfl, rfl, .cons move .nil⟩
  exact .inr ⟨_, _, rfl, rfl, _, .swap _ _ _, .cons ⟨rfl, by simp⟩ (.cons ⟨rfl, by simp⟩
    (.cons ⟨rfl, by simp⟩ (.cons ⟨rfl, by simp⟩ (.cons ⟨rfl, by simpa using states⟩
    (.cons ⟨rfl, by simpa using transitions⟩ (.cons ⟨rfl, by simp⟩ .nil))))))⟩

theorem ofJson_as_meant_flagged :
    IsDocument (String.ofList flaggedDefinition.text).toList flaggedDefinition.tree ∧
    Automaton.ofJson (String.ofList flaggedDefinition.text) = .ok {
      id := "lines"
      name := "one line break"
      description := none
      alphabet := ⟨['\n', '"']⟩
      states := [⟨⟨"q0"⟩, "start", ⟨100, -0.25⟩⟩, ⟨⟨"q1"⟩, "", ⟨0, 0⟩⟩]
      transitions := [⟨⟨"t"⟩, ⟨"q0"⟩, '\n', ⟨"q1"⟩⟩]
      initial := ⟨"q0"⟩
      accepting := [] } ∧
    ∀ automaton, Automaton.ofJson (String.ofList flaggedDefinition.text) = .ok automaton ↔
      Automaton.ofJson (String.ofList plainDefinition.text) = .ok automaton := by
  have document : IsDocument (String.ofList flaggedDefinition.text).toList
      flaggedDefinition.tree := by
    rw [String.toList_ofList]
    exact flaggedDefinition.isDocument
  have plain : IsDocument (String.ofList plainDefinition.text).toList plainDefinition.tree := by
    rw [String.toList_ofList]
    exact plainDefinition.isDocument
  obtain ⟨-, meant, unchanged⟩ := ofJson_as_meant document
  exact ⟨document, (meant _).mpr rfl, unchanged _ _ plain alike_flaggedDefinition⟩

/-! ## The range of doubles -/

/-- The greatest finite double. -/
def greatestDouble : ℚ := (2 ^ 53 - 1) * 2 ^ 971

/-- A number that is no greater than the greatest double, and no less than the least one. -/
def Json.Tree.IsInRange (tree : Tree) : Prop :=
  ∃ numeral, tree = .number numeral ∧ |numeral.exact| ≤ greatestDouble

theorem greatestDouble_lt : greatestDouble < 2 ^ 1024 := by decide +kernel

/-- Numbers that stay in range with four errors in the last place are doubles. -/
theorem Json.SpellsNumeral.isDouble {text : List Char} {numeral : Numeral}
    (spelling : SpellsNumeral text numeral) (short : text.length ≤ 2 ^ 30)
    (inRange : |numeral.exact| * Double.slack ^ 4 ≤ greatestDouble) :
    (Tree.number numeral).IsDouble := by
  obtain ⟨value, read⟩ := spelling.exists_double? short (inRange.trans_lt greatestDouble_lt)
  exact ⟨numeral, value, rfl, read⟩

/-- A number right below the greatest double. Its significand and its power of ten are both rounded
up, and so is their product. -/
def edgeNumeral : Numeral := ⟨false, "1797693134862315706".toList, [], some ⟨false, "290".toList⟩⟩

theorem exact_edgeNumeral_le : |edgeNumeral.exact| ≤ greatestDouble := by decide +kernel

def edgeNumber : Written :=
  have whole : WholeDigits "1797693134862315706".toList :=
    .inr ⟨⟨nofun, List.all_eq_true.mp rfl⟩, nofun⟩
  have exponent : SpellsExponent ('e' :: [] ++ "290".toList) (some ⟨false, "290".toList⟩) :=
    .present (.inl rfl) .absent ⟨nofun, List.all_eq_true.mp rfl⟩
  .number (@SpellsNumeral.parts edgeNumeral [] _ whole .absent exponent)

def edgePosition : Written := .object 3 [("x", edgeNumber), ("y", .zero)]

def edgeState : Written := .object 2 [("id", .string "q0"), ("position", edgePosition)]

def edgeDefinition : Written :=
  .object 0 [("id", .string "edge"), ("name", .string "edge"), ("alphabet", .list 1 []),
    ("states", .list 1 [edgeState]), ("transitions", .list 1 []),
    ("initialStateId", .string "q0")]

/-- Not every definition with coordinates in the range of doubles is accepted. -/
theorem ofJson_refuses_in_range :
    IsDocument (String.ofList edgeDefinition.text).toList edgeDefinition.tree ∧
    edgeDefinition.tree.IsAutomaton Tree.IsInRange ∧
    ¬ ∃ automaton, Automaton.ofJson (String.ofList edgeDefinition.text) = .ok automaton := by
  have document : IsDocument (String.ofList edgeDefinition.text).toList edgeDefinition.tree := by
    rw [String.toList_ofList]
    exact edgeDefinition.isDocument
  have position : edgePosition.tree.IsPosition Tree.IsInRange := by
    refine ⟨_, rfl, ?_⟩
    simp only [Tree.positionMembers, List.forall_mem_cons]
    refine ⟨.of_single rfl ?_, .of_single rfl ?_, List.forall_mem_nil _⟩
    · exact ⟨edgeNumeral, rfl, exact_edgeNumeral_le⟩
    · exact ⟨_, rfl, by decide +kernel⟩
  have state : edgeState.tree.IsState Tree.IsInRange := by
    refine ⟨_, rfl, ?_⟩
    simp only [Tree.stateMembers, List.forall_mem_cons]
    exact ⟨.of_single rfl ⟨_, rfl⟩, .of_none rfl rfl, .of_single rfl position,
      List.forall_mem_nil _⟩
  have definition : edgeDefinition.tree.IsAutomaton Tree.IsInRange := by
    refine ⟨_, rfl, ?_⟩
    simp only [Tree.automatonMembers, List.forall_mem_cons]
    refine ⟨.of_single rfl ?id, .of_single rfl ?name, .of_none rfl rfl, .of_single rfl ?alphabet,
      .of_single rfl ?states, .of_single rfl ?transitions, .of_single rfl ?initial,
      .of_none rfl rfl, List.forall_mem_nil _⟩
    case id | name | initial => exact ⟨_, rfl⟩
    case alphabet | transitions => exact ⟨[], rfl, List.forall_mem_nil _⟩
    case states => exact ⟨_, rfl, List.forall_mem_singleton.mpr state⟩
  have undefined : edgeDefinition.tree.automaton? = none := by decide +kernel
  refine ⟨document, definition, ?_⟩
  rintro ⟨automaton, read⟩
  rw [Definition.ofJson_eq_ok_iff document, undefined] at read
  cases read

end Acceptor
