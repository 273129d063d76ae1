import Std.Data.String.ToNat

/-! # Identifiers and symbols

States and transitions are known by the text of their identifiers; what is displayed for a state
plays no part in it. A symbol is one Unicode scalar value and a word is a list of symbols, so a
word has as many symbols as it has scalar values, whatever a reader sees as one letter.
-/

namespace Acceptor

/-- One letter of an input. -/
abbrev Symbol := Char

/-- An input, letter by letter. -/
abbrev Word := List Symbol

/-- Names a state; two occurrences mean the same state exactly when their texts agree. -/
structure StateId where
  text : String
deriving DecidableEq, Hashable, Repr, Inhabited

/-- Names a transition. -/
structure TransitionId where
  text : String
deriving DecidableEq, Hashable, Repr, Inhabited

namespace StateId

instance : ToString StateId := ⟨StateId.text⟩

/-- Identifiers are ordered by the code points of their texts. -/
instance : Ord StateId := ⟨fun first second => compare first.text second.text⟩

/-- The identifier that generated states carry: `q` and a decimal numeral. -/
def numbered (number : Nat) : StateId := ⟨"q" ++ toString number⟩

/-- The first identifier of the series `q0`, `q1`, … that is not taken, searched upwards from as
many as there are taken ones. One of the next `taken.length + 1` candidates is always free. -/
def fresh (taken : List StateId) : StateId :=
  let candidates := List.range' taken.length (taken.length + 1)
  let free := candidates.find? fun number => !taken.contains (numbered number)
  numbered (free.getD (2 * taken.length))

theorem numbered_injective {first second : Nat} (same : numbered first = numbered second) :
    first = second := by
  apply Nat.repr_injective
  simpa [numbered] using congrArg StateId.text same

end StateId

namespace TransitionId

instance : ToString TransitionId := ⟨TransitionId.text⟩

end TransitionId

end Acceptor
