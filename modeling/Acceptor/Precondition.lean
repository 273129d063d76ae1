/-! # Preconditions

The few operations that are defined on part of their arguments only refuse the rest with a
`Violation`, which says what was asked for. Everything else in the library answers for every
argument, malformed automata included.
-/

namespace Acceptor

/-- What a caller asked for that does not exist. -/
inductive Violation
  /-- More letters than the basic Latin alphabet has. -/
  | alphabetTooLarge
  /-- An automaton without states has no initial state. -/
  | noStates
  /-- No number lies between the two. -/
  | emptyRange (low high : Nat)
  /-- The place is not below the length. -/
  | indexOutOfBounds (length index : Nat)
deriving DecidableEq, Repr

namespace Violation

/-- The wording shown to the caller. -/
def message : Violation → String
  | alphabetTooLarge => "Alphabet is too large"
  | noStates => "a DFA needs at least one state"
  | emptyRange low high => s!"empty range: Included({low})..Included({high})"
  | indexOutOfBounds length index =>
    s!"index out of bounds: the len is {length} but the index is {index}"

end Violation

end Acceptor
