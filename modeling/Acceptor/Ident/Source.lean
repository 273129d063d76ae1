import Acceptor.Automaton.Basic
import Acceptor.Random.Generator

/-! # Sources of identifiers

Transitions are named by tokens drawn from a source. A counting source numbers them behind a fixed
stem, a random one draws 128 bits for each, and any other is known by what it hands out; all are
plain values, and drawing returns the source that goes on from there.
-/

namespace Acceptor

/-- Where identifiers of transitions come from. -/
inductive TokenSource
  | counting (stem : String) (next : Nat)
  | random (generator : Generator)
  /-- A source of another kind, given by the tokens that it hands out in turn. -/
  | supplied (tokens : Nat → String)

namespace TokenSource

/-- Counts from zero. -/
def withStem (stem : String) : TokenSource := counting stem 0

/-- The source in use where none is asked for. -/
def standard : TokenSource := withStem "t"

def withSeed (seed : UInt64) : TokenSource := random ⟨seed⟩

/-- A number in lower case hexadecimal, with zeros in front up to 32 digits. -/
def hex (number : Nat) : String :=
  let digits := Nat.toDigits 16 number
  String.ofList (List.replicate (32 - digits.length) '0' ++ digits)

/-- The next token and the source after it. -/
def draw : TokenSource → String × TokenSource
  | counting stem next => (stem ++ toString next, counting stem (next + 1))
  | random generator =>
    let number := generator.doubleWord
    ("t_" ++ hex number.1, random number.2)
  | supplied tokens => (tokens 0, supplied fun turn => tokens (turn + 1))

/-- The next identifier of a transition. -/
def drawTransitionId (source : TokenSource) : TransitionId × TokenSource :=
  let token := source.draw
  (⟨token.1⟩, token.2)

/-- The next `count` tokens. -/
def drawMany : Nat → TokenSource → List String × TokenSource
  | 0, source => ([], source)
  | count + 1, source =>
    let token := source.draw
    let others := drawMany count token.2
    (token.1 :: others.1, others.2)

end TokenSource

end Acceptor
