import Acceptor.Automaton.Builder

/-! # Random automata and words

A random automaton is complete: every state has one transition on every symbol, to a target drawn
uniformly. Which states accept is drawn first, one draw per state, and the targets after that, state
by state and symbol by symbol. A random word has a length drawn from a range and symbols drawn from
an alphabet; over the empty alphabet it is the empty word, and nothing is drawn. Any source of draws
will do, the seeded generator being one.
-/

namespace Acceptor

namespace Random

open DrawSource

variable {σ : Type} [DrawSource σ]

/-- The identifiers `q0`, `q1`, …, as many as there are to be states. -/
def stateIds (size : Nat) : List StateId := (List.range size).map .numbered

/-- The states that accept: one draw for each, whatever the probability. -/
def acceptance (probability : Float) (states : List StateId) (source : σ) : List StateId × σ :=
  let draws := many unit states.length source
  (((states.zip draws.1).filter fun pair => pair.2 < probability).map Prod.fst, draws.2)

/-- Every state with every symbol, state by state. -/
def situations (states : List StateId) (symbols : List Symbol) : List Situation :=
  states.flatMap fun state => symbols.map (Situation.mk state)

/-- One edge for every state and symbol, the first symbol of the first state drawing first. -/
def edges (size : Nat) (symbols : List Symbol) (states : List StateId) (source : σ) :
    List Edge × σ :=
  let situations := situations states symbols
  let targets := many (below size) situations.length source
  (List.zipWith (fun situation target => ⟨situation.state, situation.symbol, .numbered target⟩)
    situations targets.1, targets.2)

/-- A complete automaton with numbered states that starts in the first, over the first
letters of the alphabet, each state accepting with the given probability. -/
def automaton (symbols size : Nat) (probability : Float) (source : σ) :
    Except Violation (Automaton × σ) :=
  if size = 0 then .error .noStates
  else do
    let alphabet ← Alphabet.ofSize symbols
    let states := stateIds size
    let accepting := acceptance probability states source
    let edges := edges size alphabet.symbols states accepting.2
    let name := "random-" ++ toString symbols ++ "-" ++ toString size
    let builder := (Builder.named name).addAll
      [.alphabet alphabet, .states states, .edges edges.1, .accepting accepting.1]
    pure (builder.build (.numbered 0), edges.2)

/-- A symbol of the list, each place as likely as any other. -/
def symbol (symbols : List Symbol) (source : σ) : Symbol × σ :=
  let place := below symbols.length source
  (symbols.getD place.1 default, place.2)

/-- A word of `low` to `high` symbols. -/
def word (alphabet : Alphabet) (low high : Nat) (source : σ) : Except Violation (Word × σ) :=
  if alphabet.isEmpty then .ok ([], source)
  else if high < low then .error (.emptyRange low high)
  else
    let length := between low high source
    .ok (many (symbol alphabet.symbols) length.1 length.2)

/-- Words drawn one after another. -/
def words (alphabet : Alphabet) (low high : Nat) : Nat → σ → Except Violation (List Word × σ)
  | 0, source => .ok ([], source)
  | count + 1, source => do
    let first ← word alphabet low high source
    let others ← words alphabet low high count first.2
    pure (first.1 :: others.1, others.2)

end Random

end Acceptor
