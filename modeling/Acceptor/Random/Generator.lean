import Acceptor.Random.Draws

/-! # A seeded generator

A small generator of 64 bit words whose state moves by a fixed odd step, so that it passes through
all states before it returns. The bits of a word come from the 128 bit product of the state
with a scrambled copy of itself. Drawing is a pure function from a state to a value and the state
after it: the same seed gives the same values in the same order.
-/

namespace Acceptor

/-- The generator between two draws; a fresh one holds its seed. -/
structure Generator where
  state : UInt64
deriving DecidableEq, Repr, Inhabited

namespace Generator

/-- The number of 64 bit words. -/
def wordCount : Nat := 0x10000000000000000

/-- How far the state moves with each draw. -/
def stride : UInt64 := 0x2d358dccaa6c78a5

/-- What the state is scrambled with. -/
def scramble : UInt64 := 0x8bb84b93962eacc9

/-- The next word: the two halves of the product, one laid over the other. -/
def word (generator : Generator) : UInt64 × Generator :=
  let state := generator.state + stride
  let product := state.toNat * (state ^^^ scramble).toNat
  (UInt64.ofNat (product % wordCount) ^^^ UInt64.ofNat (product / wordCount), ⟨state⟩)

/-- Two words as one number, the first drawn being the high half. -/
def doubleWord (generator : Generator) : Nat × Generator :=
  let high := generator.word
  let low := high.2.word
  (high.1.toNat * wordCount + low.1.toNat, low.2)

/-- Draws until the word, scaled to `bound`, leaves a remainder of at least `least`; a draw that
does not is one of those that would make some values likelier. At most `rounds` draws are put
aside. -/
def scaleFrom (bound least : Nat) : Nat → Generator → Nat × Generator
  | 0, generator => (generator.word.1.toNat * bound / wordCount, generator.word.2)
  | rounds + 1, generator =>
    let product := generator.word.1.toNat * bound
    if product % wordCount < least then scaleFrom bound least rounds generator.word.2
    else (product / wordCount, generator.word.2)

/-- A number below `bound`, each as likely as any other. A full turn of the generator bounds the
number of draws. -/
def below (bound : Nat) (generator : Generator) : Nat × Generator :=
  scaleFrom bound ((wordCount - bound) % bound) wordCount generator

/-- The upper 63 bits of a word as a fraction of one, rounded to the nearest double. -/
def fraction (word : UInt64) : Float := (word >>> 1).toFloat / 9223372036854775808

/-- Draws until the fraction is not rounded up to one, putting aside at most `rounds` words. -/
def unitFrom : Nat → Generator → Float × Generator
  | 0, generator => (fraction generator.word.1, generator.word.2)
  | rounds + 1, generator =>
    if fraction generator.word.1 == 1 then unitFrom rounds generator.word.2
    else (fraction generator.word.1, generator.word.2)

/-- A number from zero up to, but not including, one. -/
def unit (generator : Generator) : Float × Generator := unitFrom wordCount generator

theorem scaled_lt {bound : Nat} (positive : 0 < bound) (word : UInt64) :
    word.toNat * bound / wordCount < bound := by
  have small : word.toNat < wordCount := word.toNat_lt
  rw [Nat.div_lt_iff_lt_mul (by decide), Nat.mul_comm bound]
  exact Nat.mul_lt_mul_of_pos_right small positive

theorem scaleFrom_lt {bound : Nat} (positive : 0 < bound) (least rounds : Nat)
    (generator : Generator) : (scaleFrom bound least rounds generator).1 < bound := by
  induction rounds generalizing generator with
  | zero => exact scaled_lt positive _
  | succ rounds ih =>
    simp only [scaleFrom]
    split
    · exact ih _
    · exact scaled_lt positive _

theorem below_lt {bound : Nat} (positive : 0 < bound) (generator : Generator) :
    (generator.below bound).1 < bound := by
  rw [below]
  exact scaleFrom_lt positive ..

instance : DrawSource Generator := ⟨below, unit, below_lt⟩

end Generator

end Acceptor
