/-! # Sets of code points

A set of code points is a list of closed ranges in ascending order. A look-up stops at the first
range that begins behind the code point, so most letters are decided after a few steps.
-/

namespace Acceptor.Text

/-- Closed ranges of code points, ascending. -/
abbrev CodeRanges := List (Nat × Nat)

namespace CodeRanges

/-- The code point lies in one of the ranges. -/
def contains (code : Nat) : CodeRanges → Bool
  | [] => false
  | (low, high) :: rest => low ≤ code && (code ≤ high || contains code rest)

end CodeRanges

end Acceptor.Text
