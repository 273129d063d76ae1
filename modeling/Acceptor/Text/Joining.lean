import Acceptor.Text.CodeRanges

/-! # Letters that join

In several scripts neighbouring letters merge into one sign. These are the letters that do, as of
version 15.1 of the Unicode standard.
-/

namespace Acceptor.Text

/-- Joins what stands on its two sides. -/
def joiner : Char := '\u200d'

/-- Arabic letters of the joining group `Alef`. -/
def isAlef (character : Char) : Bool :=
  CodeRanges.contains character.toNat
    [(0x622, 0x623), (0x625, 0x625), (0x627, 0x627), (0x671, 0x673), (0x675, 0x675),
      (0x773, 0x774), (0x870, 0x882)]

/-- Arabic letters of the joining group `Lam`, which take an alef in. -/
def isLam (character : Char) : Bool :=
  CodeRanges.contains character.toNat
    [(0x644, 0x644), (0x6b5, 0x6b8), (0x76a, 0x76a), (0x8a6, 0x8a6), (0x8c7, 0x8c7)]

/-- Khmer letters whose subscript stands wholly below the letter before it. -/
def isCoengLetter (character : Char) : Bool :=
  CodeRanges.contains character.toNat
    [(0x1780, 0x1782), (0x1784, 0x1787), (0x1789, 0x178c), (0x178e, 0x1793), (0x1795, 0x1798),
      (0x179b, 0x179d), (0x17a0, 0x17a0), (0x17a2, 0x17a2), (0x17a7, 0x17a7), (0x17ab, 0x17ac),
      (0x17af, 0x17af)]

/-- Consonants of Tifinagh. -/
def isTifinagh (character : Char) : Bool :=
  CodeRanges.contains character.toNat [(0x2d31, 0x2d65), (0x2d6f, 0x2d6f)]

/-- Tone letters of Lisu that begin a pair. -/
def isFirstTone (character : Char) : Bool :=
  CodeRanges.contains character.toNat [(0xa4f8, 0xa4fb)]

/-- Tone letters of Lisu that end a pair. -/
def isSecondTone (character : Char) : Bool :=
  CodeRanges.contains character.toNat [(0xa4fc, 0xa4fd)]

end Acceptor.Text
