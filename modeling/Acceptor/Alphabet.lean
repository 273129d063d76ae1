import Acceptor.Ident
import Acceptor.Precondition

/-! # Alphabets

An alphabet keeps its symbols in the order in which they were given, repetitions included. Only
membership matters to runs and validation; the order shows wherever symbols are listed, and there
each one is listed once (`unique`).
-/

namespace Acceptor

/-- The symbols of an automaton as they were listed. -/
structure Alphabet where
  symbols : List Symbol
deriving DecidableEq, Repr, Inhabited

namespace Alphabet

/-- The number of symbols as listed, repetitions included. -/
def size (alphabet : Alphabet) : Nat := alphabet.symbols.length

def isEmpty (alphabet : Alphabet) : Bool := alphabet.symbols.isEmpty

def contains (alphabet : Alphabet) (symbol : Symbol) : Bool := alphabet.symbols.contains symbol

/-- Each symbol once, in the order of first appearance. -/
def unique (alphabet : Alphabet) : List Symbol := alphabet.symbols.eraseDups

/-- The symbol at a place of the list, counted from zero. -/
def symbolAt (alphabet : Alphabet) (index : Nat) : Except Violation Symbol :=
  match alphabet.symbols[index]? with
  | some symbol => .ok symbol
  | none => .error (.indexOutOfBounds alphabet.size index)

/-- The letter with the given number, from `a` for zero. -/
def letter (number : Nat) : Symbol := Char.ofNat (97 + number)

/-- As many letters, from `a` on. -/
def letters (count : Nat) : List Symbol := (List.range count).map letter

/-- The first letters of the basic Latin alphabet, of which there are 26. -/
def ofSize (size : Nat) : Except Violation Alphabet :=
  if size ≤ 26 then .ok ⟨letters size⟩ else .error .alphabetTooLarge

/-- Alphabets are ordered like words: at the first difference, a missing symbol coming first. -/
instance : Ord Alphabet := ⟨fun first second => compare first.symbols second.symbols⟩

/-- The listed symbols between braces. -/
def display (alphabet : Alphabet) : String :=
  "\x7b" ++ ", ".intercalate (alphabet.symbols.map Char.toString) ++ "\x7d"

theorem contains_eq_true_iff {alphabet : Alphabet} {symbol : Symbol} :
    alphabet.contains symbol = true ↔ symbol ∈ alphabet.symbols := by
  simp [contains]

theorem mem_unique {alphabet : Alphabet} {symbol : Symbol} :
    symbol ∈ alphabet.unique ↔ symbol ∈ alphabet.symbols := by
  simp [unique]

end Alphabet

end Acceptor
