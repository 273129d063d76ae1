import Acceptor.Proofs.Json.Evaluation
import Acceptor.Proofs.Json.Grammar
import Acceptor.Json.Reader

/-! # What values mean

What a value is as a string, as a double, as a list or as a record, if it is one: the meaning that
readers are held to. A record is an object, in which every name that counts stands at most once and
all other names are ignored, or a list of the values in the order of the names.
-/

namespace Acceptor.Json

namespace Tree

/-- The characters of a string. -/
def text? : Tree → Option (List Char)
  | .text characters => some characters
  | _ => none

def string? (tree : Tree) : Option String := tree.text?.map String.ofList

def stringOrNull? : Tree → Option (Option String)
  | .null => some none
  | tree => tree.string?.map some

def double? : Tree → Option Float
  | .number numeral => numeral.double?
  | _ => none

def items? : Tree → Option (List Tree)
  | .list items => some items
  | _ => none

/-- A list of values that all mean something. -/
def list? {α : Type} (meaning : Tree → Option α) (tree : Tree) : Option (List α) :=
  tree.items?.bind fun items => items.mapM meaning

end Tree

/-- Items under names, in order; there may be fewer of them. -/
def underNames? (names : List String) (items : List Tree) : Option (List Entry) :=
  if items.length ≤ names.length then some ((names.map String.toList).zip items) else none

/-- The members of a record with the given names: those of an object, or the items of a list, each
under its name. -/
def Tree.entries? (names : List String) : Tree → Option (List Entry)
  | .object members => some members
  | .list items => underNames? names items
  | _ => none

/-- The values that are given for a name, in order. -/
def valuesOf (name : String) (entries : List Entry) : List Tree :=
  (entries.filter fun entry => entry.1 == name.toList).map Prod.snd

theorem valuesOf_cons (name : String) (entry : Entry) (entries : List Entry) :
    valuesOf name (entry :: entries) =
      if entry.1 = name.toList then entry.2 :: valuesOf name entries
      else valuesOf name entries := by
  by_cases same : entry.1 = name.toList <;> simp [valuesOf, same]

theorem valuesOf_cons_of_ne {name : String} {entry : Entry} (other : name.toList ≠ entry.1)
    (entries : List Entry) : valuesOf name (entry :: entries) = valuesOf name entries := by
  rw [valuesOf_cons, if_neg other.symm]

/-- What is given by values of which there may be one. -/
def once {β : Type} (meaning : Tree → Option β) : List Tree → Option (Option β)
  | [] => some none
  | [value] => (meaning value).map some
  | _ => none

/-- What is given for a name: nothing, or the meaning of one value. -/
def given {β : Type} (name : String) (meaning : Tree → Option β) (entries : List Entry) :
    Option (Option β) :=
  once meaning (valuesOf name entries)

/-- What has to be given for a name. -/
def required {β : Type} (name : String) (meaning : Tree → Option β) (entries : List Entry) :
    Option β :=
  (given name meaning entries).join

/-- What may be given for a name, and what stands for it otherwise. -/
def givenOr {β : Type} (name : String) (meaning : Tree → Option β) (otherwise : β)
    (entries : List Entry) : Option β :=
  (given name meaning entries).map fun value => value.getD otherwise

end Acceptor.Json
