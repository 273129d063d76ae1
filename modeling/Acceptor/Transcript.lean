/-! # Transcripts

A computation that keeps a log is a value together with the events it emitted, oldest first.
Sequencing two of them appends the second log to the first, so what is logged is part of the result
and can be reasoned about like it. How an event reads is left to the module that defines it, which
turns it into an `Entry`.
-/

namespace Acceptor

/-- How prominent an entry of the log is. -/
inductive Level
  | trace
  | debug
deriving DecidableEq, Repr

namespace Level

def name : Level → String
  | trace => "TRACE"
  | debug => "DEBUG"

end Level

/-- One line of the log. -/
structure Entry where
  level : Level
  message : String
deriving DecidableEq, Repr

/-- A value and the events emitted on the way to it, oldest first. -/
@[ext]
structure Traced (ε α : Type) where
  value : α
  events : List ε
deriving DecidableEq, Repr

namespace Traced

variable {ε α β : Type}

/-- Emits one event. -/
def emit (event : ε) : Traced ε Unit := ⟨(), [event]⟩

/-- The same value, its events told as part of a larger log. -/
def mapEvents {φ : Type} (wrap : ε → φ) (traced : Traced ε α) : Traced φ α :=
  ⟨traced.value, traced.events.map wrap⟩

instance : Monad (Traced ε) where
  pure value := ⟨value, []⟩
  map change traced := ⟨change traced.value, traced.events⟩
  bind first rest := ⟨(rest first.value).value, first.events ++ (rest first.value).events⟩

@[simp] theorem value_pure (value : α) : (pure value : Traced ε α).value = value := rfl

@[simp] theorem value_map (change : α → β) (traced : Traced ε α) :
    (change <$> traced).value = change traced.value := rfl

@[simp] theorem events_map (change : α → β) (traced : Traced ε α) :
    (change <$> traced).events = traced.events := rfl

@[simp] theorem value_bind (first : Traced ε α) (rest : α → Traced ε β) :
    (first >>= rest).value = (rest first.value).value := rfl

@[simp] theorem value_mapEvents {φ : Type} (wrap : ε → φ) (traced : Traced ε α) :
    (traced.mapEvents wrap).value = traced.value := rfl

instance : LawfulMonad (Traced ε) :=
  LawfulMonad.mk' _ (fun _ => rfl) (fun _ _ => rfl)
    (fun first _ _ => Traced.ext rfl (List.append_assoc first.events _ _))
    (fun _ _ => rfl) (fun _ _ => rfl) (fun _ _ => rfl)
    (fun _ first => Traced.ext rfl (List.append_nil first.events)) (fun _ _ => rfl)

end Traced

end Acceptor
