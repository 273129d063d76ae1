import Acceptor.Proofs.Run.Walk
import Acceptor.Run.Verdict

/-! # What a run yields

A run that is asked for all its steps yields the walk of the word along the transitions it looks up
and ends where the walk stops (`value_rest_start`). It is stuck afterwards exactly if something of
the word is left. The bound on the number of calls plays no part in this: every bound that is large
enough gives the same (`value_take_underway`).
-/

namespace Acceptor.Run

open Walk

/-- The run after it was found that no step is left: at the end of the walk, stuck if the word is
not read to its end. -/
def ended (lookup : Lookup) (source : StateId) (index : Nat) (word : Word) : Run :=
  let stopped := stop lookup.next? source word
  ⟨lookup, stopped.1, stopped.2, index + (readable lookup.next? source word).length,
    if stopped.2 = [] then .underway else .stuck⟩

/-- The first step stands at the source, before anything is read. -/
theorem next_fresh (lookup : Lookup) (source : StateId) (index : Nat) (word : Word) :
    next ⟨lookup, source, word, index, .fresh⟩ =
      pure (some ⟨source, none, word, index⟩, ⟨lookup, source, word, index, .underway⟩) := rfl

/-- As long as a transition is there, a run underway follows it and says so. -/
theorem next_moved {lookup : Lookup} {source target : StateId} {symbol : Symbol} {rest : Word}
    {index : Nat} (found : lookup.next? source symbol = some target) :
    next ⟨lookup, source, symbol :: rest, index, .underway⟩ =
      ⟨(some ⟨target, some symbol, rest, index + 1⟩, ⟨lookup, target, rest, index + 1, .underway⟩),
        [.moved source symbol target]⟩ := by
  simp only [next, found]
  rfl

/-- Without a transition a run underway stays where it is, from then on stuck. -/
theorem next_blocked {lookup : Lookup} {source : StateId} {symbol : Symbol} {rest : Word}
    {index : Nat} (missing : lookup.next? source symbol = none) :
    next ⟨lookup, source, symbol :: rest, index, .underway⟩ =
      ⟨(none, ⟨lookup, source, symbol :: rest, index, .stuck⟩), [.stuck source symbol]⟩ := by
  simp only [next, missing]
  rfl

/-- One call per symbol and one more are enough for a run underway to come to its end. -/
theorem value_take_underway (lookup : Lookup) (source : StateId) (index : Nat) (word : Word)
    {count : Nat} (enough : word.length < count) :
    (take count ⟨lookup, source, word, index, .underway⟩).value =
      (onward lookup.next? source index word, ended lookup source index word) := by
  -- Each symbol takes one call; the call left over finds the end of the word or the gap.
  induction word generalizing source index count with
  | nil =>
    obtain ⟨count, rfl⟩ := Nat.exists_eq_succ_of_ne_zero (Nat.ne_zero_of_lt enough)
    rfl
  | cons symbol rest ih =>
    obtain ⟨count, rfl⟩ := Nat.exists_eq_succ_of_ne_zero (Nat.ne_zero_of_lt enough)
    have enoughLater : rest.length < count := Nat.lt_of_succ_lt_succ enough
    cases found : lookup.next? source symbol with
    | none => simp [take, next_blocked found, onward, ended, stop, readable, found]
    | some target =>
      have later := ih target (index + 1) enoughLater
      have further :
          ended lookup target (index + 1) rest = ended lookup source index (symbol :: rest) := by
        simp only [ended, stop, readable, found, List.length_cons]
        rw [Nat.add_assoc, Nat.add_comm 1]
      simp only [take, next_moved found, Traced.value_bind, Traced.value_map, later, further,
        onward, found]

/-- A run that was just started yields the whole walk, the step at its source included. -/
theorem value_rest_start (lookup : Lookup) (initial : StateId) (word : Word) :
    (start lookup initial word).rest.value =
      (trail lookup.next? initial word, ended lookup initial 0 word) := by
  have later := value_take_underway lookup initial 0 word (Nat.lt_add_one word.length)
  change (take (word.length + 1 + 1) ⟨lookup, initial, word, 0, .fresh⟩).value = _
  rw [take, next_fresh]
  simp only [Traced.value_bind, Traced.value_pure, Traced.value_map, later, trail]

/-- A single call shows where the run begins. -/
theorem value_take_one_start (lookup : Lookup) (initial : StateId) (word : Word) :
    ((start lookup initial word).take 1).value.1 = [⟨initial, none, word, 0⟩] := rfl

/-- A run that has ended has failed exactly if something is left, and then on its first symbol. -/
theorem failure?_ended (lookup : Lookup) (source : StateId) (index : Nat) (word : Word) :
    (ended lookup source index word).failure? =
      match stop lookup.next? source word with
      | (_, []) => none
      | (state, symbol :: _) => some (.missingTransition state symbol) := by
  cases stopped : stop lookup.next? source word with
  | mk state left =>
    cases left <;> simp [ended, failure?, stopped]

end Acceptor.Run
