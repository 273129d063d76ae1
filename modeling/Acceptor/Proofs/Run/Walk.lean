import Acceptor.Run.Basic
import Mathlib.Data.List.Basic

/-! # Walks along transitions

What a word does to a state, said without runs. `reached?` follows a word from a state to its end
and `readable` is the longest part of the word, from its beginning on, that can be followed
(`longestReadable_readable`). The walk stops behind it, and `trail` lists its steps: each stands
where the part of the word before it leads (`getElem?_states_trail`). Transitions are given as a
function, so nothing here depends on how they are stored.
-/

namespace Acceptor.Walk

variable {next? : StateId → Symbol → Option StateId}

/-- The state behind the whole word; there is none if a transition is missing on the way. -/
def reached? (next? : StateId → Symbol → Option StateId) : StateId → Word → Option StateId
  | source, [] => some source
  | source, symbol :: rest =>
    match next? source symbol with
    | some target => reached? next? target rest
    | none => none

/-- `consumed` is the longest prefix of the word along which the source leads anywhere. -/
structure LongestReadable (next? : StateId → Symbol → Option StateId) (source : StateId)
    (word consumed : Word) : Prop where
  begins : consumed <+: word
  defined : (reached? next? source consumed).isSome
  longest : ∀ other, other <+: word → (reached? next? source other).isSome → other <+: consumed

/-- What is read of a word before a transition is missing. -/
def readable (next? : StateId → Symbol → Option StateId) : StateId → Word → Word
  | _, [] => []
  | source, symbol :: rest =>
    match next? source symbol with
    | some target => symbol :: readable next? target rest
    | none => []

/-- Where the walk stops, and what it leaves of the word. -/
def stop (next? : StateId → Symbol → Option StateId) : StateId → Word → StateId × Word
  | source, [] => (source, [])
  | source, symbol :: rest =>
    match next? source symbol with
    | some target => stop next? target rest
    | none => (source, symbol :: rest)

/-- The steps of the walk behind the one that stands in `source`. -/
def onward (next? : StateId → Symbol → Option StateId) : StateId → Nat → Word → List Step
  | _, _, [] => []
  | source, index, symbol :: rest =>
    match next? source symbol with
    | some target => ⟨target, some symbol, rest, index + 1⟩ :: onward next? target (index + 1) rest
    | none => []

/-- All steps of the walk from the beginning of a word on. -/
def trail (next? : StateId → Symbol → Option StateId) (source : StateId) (word : Word) :
    List Step :=
  ⟨source, none, word, 0⟩ :: onward next? source 0 word

/-- What holds at the source and is kept by transitions holds wherever a word leads. -/
theorem of_reached? (holds : StateId → Prop) {source target : StateId} {word : Word}
    (kept : ∀ state symbol next, holds state → next? state symbol = some next → holds next)
    (begun : holds source) (reached : reached? next? source word = some target) : holds target := by
  induction word generalizing source with
  | nil =>
    cases reached
    exact begun
  | cons symbol rest ih =>
    cases found : next? source symbol with
    | none => simp [reached?, found] at reached
    | some middle =>
      simp only [reached?, found] at reached
      exact ih (kept source symbol middle begun found) reached

/-- The part that is read and the part that is left make up the word. -/
theorem readable_append_stop (next? : StateId → Symbol → Option StateId) (source : StateId)
    (word : Word) :
    readable next? source word ++ (stop next? source word).2 = word := by
  induction word generalizing source with
  | nil => rfl
  | cons symbol rest ih =>
    cases found : next? source symbol with
    | none => simp [readable, stop, found]
    | some target => simpa [readable, stop, found] using ih target

theorem reached?_readable (next? : StateId → Symbol → Option StateId) (source : StateId)
    (word : Word) :
    reached? next? source (readable next? source word) = some (stop next? source word).1 := by
  induction word generalizing source with
  | nil => rfl
  | cons symbol rest ih =>
    cases found : next? source symbol with
    | none => simp [readable, reached?, stop, found]
    | some target => simpa [readable, reached?, stop, found] using ih target

/-- The symbol in front of what is left has no transition. -/
theorem next?_stop {source state : StateId} {word rest : Word} {symbol : Symbol}
    (stopped : stop next? source word = (state, symbol :: rest)) : next? state symbol = none := by
  induction word generalizing source with
  | nil => simp [stop] at stopped
  | cons first others ih =>
    cases found : next? source first with
    | none =>
      simp only [stop, found, Prod.mk.injEq, List.cons.injEq] at stopped
      obtain ⟨rfl, rfl, rfl⟩ := stopped
      exact found
    | some target =>
      simp only [stop, found] at stopped
      exact ih stopped

/-- A word that leads to a state without a transition on what follows is read up to there. -/
theorem stop_append_cons {source state : StateId} {word rest : Word} {symbol : Symbol}
    (reached : reached? next? source word = some state) (missing : next? state symbol = none) :
    stop next? source (word ++ symbol :: rest) = (state, symbol :: rest) := by
  induction word generalizing source with
  | nil =>
    cases reached
    simp [stop, missing]
  | cons first others ih =>
    cases found : next? source first with
    | none => simp [reached?, found] at reached
    | some target =>
      simp only [reached?, found] at reached
      simpa [stop, found] using ih reached

/-- No longer prefix can be read, since the symbol behind what is read has no transition. -/
theorem longestReadable_readable (source : StateId) (word : Word) :
    LongestReadable next? source word (readable next? source word) where
  begins := ⟨_, readable_append_stop next? source word⟩
  defined := by simp [reached?_readable]
  longest := by
    intro other begins defined
    induction word generalizing source other with
    | nil =>
      obtain rfl := List.prefix_nil.mp begins
      exact List.nil_prefix
    | cons symbol rest ih =>
      cases other with
      | nil => exact List.nil_prefix
      | cons first others =>
        obtain ⟨rfl, inRest⟩ := List.cons_prefix_cons.mp begins
        cases found : next? source first with
        | none => simp [reached?, found] at defined
        | some target =>
          simp only [reached?, found] at defined
          simpa [readable, found] using ih target others inRest defined

theorem length_onward (source : StateId) (index : Nat) (word : Word) :
    (onward next? source index word).length = (readable next? source word).length := by
  induction word generalizing source index with
  | nil => rfl
  | cons symbol rest ih =>
    cases found : next? source symbol with
    | none => simp [onward, readable, found]
    | some target => simpa [onward, readable, found] using ih target (index + 1)

/-- The walk is at each place where as many symbols lead; behind its end they lead nowhere. -/
theorem getElem?_states_onward (source : StateId) (index : Nat) {word : Word} {place : Nat}
    (within : place ≤ word.length) :
    (source :: (onward next? source index word).map Step.state)[place]? =
      reached? next? source (word.take place) := by
  induction word generalizing source index place with
  | nil =>
    obtain rfl : place = 0 := by simpa using within
    rfl
  | cons symbol rest ih =>
    cases place with
    | zero => rfl
    | succ place =>
      cases found : next? source symbol with
      | none => simp [onward, reached?, found]
      | some target =>
        have within : place ≤ rest.length := by simpa using within
        simpa [onward, reached?, found] using ih target (index + 1) within

theorem getElem?_states_trail (source : StateId) {word : Word} {place : Nat}
    (within : place ≤ word.length) :
    ((trail next? source word).map Step.state)[place]? =
      reached? next? source (word.take place) :=
  getElem?_states_onward source 0 within

/-- Every step stands where some beginning of the word leads. -/
theorem reached?_of_mem_trail {source : StateId} {word : Word} {step : Step}
    (member : step ∈ trail next? source word) :
    ∃ place, reached? next? source (word.take place) = some step.state := by
  obtain ⟨place, found⟩ := List.mem_iff_getElem?.mp member
  have shorter : (readable next? source word).length ≤ word.length :=
    (longestReadable_readable source word).begins.length_le
  have within : place ≤ word.length := by
    have bound := (List.getElem?_eq_some_iff.mp found).1
    rw [trail, List.length_cons, length_onward] at bound
    omega
  refine ⟨place, ?_⟩
  rw [← getElem?_states_trail source within, List.getElem?_map, found, Option.map_some]

/-- The last step stands where the walk stops, in front of what is left. -/
theorem getLast?_onward (next? : StateId → Symbol → Option StateId) (source : StateId)
    (arrived : Option Symbol) (index : Nat) (word : Word) :
    (Step.mk source arrived word index :: onward next? source index word).getLast?.map
        (fun step => (step.state, step.remaining)) = some (stop next? source word) := by
  induction word generalizing source arrived index with
  | nil => rfl
  | cons symbol rest ih =>
    cases found : next? source symbol with
    | none => simp [onward, stop, found]
    | some target =>
      simp only [onward, stop, found, List.getLast?_cons_cons]
      exact ih target (some symbol) (index + 1)

end Acceptor.Walk
