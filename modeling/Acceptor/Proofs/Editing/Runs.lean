import Acceptor.Proofs.Editing.Effect
import Acceptor.Proofs.Run.Dependence
import Acceptor.Proofs.Run.Handling
import Acceptor.Proofs.Validation.Coherent

/-! # What edits do to runs

Removing a state takes its transitions out, and that may bring transitions forward that never
decided before. A run that does not come to the state notices nothing of it, since the transitions
that it follows stay the first ones. A run that comes to the state ends in front of it if no other
transition can take the place of the one that led there (`removal_cuts_runs`).
-/

namespace List

/-- What comes before the first item that fails is a part of known length. -/
theorem takeWhile_eq_take {α : Type} {holds : α → Bool} {items : List α} {place : Nat} {item : α}
    (found : items[place]? = some item) (fails : holds item = false)
    (before : ∀ earlier ∈ items.take place, holds earlier = true) :
    items.takeWhile holds = items.take place := by
  obtain ⟨within, rfl⟩ := getElem?_eq_some_iff.mp found
  conv_lhs => rw [← take_append_drop place items, drop_eq_getElem_cons within]
  rw [takeWhile_append_of_pos before, takeWhile_cons_of_neg (by simp [fails]), append_nil]

end List

namespace Acceptor

namespace Walk

variable {next? other? : StateId → Symbol → Option StateId} {source avoided : StateId} {word : Word}

/-- Where the walk stops, one of its steps stands. -/
theorem exists_mem_trail_stop (next? : StateId → Symbol → Option StateId) (source : StateId)
    (word : Word) :
    ∃ step ∈ trail next? source word, (step.state, step.remaining) = stop next? source word := by
  obtain ⟨last, found, stands⟩ :=
    Option.map_eq_some_iff.mp (getLast?_onward next? source none 0 word)
  exact ⟨last, List.mem_of_getLast? found, stands⟩

/-- A walk that never comes to a state does not depend on what the state is left and entered by. -/
theorem agreeAlong_of_avoids {index : Nat}
    (alike : ∀ state symbol, state ≠ avoided → next? state symbol ≠ some avoided →
      other? state symbol = next? state symbol)
    (begun : source ≠ avoided)
    (avoids : ∀ step ∈ onward next? source index word, step.state ≠ avoided) :
    AgreeAlong next? other? source word := by
  induction word generalizing source index with
  | nil => trivial
  | cons symbol rest ih =>
    cases found : next? source symbol with
    | none =>
      refine ⟨alike source symbol begun (by simp [found]), fun target leads => ?_⟩
      rw [found] at leads
      cases leads
    | some target =>
      simp only [onward, found, List.forall_mem_cons] at avoids
      obtain ⟨here, later⟩ := avoids
      refine ⟨alike source symbol begun (by simpa [found] using here), fun next leads => ?_⟩
      obtain rfl : target = next := Option.some.inj (found.symm.trans leads)
      exact ih here later

/-- Without the transitions that enter a state the walk has the steps up to there. -/
theorem onward_eq_takeWhile
    (alike : ∀ state symbol, state ≠ avoided → next? state symbol ≠ some avoided →
      other? state symbol = next? state symbol)
    (cut : ∀ state symbol, state ≠ avoided → next? state symbol = some avoided →
      other? state symbol = none)
    (begun : source ≠ avoided) (index : Nat) :
    onward other? source index word =
      (onward next? source index word).takeWhile fun step => step.state ≠ avoided := by
  induction word generalizing source index with
  | nil => rfl
  | cons symbol rest ih =>
    cases found : next? source symbol with
    | none =>
      have missing := alike source symbol begun (by simp [found])
      simp [onward, found, missing]
    | some target =>
      by_cases enters : target = avoided
      · have missing := cut source symbol begun (by rw [found, enters])
        simp [onward, found, missing, enters]
      · have followed := alike source symbol begun (by simpa [found] using enters)
        simp [onward, found, followed, enters, ih enters]

end Walk

open Walk

section FirstTarget

variable {transitions : List Transition} {id state : StateId} {symbol : Symbol}

/-- The first transition stays the first if it neither leaves nor enters the state that goes. -/
theorem firstTarget?_untouched (remains : state ≠ id)
    (elsewhere : firstTarget? transitions state symbol ≠ some id) :
    firstTarget? (transitions.filter fun transition => !transition.touches id) state symbol =
      firstTarget? transitions state symbol := by
  induction transitions with
  | nil => rfl
  | cons transition rest ih =>
    rw [firstTarget?_cons] at elsewhere ⊢
    by_cases served : transition.serves state symbol = true
    · rw [if_pos served] at elsewhere ⊢
      have leaves : transition.source = state := (Transition.serves_eq_true_iff.mp served).1
      have leads : transition.target ≠ id := fun enters => elsewhere (congrArg some enters)
      have kept : (!transition.touches id) = true := by
        simp [Transition.touches, leaves, remains, leads]
      rw [List.filter_cons, if_pos kept, firstTarget?_cons, if_pos served]
    · rw [if_neg served] at elsewhere ⊢
      rw [List.filter_cons]
      split
      · rw [firstTarget?_cons, if_neg served, ih elsewhere]
      · exact ih elsewhere

/-- Nothing takes the place of a transition into the state that goes if nothing else is like it. -/
theorem firstTarget?_touched
    (deterministic : transitions.Pairwise fun earlier later =>
      ¬ (earlier.source = later.source ∧ earlier.symbol = later.symbol))
    (enters : firstTarget? transitions state symbol = some id) :
    firstTarget? (transitions.filter fun transition => !transition.touches id) state symbol =
      none := by
  obtain ⟨taken, listed, rfl, rfl, leads⟩ := exists_of_firstTarget?_eq_some enters
  rw [firstTarget?_eq_none_iff]
  rintro other kept ⟨source, symbol⟩
  obtain ⟨before, untouched⟩ := List.mem_filter.mp kept
  obtain rfl := Transition.eq_of_alike deterministic before listed source symbol
  simp [Transition.touches, leads] at untouched

end FirstTarget

namespace Automaton

variable {automaton : Automaton} {id : StateId} {word : Word}

theorem transitions_removeState (declared : id ∈ automaton.stateIds) :
    (automaton.removeState id).2.transitions =
      automaton.transitions.filter fun transition => !transition.touches id := by
  obtain ⟨removed, -, -, does⟩ := removeState_of_declared declared
  rw [does]

/-- A run that never comes to a state is no other without it. -/
theorem agreeOn_removeState (declared : id ∈ automaton.stateIds)
    (avoids : ∀ step ∈ (automaton.steps word).value, step.state ≠ id) :
    automaton.AgreeOn (automaton.removeState id).2 word ∧
      AgreeAlong (firstTarget? automaton.transitions)
        (firstTarget? (automaton.removeState id).2.transitions) automaton.initial word := by
  rw [value_steps] at avoids
  have begun : automaton.initial ≠ id := avoids _ List.mem_cons_self
  have agree : AgreeAlong (firstTarget? automaton.transitions)
      (firstTarget? (automaton.removeState id).2.transitions) automaton.initial word := by
    rw [transitions_removeState declared]
    apply agreeAlong_of_avoids _ begun fun step later => avoids step (List.mem_cons_of_mem _ later)
    intro state symbol remains elsewhere
    exact firstTarget?_untouched remains elsewhere
  obtain ⟨last, stands, stopped⟩ :=
    exists_mem_trail_stop (firstTarget? automaton.transitions) automaton.initial word
  have remains : (automaton.stop word).1 ≠ id := by
    rw [stop, ← stopped]
    exact avoids last stands
  obtain ⟨removed, -, -, does⟩ := removeState_of_declared declared
  refine ⟨⟨?_, ?_, fun _ => agree, ?_⟩, agree⟩
  · rw [does]
  · intro symbol
    rw [does]
  · intro _
    rw [does]
    simp [remains]

/-- The transition that entered the state is gone, and so are the steps behind it. -/
theorem value_steps_removeState (declared : id ∈ automaton.stateIds)
    (deterministic : automaton.transitions.Pairwise fun earlier later =>
      ¬ (earlier.source = later.source ∧ earlier.symbol = later.symbol))
    (begun : automaton.initial ≠ id) (word : Word) :
    ((automaton.removeState id).2.steps word).value =
      (automaton.steps word).value.takeWhile fun step => step.state ≠ id := by
  obtain ⟨removed, -, -, does⟩ := removeState_of_declared declared
  have initial : (automaton.removeState id).2.initial = automaton.initial := by rw [does]
  have shorter : onward (firstTarget? (automaton.removeState id).2.transitions) automaton.initial 0
        word =
      (onward (firstTarget? automaton.transitions) automaton.initial 0 word).takeWhile
        fun step => step.state ≠ id := by
    rw [transitions_removeState declared]
    apply onward_eq_takeWhile _ _ begun
    · exact fun state symbol => firstTarget?_untouched
    · exact fun state symbol _ => firstTarget?_touched deterministic
  rw [value_steps, value_steps, initial, trail, trail, shorter]
  simp [begun]

/-- A word over the alphabet fails in front of the first symbol that its steps do not read. -/
theorem outcome_judge_of_getLast?_steps (spelled : automaton.alphabet.Spells word) {last : Step}
    {symbol : Symbol} {rest : Word}
    (stopped : (automaton.steps word).value.getLast? = some last)
    (left : last.remaining = symbol :: rest) :
    (automaton.judge word).value.outcome = .failed (.missingTransition last.state symbol) := by
  have stands := getLast?_onward (firstTarget? automaton.transitions) automaton.initial none 0 word
  rw [value_steps, trail] at stopped
  rw [stopped, Option.map_some, Option.some.injEq, left] at stands
  rw [value_judge_of_spells spelled, stop, ← stands]
  rfl

end Automaton

/-- Removing a declared state from any automaton. A word whose steps do not come to the state has
the same verdict, trace and steps as before. If no two transitions leave one state on one symbol, a
word whose steps come to the state keeps exactly those in front of it, and if it is over the
alphabet it fails for the transition that led there. -/
theorem removal_cuts_runs (automaton : Automaton) (id : StateId)
    (declared : id ∈ automaton.stateIds) (word : Word) :
    ((∀ step ∈ (automaton.steps word).value, step.state ≠ id) →
      ((automaton.removeState id).2.judge word).value = (automaton.judge word).value ∧
      ((automaton.removeState id).2.trace word).value = (automaton.trace word).value ∧
      ((automaton.removeState id).2.steps word).value = (automaton.steps word).value) ∧
    ((automaton.transitions.Pairwise fun earlier later =>
        ¬ (earlier.source = later.source ∧ earlier.symbol = later.symbol)) →
      ∀ place before entering,
        (automaton.steps word).value[place]? = some before →
        (automaton.steps word).value[place + 1]? = some entering →
        entering.state = id →
        (∀ earlier ∈ (automaton.steps word).value.take (place + 1), earlier.state ≠ id) →
        ((automaton.removeState id).2.steps word).value =
          (automaton.steps word).value.take (place + 1) ∧
        ∃ symbol, entering.symbol = some symbol ∧
          (automaton.alphabet.Spells word →
            ((automaton.removeState id).2.judge word).value.outcome =
              .failed (.missingTransition before.state symbol))) := by
  constructor
  · intro avoids
    obtain ⟨agree, along⟩ := Automaton.agreeOn_removeState declared avoids
    exact ⟨agree.value_judge_eq, agree.value_trace_eq,
      Automaton.value_steps_eq agree.initial along⟩
  · intro deterministic place before entering foundBefore foundEntering enters first
    have isTrail : IsTrail (firstTarget? automaton.transitions) automaton.initial word
        (automaton.steps word).value := by
      rw [Automaton.value_steps]
      exact isTrail_trail automaton.initial word
    have begun : automaton.initial ≠ id := by
      refine first ⟨automaton.initial, none, word, 0⟩ (List.mem_of_getElem? (i := 0) ?_)
      rw [List.getElem?_take_of_lt (Nat.succ_pos place), isTrail.first]
    have shortened := Automaton.value_steps_removeState declared deterministic begun word
    rw [List.takeWhile_eq_take foundEntering (by simp [enters]) (by simpa using first)] at shortened
    have stopped : ((automaton.removeState id).2.steps word).value.getLast? = some before := by
      rw [shortened, List.getLast?_take, if_neg (Nat.succ_ne_zero place), Nat.add_sub_cancel,
        foundBefore, Option.some_or]
    -- The step behind the last one that is left reads the symbol that is missing from then on.
    have behind := isTrail.later place before foundBefore
    rw [foundEntering] at behind
    split at behind
    · cases behind
    · next symbol rest left =>
      obtain ⟨target, -, rfl⟩ := Option.map_eq_some_iff.mp behind.symm
      refine ⟨shortened, symbol, rfl, fun spelled => ?_⟩
      obtain ⟨removed, -, -, does⟩ := Automaton.removeState_of_declared declared
      have spelledStill : (automaton.removeState id).2.alphabet.Spells word := by rwa [does]
      exact Automaton.outcome_judge_of_getLast?_steps spelledStill stopped left

/-- Two transitions leave the state that is removed, one of several enters it. -/
def crossed : Automaton where
  id := "crossed"
  name := "crossed"
  description := none
  alphabet := ⟨['a', 'b']⟩
  states := [.ofId ⟨"s"⟩, .ofId ⟨"t"⟩, .ofId ⟨"u"⟩]
  transitions := [⟨⟨"t0"⟩, ⟨"s"⟩, 'a', ⟨"t"⟩⟩, ⟨⟨"t1"⟩, ⟨"t"⟩, 'a', ⟨"u"⟩⟩,
    ⟨⟨"t2"⟩, ⟨"s"⟩, 'b', ⟨"s"⟩⟩, ⟨⟨"t3"⟩, ⟨"t"⟩, 'b', ⟨"s"⟩⟩, ⟨⟨"t4"⟩, ⟨"u"⟩, 'a', ⟨"s"⟩⟩]
  initial := ⟨"s"⟩
  accepting := [⟨"u"⟩, ⟨"t"⟩]

/-- The word goes around once before it comes to the state that is removed. -/
theorem removal_cuts_runs_crossed :
    (⟨"u"⟩ ∈ crossed.stateIds ∧
      ((crossed.removeState ⟨"u"⟩).2.judge ['a', 'b', 'a']).value =
        (crossed.judge ['a', 'b', 'a']).value) ∧
    ((crossed.removeState ⟨"u"⟩).2.steps ['a', 'b', 'a', 'a', 'a']).value =
      (crossed.steps ['a', 'b', 'a', 'a', 'a']).value.take 4 ∧
    ((crossed.removeState ⟨"u"⟩).2.judge ['a', 'b', 'a', 'a', 'a']).value.outcome =
      .failed (.missingTransition ⟨"t"⟩ 'a') := by
  have declared : ⟨"u"⟩ ∈ crossed.stateIds := by decide
  have short := removal_cuts_runs crossed ⟨"u"⟩ declared ['a', 'b', 'a']
  have long := removal_cuts_runs crossed ⟨"u"⟩ declared ['a', 'b', 'a', 'a', 'a']
  rw [Automaton.value_steps] at short long
  have cut := long.2 (by decide) 3 ⟨⟨"t"⟩, some 'a', ['a', 'a'], 3⟩ ⟨⟨"u"⟩, some 'a', ['a'], 4⟩
    (by decide) (by decide) rfl (by decide)
  obtain ⟨steps, symbol, read, fails⟩ := cut
  obtain rfl : 'a' = symbol := Option.some.inj read
  rw [Automaton.value_steps crossed]
  exact ⟨⟨declared, (short.1 (by decide)).1⟩, steps, fails (by decide)⟩

end Acceptor
