import Acceptor.Proofs.Run.Judgement
import Acceptor.Run.Operation
import Mathlib.Data.List.ReduceOption

/-! # Runs that somebody holds

A run may be asked for steps one at a time or all at once, copied, and started over, in any order.
Whatever is done, it keeps to the steps of its word: the call of `next` that is made after `place`
others since the start answers with the step at that place, and with nothing once the steps are used
up (`Stands.next`). Everything else about a run in use follows from how many calls were made
(`run_keeps_to_steps`).
-/

namespace Acceptor

namespace Walk

variable {next? : StateId → Symbol → Option StateId}

/-- The steps of a word, none missing: the first stands at the source, and behind each stands the
one that its next symbol leads to, exactly if there is such a symbol and it leads anywhere. -/
structure IsTrail (next? : StateId → Symbol → Option StateId) (source : StateId) (word : Word)
    (steps : List Step) : Prop where
  first : steps[0]? = some ⟨source, none, word, 0⟩
  later : ∀ place step, steps[place]? = some step →
    steps[place + 1]? =
      match step.remaining with
      | [] => none
      | symbol :: rest =>
        (next? step.state symbol).map fun target => ⟨target, some symbol, rest, place + 1⟩

/-- Behind a step of the walk stands what its next symbol leads to. -/
theorem getElem?_succ_onward (source : StateId) (arrived : Option Symbol) (index : Nat)
    (word : Word) {place : Nat} {step : Step}
    (found : (Step.mk source arrived word index :: onward next? source index word)[place]? =
      some step) :
    (Step.mk source arrived word index :: onward next? source index word)[place + 1]? =
      match step.remaining with
      | [] => none
      | symbol :: rest =>
        (next? step.state symbol).map fun target =>
          ⟨target, some symbol, rest, index + place + 1⟩ := by
  induction word generalizing source arrived index place with
  | nil =>
    cases place with
    | zero =>
      cases found
      rfl
    | succ place => simp [onward] at found
  | cons symbol rest ih =>
    cases moved : next? source symbol with
    | none =>
      cases place with
      | zero =>
        cases found
        simp [onward, moved]
      | succ place => simp [onward, moved] at found
    | some target =>
      cases place with
      | zero =>
        cases found
        simp [onward, moved]
      | succ place =>
        simp only [onward, moved, List.getElem?_cons_succ] at found ⊢
        have behind := ih target (some symbol) (index + 1) found
        rwa [show index + 1 + place + 1 = index + (place + 1) + 1 by omega] at behind

theorem isTrail_trail (source : StateId) (word : Word) :
    IsTrail next? source word (trail next? source word) where
  first := rfl
  later place step found := by
    have behind := getElem?_succ_onward source none 0 word found
    rwa [Nat.zero_add] at behind

namespace IsTrail

variable {source : StateId} {word : Word} {steps : List Step}

/-- A list with a step at every place up to the next one has one at this place. -/
private theorem exists_before {place : Nat} {step : Step}
    (found : steps[place + 1]? = some step) : ∃ before, steps[place]? = some before := by
  have within := (List.getElem?_eq_some_iff.mp found).1
  exact ⟨_, List.getElem?_eq_getElem (by omega)⟩

/-- Steps are counted by the symbols that were read. -/
theorem index_eq (isTrail : IsTrail next? source word steps) {place : Nat} {step : Step}
    (found : steps[place]? = some step) : step.index = place := by
  cases place with
  | zero =>
    rw [isTrail.first] at found
    cases found
    rfl
  | succ place =>
    obtain ⟨before, foundBefore⟩ := exists_before found
    have behind := isTrail.later place before foundBefore
    rw [found] at behind
    split at behind
    · cases behind
    · obtain ⟨target, -, rfl⟩ := Option.map_eq_some_iff.mp behind.symm
      rfl

/-- There is only one such list: the first place is given, and each place gives the next. -/
theorem eq_of_isTrail {other : List Step} (isTrail : IsTrail next? source word steps)
    (isOther : IsTrail next? source word other) : steps = other := by
  apply List.ext_getElem?
  intro place
  induction place with
  | zero => rw [isTrail.first, isOther.first]
  | succ place same =>
    cases found : steps[place]? with
    | some step => rw [isTrail.later place step found, isOther.later place step (same ▸ found)]
    | none =>
      have ended : other[place]? = none := same ▸ found
      rw [List.getElem?_eq_none_iff] at found ended
      rw [List.getElem?_eq_none (by omega), List.getElem?_eq_none (by omega)]

end IsTrail

theorem isTrail_iff {source : StateId} {word : Word} {steps : List Step} :
    IsTrail next? source word steps ↔ steps = trail next? source word := by
  constructor
  · intro isTrail
    exact isTrail.eq_of_isTrail (isTrail_trail source word)
  · rintro rfl
    exact isTrail_trail source word

end Walk

namespace Run

open Walk

/-! ## Asking until nothing comes -/

/-- Calling `next` again and again yields these steps and then nothing for the first time. -/
inductive Exhausts : Run → List Step → Run → Prop
  | done {run stopped : Run} : run.next.value = (none, stopped) → Exhausts run [] stopped
  | step {run moved stopped : Run} {step : Step} {steps : List Step} :
    run.next.value = (some step, moved) → Exhausts moved steps stopped →
    Exhausts run (step :: steps) stopped

/-- How many steps a run may still have at most. -/
def budget (run : Run) : Nat := run.remaining.length + if run.phase = .fresh then 1 else 0

/-- Each step uses up a part of the budget. -/
theorem budget_lt_of_next {run moved : Run} {step : Step}
    (next : run.next.value = (some step, moved)) : moved.budget < run.budget := by
  obtain ⟨lookup, state, remaining, index, phase⟩ := run
  cases phase with
  | fresh =>
    cases next
    simp [budget]
  | underway =>
    cases remaining with
    | nil => cases next
    | cons symbol rest =>
      cases found : lookup.next? state symbol with
      | none =>
        rw [next_blocked found] at next
        cases next
      | some target =>
        rw [next_moved found] at next
        cases next
        simp [budget]
  | stuck => cases remaining <;> cases next

theorem exhausts_take {run : Run} {count : Nat} (enough : run.budget < count) :
    Exhausts run (run.take count).value.1 (run.take count).value.2 := by
  induction count generalizing run with
  | zero => exact absurd enough (Nat.not_lt_zero _)
  | succ count ih =>
    simp only [take, Traced.value_bind]
    rcases next : run.next.value with ⟨_ | step, after⟩
    · exact .done next
    · have less := budget_lt_of_next next
      exact .step next (ih (by omega))

/-- All steps to come are those that calls of `next` yield before the first that yields none. -/
theorem exhausts_rest (run : Run) : Exhausts run run.rest.value.1 run.rest.value.2 := by
  apply exhausts_take
  unfold budget
  split <;> omega

theorem Exhausts.unique {run stopped otherStopped : Run} {steps otherSteps : List Step}
    (exhausts : Exhausts run steps stopped) (other : Exhausts run otherSteps otherStopped) :
    steps = otherSteps ∧ stopped = otherStopped := by
  induction exhausts generalizing otherSteps with
  | done next =>
    cases other with
    | done otherNext =>
      rw [next] at otherNext
      cases otherNext
      exact ⟨rfl, rfl⟩
    | step otherNext _ =>
      rw [next] at otherNext
      cases otherNext
  | step next _ ih =>
    cases other with
    | done otherNext =>
      rw [next] at otherNext
      cases otherNext
    | step otherNext onward =>
      rw [next] at otherNext
      cases otherNext
      obtain ⟨rfl, rfl⟩ := ih onward
      exact ⟨rfl, rfl⟩

/-! ## Where a run stands -/

/-- The run after so many calls of `next`: not begun, at the step that the last call yielded, or
still at the last step because the last call yielded none. -/
inductive Stands (lookup : Lookup) (source : StateId) (word : Word) (steps : List Step) :
    Nat → Run → Prop
  | unbegun : Stands lookup source word steps 0 (start lookup source word)
  | reached {place : Nat} {step : Step} : steps[place]? = some step →
    Stands lookup source word steps (place + 1)
      ⟨lookup, step.state, step.remaining, step.index, .underway⟩
  | exhausted {calls : Nat} {step : Step} : steps.getLast? = some step → steps.length < calls →
    Stands lookup source word steps calls
      ⟨lookup, step.state, step.remaining, step.index,
        if step.remaining = [] then .underway else .stuck⟩

namespace Stands

variable {lookup : Lookup} {source : StateId} {word : Word} {steps : List Step} {calls : Nat}
  {run : Run}

/-- A step behind which there is none is the last. -/
private theorem getLast?_of_behind {place : Nat} {step : Step} (found : steps[place]? = some step)
    (behind : steps[place + 1]? = none) : steps.getLast? = some step := by
  have within := (List.getElem?_eq_some_iff.mp found).1
  have beyond := List.getElem?_eq_none_iff.mp behind
  rw [List.getLast?_eq_getElem?, show steps.length - 1 = place by omega, found]

/-- The next call answers with the step at the place that the number of calls gives. -/
theorem next (isTrail : IsTrail lookup.next? source word steps)
    (stands : Stands lookup source word steps calls run) :
    run.next.value.1 = steps[calls]? ∧
      Stands lookup source word steps (calls + 1) run.next.value.2 := by
  cases stands with
  | unbegun => exact ⟨isTrail.first.symm, .reached isTrail.first⟩
  | @reached place step found =>
    have within := (List.getElem?_eq_some_iff.mp found).1
    have behind := isTrail.later place step found
    obtain ⟨state, symbol, remaining, index⟩ := step
    obtain rfl : index = place := isTrail.index_eq found
    cases remaining with
    | nil =>
      have last := getLast?_of_behind found behind
      have beyond := List.getElem?_eq_none_iff.mp behind
      exact ⟨behind.symm, .exhausted last (by omega)⟩
    | cons symbol rest =>
      cases moved : lookup.next? state symbol with
      | none =>
        simp only [moved, Option.map_none] at behind
        have last := getLast?_of_behind found behind
        have beyond := List.getElem?_eq_none_iff.mp behind
        rw [next_blocked moved]
        exact ⟨behind.symm, .exhausted last (by omega)⟩
      | some target =>
        simp only [moved, Option.map_some] at behind
        rw [next_moved moved]
        exact ⟨behind.symm, .reached behind⟩
  | @exhausted _ step last beyond =>
    have none : steps[calls]? = none := List.getElem?_eq_none (by omega)
    obtain ⟨state, symbol, remaining, index⟩ := step
    rw [none]
    cases remaining with
    | nil => exact ⟨rfl, .exhausted last (by omega)⟩
    | cons symbol rest => exact ⟨rfl, .exhausted last (by omega)⟩

/-- The steps that are still to come are those that were not yielded. -/
theorem exhausts (isTrail : IsTrail lookup.next? source word steps)
    (stands : Stands lookup source word steps calls run) :
    ∃ stopped, Exhausts run (steps.drop calls) stopped ∧
      Stands lookup source word steps (calls + (steps.drop calls).length + 1) stopped := by
  induction left : steps.length - calls generalizing calls run with
  | zero =>
    have none : steps[calls]? = none := List.getElem?_eq_none (by omega)
    obtain ⟨answer, after⟩ := stands.next isTrail
    rw [List.drop_eq_nil_of_le (by omega)]
    exact ⟨_, .done (Prod.ext (answer.trans none) rfl), after⟩
  | succ left ih =>
    have within : calls < steps.length := by omega
    obtain ⟨answer, after⟩ := stands.next isTrail
    obtain ⟨stopped, onward, ended⟩ := ih after (by omega)
    rw [List.getElem?_eq_getElem within] at answer
    rw [List.drop_eq_getElem_cons within]
    refine ⟨stopped, .step (Prod.ext answer rfl) onward, ?_⟩
    rwa [List.length_cons, show calls + ((steps.drop (calls + 1)).length + 1) + 1 =
      calls + 1 + (steps.drop (calls + 1)).length + 1 by omega]

theorem rest (isTrail : IsTrail lookup.next? source word steps)
    (stands : Stands lookup source word steps calls run) :
    run.rest.value.1 = steps.drop calls ∧
      Stands lookup source word steps (calls + (steps.drop calls).length + 1)
        run.rest.value.2 := by
  obtain ⟨stopped, exhausts, ended⟩ := stands.exhausts isTrail
  obtain ⟨yielded, rfl⟩ := (exhausts_rest run).unique exhausts
  exact ⟨yielded, ended⟩

/-- A run stands where its last yielded step does, or where it began if there is none. -/
theorem position (stands : Stands lookup source word steps calls run) :
    match min calls steps.length with
    | 0 => run.state = source ∧ run.remaining = word
    | earlier + 1 => ∃ step, steps[earlier]? = some step ∧
        run.state = step.state ∧ run.remaining = step.remaining := by
  cases stands with
  | unbegun =>
    rw [Nat.zero_min]
    exact ⟨rfl, rfl⟩
  | @reached place step found =>
    have within := (List.getElem?_eq_some_iff.mp found).1
    rw [Nat.min_eq_left (show place + 1 ≤ steps.length from within)]
    exact ⟨step, found, rfl, rfl⟩
  | @exhausted _ step last beyond =>
    rw [Nat.min_eq_right (show steps.length ≤ calls by omega)]
    rw [List.getLast?_eq_getElem?] at last
    have within := (List.getElem?_eq_some_iff.mp last).1
    obtain ⟨earlier, length⟩ := Nat.exists_eq_succ_of_ne_zero (Nat.ne_zero_of_lt within)
    rw [length] at last ⊢
    exact ⟨step, last, rfl, rfl⟩

/-- A run has failed if something of the word is left and a step beyond the last was asked for. -/
theorem failure?_eq (stands : Stands lookup source word steps calls run) :
    run.failure? =
      if steps.length < calls then
        match run.remaining with
        | [] => none
        | symbol :: _ => some (.missingTransition run.state symbol)
      else none := by
  cases stands with
  | unbegun => simp [failure?, start]
  | @reached place step found =>
    have within := (List.getElem?_eq_some_iff.mp found).1
    rw [if_neg (by omega)]
    rfl
  | @exhausted _ step last beyond =>
    rw [if_pos beyond]
    cases left : step.remaining <;> simp [failure?]

end Stands

/-! ## Runs in use -/

/-- The answers that an operation gets from calling `next` on the run itself. -/
def Operation.calls (run : Run) : Operation → List (Option Step)
  | .next => [run.next.value.1]
  | .collect | .count => run.rest.value.1.map some ++ [none]
  | .preview | .restart => []

/-- A run in use, with the answers to all calls of `next` since it was started. -/
structure Use where
  run : Run
  answers : List (Option Step)

namespace Use

/-- The use of a run goes on with an operation; `begun` is the run as it was started. -/
def continued (begun : Run) (use : Use) (operation : Operation) : Use :=
  ⟨(begun.perform use.run operation).value.2,
    if operation = .restart then [] else use.answers ++ operation.calls use.run⟩

/-- The use of a run after operations. -/
def after (begun : Run) (operations : List Operation) : Use :=
  operations.foldl (continued begun) ⟨begun, []⟩

/-- The steps that the run has yielded since it was started. -/
def yielded (use : Use) : List Step := use.answers.reduceOption

/-- How many steps the run has yielded since it was started. -/
def count (use : Use) : Nat := use.yielded.length

/-- Since the last step, if any, a further one was asked for. -/
def Refused (use : Use) : Prop := use.answers.getLast? = some none

/-- What a run in use is expected to do, given the steps of its word: it goes through them in order,
each operation takes or shows the next ones, and it has failed only after it was asked for more than
the last of them. -/
structure KeepsTo (begun : Run) (steps : List Step) (use : Use) : Prop where
  yielded : use.yielded = steps.take use.count
  position :
    match use.count with
    | 0 => use.run.state = begun.state ∧ use.run.remaining = begun.remaining
    | earlier + 1 => ∃ step, steps[earlier]? = some step ∧
        use.run.state = step.state ∧ use.run.remaining = step.remaining
  next : (begun.perform use.run .next).value.1 = .step steps[use.count]?
  collect : (begun.perform use.run .collect).value.1 = .steps (steps.drop use.count)
  count : (begun.perform use.run .count).value.1 = .count (steps.drop use.count).length
  taken : ∀ operation ∈ [Operation.collect, .count],
    Exhausts use.run (steps.drop use.count) (begun.perform use.run operation).value.2
  preview : (begun.perform use.run .preview).value = (.steps (steps.drop use.count), use.run)
  restart : (begun.perform use.run .restart).value = (.nothing, begun)
  failed : use.run.failure?.isSome ↔
    use.count = steps.length ∧ use.run.remaining ≠ [] ∧ use.Refused
  failure : ∀ failure, use.run.failure? = some failure → ∃ symbol rest,
    use.run.remaining = symbol :: rest ∧ failure = .missingTransition use.run.state symbol
  fused : ∀ stopped, use.run.next.value = (none, stopped) → ∀ more,
    begun.performAll stopped (List.replicate more .next) =
      pure (List.replicate more (.step none, stopped))

/-- After so many calls of `next` the run stands in its place, and the calls were answered by the
steps in their order. -/
structure Settled (lookup : Lookup) (source : StateId) (word : Word) (steps : List Step)
    (calls : Nat) (use : Use) : Prop where
  stands : Stands lookup source word steps calls use.run
  answers : use.answers = (List.range calls).map (steps[·]?)

variable {lookup : Lookup} {source : StateId} {word : Word} {steps : List Step} {calls : Nat}
  {use : Use}

/-- Asking from a place on until nothing comes goes over all places up to the end and one more. -/
private theorem answers_append_drop (steps : List Step) (calls : Nat) :
    (List.range calls).map (steps[·]?) ++ ((steps.drop calls).map some ++ [none]) =
      (List.range (calls + (steps.drop calls).length + 1)).map (steps[·]?) := by
  have behind : (steps.drop calls).map some =
      (List.range (steps.drop calls).length).map fun place => steps[calls + place]? := by
    apply List.ext_getElem (by simp)
    intro place within _
    simp only [List.length_map, List.length_drop] at within
    simp only [List.getElem_map, List.getElem_drop, List.getElem_range]
    exact (List.getElem?_eq_getElem (by omega)).symm
  have beyond : steps[calls + (steps.drop calls).length]? = none := by
    rw [List.length_drop]
    exact List.getElem?_eq_none (by omega)
  rw [List.range_succ, List.map_append, List.range_add, List.map_append, List.map_map, behind,
    List.map_singleton, beyond, List.append_assoc]
  rfl

/-- Whatever is done with a run, it stands where the number of calls of `next` says. -/
theorem Settled.continued (isTrail : Walk.IsTrail lookup.next? source word steps)
    (settled : Settled lookup source word steps calls use) (operation : Operation) :
    ∃ more, Settled lookup source word steps more
      (use.continued (start lookup source word) operation) := by
  obtain ⟨stands, answers⟩ := settled
  have taken : Settled lookup source word steps (calls + (steps.drop calls).length + 1)
      ⟨use.run.rest.value.2, use.answers ++ (use.run.rest.value.1.map some ++ [none])⟩ := by
    obtain ⟨yielded, ended⟩ := stands.rest isTrail
    exact ⟨ended, by rw [answers, yielded, answers_append_drop]⟩
  cases operation with
  | next =>
    obtain ⟨answer, after⟩ := stands.next isTrail
    refine ⟨calls + 1, after, ?_⟩
    change use.answers ++ [use.run.next.value.1] = _
    rw [answers, answer, List.range_succ, List.map_append, List.map_singleton]
  | collect => exact ⟨_, taken⟩
  | count => exact ⟨_, taken⟩
  | preview => exact ⟨calls, stands, by simpa [Use.continued, Operation.calls] using answers⟩
  | restart => exact ⟨0, .unbegun, rfl⟩

/-- The same after any operations on a run that was just started. -/
theorem exists_settled_after (isTrail : Walk.IsTrail lookup.next? source word steps)
    (operations : List Operation) :
    ∃ calls,
      Settled lookup source word steps calls (after (start lookup source word) operations) := by
  have onward (use : Use) (begun : ∃ calls, Settled lookup source word steps calls use) :
      ∃ calls, Settled lookup source word steps calls
        (operations.foldl (Use.continued (start lookup source word)) use) := by
    induction operations generalizing use with
    | nil => exact begun
    | cons operation rest ih =>
      obtain ⟨calls, settled⟩ := begun
      exact ih _ (settled.continued isTrail operation)
  exact onward _ ⟨0, .unbegun, rfl⟩

namespace Settled

/-- What was yielded are the steps up to the number of calls. -/
theorem yielded (settled : Settled lookup source word steps calls use) :
    use.yielded = steps.take calls := by
  rw [Use.yielded, settled.answers]
  clear settled
  induction calls with
  | zero => rfl
  | succ calls ih =>
    rw [List.range_succ, List.map_append, List.map_singleton, List.reduceOption_append, ih,
      List.reduceOption_singleton, List.take_add_one]

theorem count_eq (settled : Settled lookup source word steps calls use) :
    use.count = min calls steps.length := by
  rw [Use.count, settled.yielded, List.length_take]

/-- More steps than there are were asked for exactly if the last call was in vain. -/
theorem refused_iff (settled : Settled lookup source word steps calls use) :
    use.Refused ↔ steps.length < calls := by
  rw [Refused, settled.answers]
  cases calls with
  | zero => simp
  | succ calls =>
    rw [Nat.lt_succ_iff]
    simp [List.range_succ]

/-- Steps that were not asked for are steps that were not yielded. -/
theorem drop_count (settled : Settled lookup source word steps calls use) :
    steps.drop use.count = steps.drop calls := by
  rw [settled.count_eq]
  rcases Nat.le_total calls steps.length with within | beyond
  · rw [Nat.min_eq_left within]
  · rw [Nat.min_eq_right beyond, List.drop_length, List.drop_eq_nil_of_le beyond]

theorem getElem?_count (settled : Settled lookup source word steps calls use) :
    steps[use.count]? = steps[calls]? := by
  rw [← List.head?_drop, settled.drop_count, List.head?_drop]

theorem failed_iff (settled : Settled lookup source word steps calls use) :
    use.run.failure?.isSome ↔
      use.count = steps.length ∧ use.run.remaining ≠ [] ∧ use.Refused := by
  rw [settled.stands.failure?_eq, settled.refused_iff, settled.count_eq]
  by_cases beyond : steps.length < calls
  · have all : min calls steps.length = steps.length := Nat.min_eq_right (by omega)
    cases use.run.remaining <;> simp [beyond, all]
  · simp [beyond]

theorem eq_of_failure? (settled : Settled lookup source word steps calls use)
    {failure : RunFailure} (failed : use.run.failure? = some failure) :
    ∃ symbol rest, use.run.remaining = symbol :: rest ∧
      failure = .missingTransition use.run.state symbol := by
  rw [settled.stands.failure?_eq] at failed
  split at failed
  · cases left : use.run.remaining with
    | nil => simp [left] at failed
    | cons symbol rest =>
      simp only [left, Option.some.injEq] at failed
      exact ⟨symbol, rest, rfl, failed.symm⟩
  · cases failed

end Settled

/-- A run whose last call was in vain stays as it is and says nothing, however often it is asked. -/
theorem performAll_next_of_exhausted {run stopped : Run} (begun : Run)
    (vain : run.next.value = (none, stopped)) (more : Nat) :
    begun.performAll stopped (List.replicate more .next) =
      pure (List.replicate more (.step none, stopped)) := by
  have still : stopped.next = pure (none, stopped) := by
    obtain ⟨lookup, state, remaining, index, phase⟩ := run
    cases phase with
    | fresh => cases vain
    | underway =>
      cases remaining with
      | nil =>
        cases vain
        rfl
      | cons symbol rest =>
        cases found : lookup.next? state symbol with
        | none =>
          rw [next_blocked found] at vain
          cases vain
          rfl
        | some target =>
          rw [next_moved found] at vain
          cases vain
    | stuck =>
      rw [value_next_of_stuck rfl] at vain
      cases vain
      rfl
  induction more with
  | zero => rfl
  | succ more ih =>
    rw [List.replicate_succ, performAll, perform, still]
    simp only [map_pure, pure_bind, ih]
    rfl

theorem Settled.keepsTo (isTrail : Walk.IsTrail lookup.next? source word steps)
    (settled : Settled lookup source word steps calls use) :
    KeepsTo (start lookup source word) steps use := by
  have rest := (settled.stands.rest isTrail).1
  rw [← settled.drop_count] at rest
  have exhausts := exhausts_rest use.run
  rw [rest] at exhausts
  exact {
    yielded := by
      rw [settled.yielded, settled.count_eq, List.take_eq_take_min]
    position := by
      rw [settled.count_eq]
      exact settled.stands.position
    next := by
      rw [settled.getElem?_count]
      exact congrArg Answer.step (settled.stands.next isTrail).1
    collect := congrArg Answer.steps rest
    count := congrArg (Answer.count ∘ List.length) rest
    taken := by
      intro operation taking
      rcases List.mem_pair.mp taking with rfl | rfl
      · exact exhausts
      · exact exhausts
    preview := congrArg (Answer.steps · , use.run) rest
    restart := rfl
    failed := settled.failed_iff
    failure := fun _ => settled.eq_of_failure?
    fused := fun _ vain more => performAll_next_of_exhausted _ vain more }

/-- Each operation is answered by the run that the operations before it left. -/
theorem getElem?_performAll (begun : Run) (operations : List Operation) (place : Nat) :
    (begun.performAll begun operations).value[place]? =
      operations[place]?.map fun operation =>
        (begun.perform (after begun (operations.take place)).run operation).value := by
  have onward (use : Use) : (begun.performAll use.run operations).value[place]? =
      operations[place]?.map fun operation =>
        (begun.perform ((operations.take place).foldl (continued begun) use).run
          operation).value := by
    induction operations generalizing use place with
    | nil => rfl
    | cons operation rest ih =>
      cases place with
      | zero => rfl
      | succ place => exact ih place (use.continued begun operation)
  exact onward ⟨begun, []⟩

end Use

end Run

/-- A run of a word in use. Its steps are those of the word, the only list that follows first
transitions as far as they lead. Whatever operations were done, each was answered by the run as the
ones before it left it, and the run keeps to the steps: those it yielded since it was last started
are the first ones, it stands at the last of them, and all that is left to come are the others. -/
theorem run_keeps_to_steps (automaton : Automaton) (word : Word) :
    (∀ steps, Walk.IsTrail (firstTarget? automaton.transitions) automaton.initial word steps ↔
      steps = (automaton.steps word).value) ∧
    (automaton.run word).state = automaton.initial ∧ (automaton.run word).remaining = word ∧
    ∀ operations,
      (∀ place, ((automaton.run word).performAll (automaton.run word) operations).value[place]? =
        operations[place]?.map fun operation =>
          ((automaton.run word).perform
            (Run.Use.after (automaton.run word) (operations.take place)).run operation).value) ∧
      (Run.Use.after (automaton.run word) operations).KeepsTo (automaton.run word)
        (automaton.steps word).value := by
  have only (steps : List Step) :
      Walk.IsTrail (firstTarget? automaton.transitions) automaton.initial word steps ↔
        steps = (automaton.steps word).value := by
    rw [Automaton.value_steps]
    exact Walk.isTrail_iff
  refine ⟨only, rfl, rfl, fun operations => ?_⟩
  have isTrail : Walk.IsTrail automaton.lookup.next? automaton.initial word
      (automaton.steps word).value := by
    rw [Automaton.lookup_next?]
    exact (only _).mpr rfl
  obtain ⟨calls, settled⟩ := Run.Use.exists_settled_after isTrail operations
  exact ⟨Run.Use.getElem?_performAll _ operations, settled.keepsTo isTrail⟩

end Acceptor
