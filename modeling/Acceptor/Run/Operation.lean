import Acceptor.Run.Basic

/-! # Handling a run

What can be done with a run that somebody holds, as data: ask for a step, take or count all steps
that are left, look at them without moving, start over. Each operation has an answer and leaves a
run behind, the same one unless the operation moves it.
-/

namespace Acceptor.Run

/-- One thing to do with a run. -/
inductive Operation
  | next
  /-- All steps that are left. -/
  | collect
  /-- How many steps are left; counting them takes them. -/
  | count
  /-- All steps that are left, by a copy of the run. -/
  | preview
  /-- Begin at the initial state again. -/
  | restart
deriving DecidableEq, Repr

/-- What an operation yields. -/
inductive Answer
  | step (step : Option Step)
  | steps (steps : List Step)
  | count (count : Nat)
  | nothing
deriving DecidableEq, Repr

/-- Does one thing; `begun` is the run as it was started. -/
def perform (begun run : Run) : Operation → Traced Event (Answer × Run)
  | .next => (fun moved => (.step moved.1, moved.2)) <$> run.next
  | .collect => (fun ended => (.steps ended.1, ended.2)) <$> run.rest
  | .count => (fun ended => (.count ended.1.length, ended.2)) <$> run.rest
  | .preview => (fun ended => (.steps ended.1, run)) <$> run.rest
  | .restart => pure (.nothing, begun)

/-- Does one thing after another: each answer and the run after it. -/
def performAll (begun : Run) : Run → List Operation → Traced Event (List (Answer × Run))
  | _, [] => pure []
  | run, operation :: rest => do
    let done ← begun.perform run operation
    (done :: ·) <$> performAll begun done.2 rest

theorem perform_preview (begun run : Run) : (begun.perform run .preview).value.2 = run := rfl

theorem perform_restart (begun run : Run) : (begun.perform run .restart).value.2 = begun := rfl

end Acceptor.Run
